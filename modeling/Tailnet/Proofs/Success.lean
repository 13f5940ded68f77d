import Mathlib.Data.List.Forall2

/-!
Computations that may fail, seen from their successes. A chain of steps succeeds exactly if every
step does, and a list is gone through exactly if each of its items is.
-/

namespace Tailnet

variable {ε ε' α β : Type}

theorem ok_bind (a : α) (f : α → Except ε β) : (.ok a >>= f) = f a := rfl

theorem bind_eq_ok_iff {x : Except ε α} {f : α → Except ε β} {b : β} :
    x >>= f = .ok b ↔ ∃ a, x = .ok a ∧ f a = .ok b := by
  cases x with
  | error cause => simp [bind, Except.bind]
  | ok a => simp [bind, Except.bind]

theorem bind_eq_error_iff {x : Except ε α} {f : α → Except ε β} {cause : ε} :
    x >>= f = .error cause ↔ x = .error cause ∨ ∃ a, x = .ok a ∧ f a = .error cause := by
  cases x with
  | error other => simp [bind, Except.bind]
  | ok a => simp [bind, Except.bind]

theorem exists_eq_ok_iff {x : Except ε α} : (∃ a, x = .ok a) ↔ x.isOk = true := by
  cases x with
  | error cause => simp [Except.isOk, Except.toBool]
  | ok a => simp [Except.isOk, Except.toBool]

theorem not_exists_ok {cause : ε} : ¬∃ a : α, Except.error cause = .ok a := by
  rintro ⟨_, h⟩
  cases h

theorem toOption_eq_some_iff {x : Except ε α} {a : α} : x.toOption = some a ↔ x = .ok a := by
  cases x with
  | error cause => simp [Except.toOption]
  | ok b => simp [Except.toOption]

/-- A computation is seen to succeed by a check of its result. -/
theorem exists_ok_of_check (x : Except ε α) (check : α → Bool)
    (h : (match x with
      | .ok a => check a
      | .error _ => false) = true) : ∃ a, x = .ok a ∧ check a = true := by
  cases x with
  | ok a => exact ⟨a, rfl, h⟩
  | error cause => cases h

theorem exists_bind_eq_ok_iff {x : Except ε α} {f : α → Except ε β} :
    (∃ b, x >>= f = .ok b) ↔ ∃ a, x = .ok a ∧ ∃ b, f a = .ok b := by
  simp only [bind_eq_ok_iff]
  constructor
  · rintro ⟨b, a, hx, hf⟩
    exact ⟨a, hx, b, hf⟩
  · rintro ⟨a, hx, b, hf⟩
    exact ⟨b, a, hx, hf⟩

theorem map_eq_ok_iff {x : Except ε α} {f : α → β} {b : β} :
    x.map f = .ok b ↔ ∃ a, x = .ok a ∧ f a = b := by
  cases x with
  | error cause => simp [Except.map]
  | ok a => simp [Except.map]

theorem mapError_eq_ok_iff {x : Except ε α} {f : ε → ε'} {a : α} :
    x.mapError f = .ok a ↔ x = .ok a := by
  cases x with
  | error cause => simp [Except.mapError]
  | ok b => simp [Except.mapError]

theorem mapError_eq_error_iff {x : Except ε α} {f : ε → ε'} {cause : ε'} :
    x.mapError f = .error cause ↔ ∃ original, x = .error original ∧ f original = cause := by
  cases x with
  | error original => simp [Except.mapError]
  | ok a => simp [Except.mapError]

theorem pure_eq_ok_iff {a b : α} : (pure a : Except ε α) = .ok b ↔ a = b := by
  simp [pure, Except.pure]

/-- Going through a list succeeds exactly with the list of the results for its items. -/
theorem mapM_eq_ok_iff {f : α → Except ε β} {items : List α} {results : List β} :
    items.mapM f = .ok results ↔ List.Forall₂ (fun a b => f a = .ok b) items results := by
  induction items generalizing results with
  | nil =>
      rw [List.mapM_nil, pure_eq_ok_iff, List.forall₂_nil_left_iff]
      exact eq_comm
  | cons item rest ih =>
      rw [List.mapM_cons, bind_eq_ok_iff, List.forall₂_cons_left_iff]
      constructor
      · rintro ⟨b, hItem, hRest⟩
        obtain ⟨others, hOthers, hResults⟩ := bind_eq_ok_iff.mp hRest
        exact ⟨b, others, hItem, ih.mp hOthers, (pure_eq_ok_iff.mp hResults).symm⟩
      · rintro ⟨b, others, hItem, hOthers, rfl⟩
        exact ⟨b, hItem, bind_eq_ok_iff.mpr ⟨others, ih.mpr hOthers, rfl⟩⟩

/-- Each item of a list that was gone through has its result among the results. -/
theorem exists_mem_of_mapM {f : α → Except ε β} {items : List α} {results : List β}
    (h : items.mapM f = .ok results) {a : α} (ha : a ∈ items) : ∃ b ∈ results, f a = .ok b := by
  have hAll := mapM_eq_ok_iff.mp h
  obtain ⟨i, hi, rfl⟩ := List.getElem_of_mem ha
  have hLength : i < results.length := hAll.length_eq ▸ hi
  exact ⟨results[i], List.getElem_mem hLength, hAll.get hi hLength⟩

/-- Each result is that of an item. -/
theorem exists_mem_of_mem_results {f : α → Except ε β} {items : List α} {results : List β}
    (h : items.mapM f = .ok results) {b : β} (hb : b ∈ results) : ∃ a ∈ items, f a = .ok b := by
  have hAll := mapM_eq_ok_iff.mp h
  obtain ⟨i, hi, rfl⟩ := List.getElem_of_mem hb
  have hLength : i < items.length := hAll.length_eq ▸ hi
  exact ⟨items[i], List.getElem_mem hLength, hAll.get hLength hi⟩

/-- A list is gone through if each of its items has a result. -/
theorem exists_mapM_of_forall {f : α → Except ε β} {items : List α}
    (h : ∀ a ∈ items, ∃ b, f a = .ok b) : ∃ results, items.mapM f = .ok results := by
  induction items with
  | nil => exact ⟨[], rfl⟩
  | cons item rest ih =>
      obtain ⟨⟨b, hItem⟩, hRest⟩ := List.forall_mem_cons.mp h
      obtain ⟨results, hResults⟩ := ih hRest
      refine ⟨b :: results, ?_⟩
      rw [List.mapM_cons, hItem, ok_bind, hResults]
      rfl

theorem exists_mapM_eq_ok_iff {f : α → Except ε β} {items : List α} :
    (∃ results, items.mapM f = .ok results) ↔ ∀ a ∈ items, ∃ b, f a = .ok b := by
  refine ⟨fun ⟨results, hResults⟩ a ha => ?_, exists_mapM_of_forall⟩
  obtain ⟨b, -, hItem⟩ := exists_mem_of_mapM hResults ha
  exact ⟨b, hItem⟩

/-- A list is gone through if each of its items has a result, and results that are related to
others one by one are so as a list. -/
theorem exists_mapM_of_forall₂ {γ : Type} {f : α → Except ε β} {related : β → γ → Prop}
    {items : List α} {others : List γ}
    (h : List.Forall₂ (fun a c => ∃ b, f a = .ok b ∧ related b c) items others) :
    ∃ results, items.mapM f = .ok results ∧ List.Forall₂ related results others := by
  induction h with
  | nil => exact ⟨[], rfl, .nil⟩
  | cons hFirst _ ih =>
      obtain ⟨b, hItem, hRelated⟩ := hFirst
      obtain ⟨results, hRest, hResults⟩ := ih
      refine ⟨b :: results, ?_, .cons hRelated hResults⟩
      rw [List.mapM_cons, hItem, ok_bind, hRest]
      rfl

/-- Items that are read with their positions, of which nothing depends. -/
theorem mapM_zipIdx_eq_ok_map {f : β × Nat → Except ε α} {written : α → β} {items : List α}
    (start : Nat) (h : ∀ a ∈ items, ∀ i, f (written a, i) = .ok a) :
    ((items.map written).zipIdx start).mapM f = .ok items := by
  induction items generalizing start with
  | nil => rfl
  | cons item rest ih =>
      rw [List.forall_mem_cons] at h
      rw [List.map_cons, List.zipIdx_cons, List.mapM_cons, h.1, ok_bind, ih (start + 1) h.2]
      rfl

/-- If nothing was found in a whole list, nothing was found in any of its items. -/
theorem eq_ok_nil_of_mapM_flatten {f : α → Except ε (List β)} {items : List α}
    {found : List (List β)} (h : items.mapM f = .ok found) (hNone : found.flatten = []) :
    ∀ a ∈ items, f a = .ok [] := by
  intro a ha
  obtain ⟨b, hb, hItem⟩ := exists_mem_of_mapM h ha
  rw [List.flatten_eq_nil_iff] at hNone
  rwa [hNone b hb] at hItem

/-- A state built up from values that must be read first is built from all of them or not at
all. -/
theorem foldlM_eq_ok_iff {σ : Type} {read : α → Except ε β} {step : σ → β → σ} {items : List α}
    {start result : σ} :
    items.foldlM (fun state a => do return step state (← read a)) start = .ok result ↔
      ∃ values, items.mapM read = .ok values ∧ result = values.foldl step start := by
  induction items generalizing start with
  | nil =>
      simp only [List.foldlM_nil, List.mapM_nil, pure_eq_ok_iff]
      constructor
      · rintro rfl
        exact ⟨[], rfl, rfl⟩
      · rintro ⟨values, rfl, rfl⟩
        rfl
  | cons item rest ih =>
      simp only [List.foldlM_cons, List.mapM_cons, bind_eq_ok_iff, pure_eq_ok_iff]
      constructor
      · rintro ⟨-, ⟨value, hValue, rfl⟩, hRest⟩
        obtain ⟨values, hValues, rfl⟩ := ih.mp hRest
        exact ⟨value :: values, ⟨value, hValue, values, hValues, rfl⟩, rfl⟩
      · rintro ⟨-, ⟨value, hValue, values, hValues, rfl⟩, rfl⟩
        exact ⟨_, ⟨value, hValue, rfl⟩, ih.mpr ⟨values, hValues, rfl⟩⟩

/-- What every step that succeeds keeps holds after all steps. -/
theorem invariant_of_foldlM {σ : Type} {invariant : σ → Prop} {step : σ → α → Except ε σ}
    (hStep : ∀ state a next, invariant state → step state a = .ok next → invariant next)
    {items : List α} {start result : σ} (h : invariant start)
    (hResult : items.foldlM step start = .ok result) : invariant result := by
  induction items generalizing start with
  | nil =>
      cases hResult
      exact h
  | cons item rest ih =>
      obtain ⟨next, hNext, hRest⟩ := bind_eq_ok_iff.mp hResult
      exact ih (hStep start item next h hNext) hRest

/-- Steps one after the other fail exactly if the first of them that fails does so. -/
theorem foldlM_eq_error_iff {σ : Type} {step : σ → α → Except ε σ} {items : List α} {start : σ}
    {cause : ε} :
    items.foldlM step start = .error cause ↔
      ∃ before item after state, items = before ++ item :: after ∧
        before.foldlM step start = .ok state ∧ step state item = .error cause := by
  constructor
  · intro h
    induction items generalizing start with
    | nil => cases h
    | cons item rest ih =>
        rcases bind_eq_error_iff.mp h with hFirst | ⟨next, hNext, hRest⟩
        · exact ⟨[], item, rest, start, rfl, rfl, hFirst⟩
        · obtain ⟨before, later, after, state, rfl, hBefore, hLater⟩ := ih hRest
          exact ⟨item :: before, later, after, state, rfl,
            bind_eq_ok_iff.mpr ⟨next, hNext, hBefore⟩, hLater⟩
  · rintro ⟨before, item, after, state, rfl, hBefore, hItem⟩
    rw [List.foldlM_append, hBefore, ok_bind, List.foldlM_cons, hItem]
    rfl

/-- Whether a computation gives a good result or fails for a stated reason. -/
inductive Meets (good : α → Prop) (stated : ε → Prop) : Except ε α → Prop where
  | ok {a : α} (h : good a) : Meets good stated (.ok a)
  | error {cause : ε} (h : stated cause) : Meets good stated (.error cause)

namespace Meets

variable {σ : Type} {good : α → Prop} {stated : ε → Prop}

theorem imp {other : α → Prop} {x : Except ε α} (h : Meets good stated x)
    (hImp : ∀ a, good a → other a) : Meets other stated x := by
  cases h with
  | ok h => exact .ok (hImp _ h)
  | error h => exact .error h

theorem bind {next : β → Prop} {x : Except ε α} {f : α → Except ε β} (h : Meets good stated x)
    (hNext : ∀ a, good a → Meets next stated (f a)) : Meets next stated (x >>= f) := by
  cases h with
  | ok h => exact hNext _ h
  | error h => exact .error h

theorem foldlM {invariant : σ → Prop} {step : σ → α → Except ε σ}
    (hStep : ∀ state a, invariant state → Meets invariant stated (step state a)) {start : σ}
    (h : invariant start) (items : List α) : Meets invariant stated (items.foldlM step start) := by
  induction items generalizing start with
  | nil => exact .ok h
  | cons item rest ih =>
      rw [List.foldlM_cons]
      exact (hStep start item h).bind fun next hNext => ih hNext

theorem mapM {f : α → Except ε β} (h : ∀ a, Meets (fun _ => True) stated (f a))
    (items : List α) : Meets (fun _ => True) stated (items.mapM f) := by
  induction items with
  | nil => exact .ok trivial
  | cons item rest ih =>
      rw [List.mapM_cons]
      exact (h item).bind fun _ _ => ih.bind fun _ _ => .ok trivial

theorem explain {reason : ε → Prop} {x : Except ε α} (h : Meets good stated x)
    (hImp : ∀ cause, stated cause → reason cause) : Meets good reason x := by
  cases h with
  | ok h => exact .ok h
  | error h => exact .error (hImp _ h)

/-- A computation of which a part is done under a condition only, and the rest in any case. -/
theorem guarded {condition : Prop} [Decidable condition] {checked rest : Except ε α}
    (hRest : Meets good stated rest)
    (hChecked : Meets good stated rest → Meets good stated checked) :
    Meets good stated (if condition then checked else rest) := by
  split
  · exact hChecked hRest
  · exact hRest

/-- Something is done for the value that there is, if there is one. -/
theorem forOption {check : α → Except ε PUnit} (h : ∀ a, Meets (fun _ => True) stated (check a))
    (found : Option α) : Meets (fun _ => True) stated (forIn found PUnit.unit fun a _ => do
      check a
      return ForInStep.yield PUnit.unit) := by
  cases found with
  | none => exact .ok trivial
  | some a =>
      have hStep : Meets (fun _ => True) stated (do
          check a
          return ForInStep.yield PUnit.unit) := (h a).bind fun _ _ => .ok trivial
      refine hStep.bind fun step _ => ?_
      cases step with
      | done => exact .ok trivial
      | yield => exact .ok trivial

/-- A computation whose errors are told in other words fails for the reasons that these state. -/
theorem mapError {f : ε' → ε} (h : ∀ cause, stated (f cause)) (x : Except ε' α) :
    Meets (fun _ => True) stated (x.mapError f) := by
  cases x with
  | ok a => exact .ok trivial
  | error cause => exact .error (h cause)

/-- What succeeds does so with its result. -/
theorem self {x : Except ε α} (h : Meets good stated x) : Meets (fun a => x = .ok a) stated x := by
  cases h with
  | ok => exact .ok rfl
  | error h => exact .error h

/-- What gives no good result fails for a stated reason. -/
theorem exists_error {x : Except ε α} (h : Meets (fun _ => False) stated x) :
    ∃ cause, x = .error cause ∧ stated cause := by
  cases h with
  | ok h => exact h.elim
  | error h => exact ⟨_, rfl, h⟩

end Meets

end Tailnet
