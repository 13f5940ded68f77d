import Tailnet.Proofs.Overlay.Sections

/-!
Merging arbitrary data section by section. The sections do not depend on one another: merging stops
at the first one that cannot be merged, and otherwise each is merged as it is in base and overlay.
-/

namespace Tailnet.Overlay

open Source (field?)

/-- A section cannot be merged. -/
def Fails (base overlay : Mapping) (part : String × Merge) (cause : OverlayError) : Prop :=
  ∃ above, field? overlay part.1 = some above ∧
    part.2 ((field? base part.1).getD .null) above = .error cause

/-- The first of some sections that cannot be merged fails for a cause. -/
inductive FirstFails (base overlay : Mapping) : List (String × Merge) → OverlayError → Prop where
  | here {part : String × Merge} {cause : OverlayError} (rest : List (String × Merge))
      (h : Fails base overlay part cause) : FirstFails base overlay (part :: rest) cause
  | later {part : String × Merge} {rest : List (String × Merge)} {cause : OverlayError}
      (hPart : ∀ other, ¬Fails base overlay part other) (h : FirstFails base overlay rest cause) :
      FirstFails base overlay (part :: rest) cause

/-- Each section is merged with what the base has of it. -/
def MergesAll (base overlay merged : Mapping) (parts : List (String × Merge)) : Prop :=
  ∀ part ∈ parts,
    Merges part.2 (field? base part.1) (field? overlay part.1) (field? merged part.1)

variable {base overlay : Mapping}

theorem Fails.unique {part : String × Merge} {cause other : OverlayError}
    (h : Fails base overlay part cause) (hOther : Fails base overlay part other) :
    cause = other := by
  obtain ⟨above, hAbove, h⟩ := h
  obtain ⟨_, hFound, hOther⟩ := hOther
  cases hAbove.symm.trans hFound
  exact Except.error.inj (h.symm.trans hOther)

/-- Sections fail by what the base has of them. -/
theorem fails_congr {other : Mapping} {part : String × Merge} {cause : OverlayError}
    (h : field? other part.1 = field? base part.1) :
    Fails other overlay part cause ↔ Fails base overlay part cause := by
  rw [Fails, h, Fails]

theorem FirstFails.of_eq {other : Mapping} {parts : List (String × Merge)} {cause : OverlayError}
    (hFirst : FirstFails other overlay parts cause)
    (h : ∀ part ∈ parts, field? other part.1 = field? base part.1) :
    FirstFails base overlay parts cause := by
  induction hFirst with
  | here rest hFails => exact .here rest ((fails_congr (h _ List.mem_cons_self)).mp hFails)
  | later hPart _ ih =>
      have hRest := ih fun part hIn => h part (List.mem_cons_of_mem _ hIn)
      refine .later (fun cause hFails => ?_) hRest
      exact hPart cause ((fails_congr (h _ List.mem_cons_self)).mpr hFails)

theorem FirstFails.exists_fails {parts : List (String × Merge)} {cause : OverlayError}
    (h : FirstFails base overlay parts cause) : ∃ part ∈ parts, Fails base overlay part cause := by
  induction h with
  | here rest h => exact ⟨_, List.mem_cons_self, h⟩
  | later _ _ ih =>
      obtain ⟨part, hPart, hFails⟩ := ih
      exact ⟨part, List.mem_cons_of_mem _ hPart, hFails⟩

theorem FirstFails.unique {parts : List (String × Merge)} {cause other : OverlayError}
    (h : FirstFails base overlay parts cause) (hOther : FirstFails base overlay parts other) :
    cause = other := by
  induction h with
  | here rest h =>
      cases hOther with
      | here _ hOther => exact h.unique hOther
      | later hPart _ => exact absurd h (hPart _)
  | later hPart _ ih =>
      cases hOther with
      | here _ hOther => exact absurd hOther (hPart _)
      | later _ hOther => exact ih hOther

theorem Merges.not_fails {part : String × Merge} {result : Option Value}
    (h : Merges part.2 (field? base part.1) (field? overlay part.1) result) (cause : OverlayError) :
    ¬Fails base overlay part cause := by
  rintro ⟨above, hAbove, hFails⟩
  rw [hAbove] at h
  cases h with
  | merged hMerge => cases hMerge.symm.trans hFails

theorem mergeSection_of_fails {part : String × Merge} {cause : OverlayError}
    (h : Fails base overlay part cause) :
    mergeSection part.2 part.1 overlay base = .error cause := by
  obtain ⟨above, hAbove, h⟩ := h
  rw [mergeSection, hAbove]
  dsimp only
  rw [h]
  rfl

/-- A section that does not fail is merged, and no other section is changed. -/
theorem exists_mergeSection_of_not_fails {part : String × Merge}
    (h : ∀ cause, ¬Fails base overlay part cause) :
    ∃ merged, mergeSection part.2 part.1 overlay base = .ok merged ∧
      Merges part.2 (field? base part.1) (field? overlay part.1) (field? merged part.1) ∧
      ∀ other ≠ part.1, field? merged other = field? base other := by
  unfold mergeSection
  cases hAbove : field? overlay part.1 with
  | none => exact ⟨base, rfl, .kept _, fun _ _ => rfl⟩
  | some above =>
      dsimp only
      cases hMerge : part.2 ((field? base part.1).getD .null) above with
      | error cause => exact absurd ⟨above, hAbove, hMerge⟩ (h cause)
      | ok value =>
          refine ⟨_, rfl, ?_, fun other hOther => ?_⟩
          · rw [field?, field?, get?_insert_text, if_pos rfl]
            exact .merged hMerge
          · rw [field?, get?_insert_text, if_neg hOther.symm, field?]

/-- Merging stops at the first section that fails, or all sections are merged. -/
theorem foldlM_mergeSection {parts : List (String × Merge)} (hNames : (parts.map Prod.fst).Nodup) :
    (∃ cause, FirstFails base overlay parts cause ∧
      parts.foldlM (fun acc part => mergeSection part.2 part.1 overlay acc) base =
        .error cause) ∨
    ∃ merged, parts.foldlM (fun acc part => mergeSection part.2 part.1 overlay acc) base =
        .ok merged ∧
      MergesAll base overlay merged parts ∧
      ∀ name ∉ parts.map Prod.fst, field? merged name = field? base name := by
  induction parts generalizing base with
  | nil => exact .inr ⟨base, rfl, List.forall_mem_nil _, fun _ _ => rfl⟩
  | cons part rest ih =>
      obtain ⟨hFree, hRestNames⟩ := List.nodup_cons.mp hNames
      rw [List.foldlM_cons]
      by_cases hFails : ∃ cause, Fails base overlay part cause
      · obtain ⟨cause, hFails⟩ := hFails
        exact .inl ⟨cause, .here rest hFails, by rw [mergeSection_of_fails hFails]; rfl⟩
      · obtain ⟨next, hStep, hMerges, hOthers⟩ :=
          exists_mergeSection_of_not_fails (not_exists.mp hFails)
        have hKept : ∀ other ∈ rest, field? next other.1 = field? base other.1 :=
          fun other hOther => hOthers _ fun hEq => hFree (hEq ▸ List.mem_map_of_mem hOther)
        rw [hStep, ok_bind]
        rcases @ih next hRestNames with ⟨cause, hFirst, hFold⟩ | ⟨merged, hFold, hAll, hUnnamed⟩
        · have hLater := FirstFails.later (not_exists.mp hFails) (hFirst.of_eq hKept)
          exact .inl ⟨cause, hLater, hFold⟩
        · refine .inr ⟨merged, hFold, List.forall_mem_cons.mpr ⟨?_, fun other hOther => ?_⟩, ?_⟩
          · rw [hUnnamed _ hFree]
            exact hMerges
          · rw [← hKept other hOther]
            exact hAll other hOther
          · intro name hName
            rw [List.map_cons, List.mem_cons, not_or] at hName
            rw [hUnnamed name hName.2, hOthers name hName.1]

theorem nodup_sections : (sections.map Prod.fst).Nodup := by decide

theorem merge_cases (base overlay : Mapping) :
    (∃ cause, FirstFails base overlay sections cause ∧ merge base overlay = .error cause) ∨
      ∃ merged, merge base overlay = .ok merged ∧ MergesAll base overlay merged sections := by
  rw [merge_eq_foldlM]
  rcases @foldlM_mergeSection base overlay sections nodup_sections with
    hFails | ⟨merged, hMerge, hAll, -⟩
  · exact .inl hFails
  · exact .inr ⟨merged, hMerge, hAll⟩

/-- Merging stops for a cause exactly if the first section that cannot be merged fails for it. -/
theorem merge_eq_error_iff {cause : OverlayError} :
    merge base overlay = .error cause ↔ FirstFails base overlay sections cause := by
  rcases merge_cases base overlay with ⟨other, hFirst, hMerge⟩ | ⟨merged, hMerge, hAll⟩
  · rw [hMerge, Except.error.injEq]
    exact ⟨fun h => h ▸ hFirst, hFirst.unique⟩
  · rw [hMerge]
    refine ⟨fun h => (nomatch h), fun h => ?_⟩
    obtain ⟨part, hPart, hFails⟩ := h.exists_fails
    exact absurd hFails ((hAll part hPart).not_fails cause)

/-- If merging succeeds, each section is merged. -/
theorem mergesAll_of_merge {merged : Mapping} (h : merge base overlay = .ok merged) :
    MergesAll base overlay merged sections := by
  rcases merge_cases base overlay with ⟨_, -, hMerge⟩ | ⟨_, hMerge, hAll⟩
  · cases hMerge.symm.trans h
  · cases hMerge.symm.trans h
    exact hAll

end Tailnet.Overlay
