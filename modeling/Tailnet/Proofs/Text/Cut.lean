import Mathlib.Data.List.Basic
import Tailnet.Text.Split

/-!
Texts taken apart. The parts between the occurrences of a separator determine the text, and hold
every other character of it; a text begins with another exactly if it is that text and more.
-/

namespace Tailnet.Text

theorem append_right_injective (start : String) : Function.Injective (start ++ ·) := by
  intro a b hEq
  rw [← String.toList_inj] at hEq ⊢
  simpa using hEq

/-- A text has a given beginning exactly if it is the beginning and what is left. -/
theorem afterStart?_eq_some_iff {start s rest : String} :
    afterStart? start s = some rest ↔ s = start ++ rest := by
  unfold afterStart?
  split
  case isTrue h =>
    obtain ⟨cs, hcs⟩ := List.isPrefixOf_iff_prefix.mp h
    rw [← hcs, List.drop_left, Option.some_inj, ← String.toList_inj, ← String.toList_inj,
      String.toList_append, ← hcs, String.toList_ofList, List.append_cancel_left_eq]
  case isFalse h =>
    constructor
    · intro hNone
      cases hNone
    · rintro rfl
      exact absurd (by simp) h

theorem afterStart?_append (start rest : String) :
    afterStart? start (start ++ rest) = some rest :=
  afterStart?_eq_some_iff.mpr rfl

theorem startsWith_iff {start s : String} :
    startsWith start s = true ↔ ∃ rest, s = start ++ rest := by
  simp only [startsWith, List.isPrefixOf_iff_prefix]
  constructor
  · rintro ⟨cs, hcs⟩
    exact ⟨String.ofList cs, by rw [← String.toList_inj, String.toList_append,
      String.toList_ofList, hcs]⟩
  · rintro ⟨rest, rfl⟩
    exact ⟨rest.toList, by rw [String.toList_append]⟩

theorem afterStart?_eq_none_iff {start s : String} :
    afterStart? start s = none ↔ startsWith start s = false := by
  unfold afterStart? startsWith
  cases h : start.toList.isPrefixOf s.toList with
  | true => simp
  | false => simp

variable {sep : Char}

theorem splitAt_nil (sep : Char) : splitAt sep [] = [[]] := rfl

theorem splitAt_cons_sep (sep : Char) (rest : List Char) :
    splitAt sep (sep :: rest) = [] :: splitAt sep rest :=
  if_pos rfl

theorem splitAt_cons_of_ne {c : Char} {rest part : List Char} {parts : List (List Char)}
    (hNe : c ≠ sep) (hRest : splitAt sep rest = part :: parts) :
    splitAt sep (c :: rest) = (c :: part) :: parts := by
  refine (if_neg hNe).trans ?_
  rw [hRest]

theorem splitAt_ne_nil (sep : Char) (cs : List Char) : splitAt sep cs ≠ [] := by
  induction cs with
  | nil => exact List.cons_ne_nil _ _
  | cons c rest ih =>
      by_cases hc : c = sep
      · rw [hc, splitAt_cons_sep]
        exact List.cons_ne_nil _ _
      · obtain ⟨part, parts, hParts⟩ := List.exists_cons_of_ne_nil ih
        rw [splitAt_cons_of_ne hc hParts]
        exact List.cons_ne_nil _ _

/-- A separator ends one part and begins the next. -/
theorem splitAt_append_sep (front back : List Char) :
    splitAt sep (front ++ sep :: back) = splitAt sep front ++ splitAt sep back := by
  induction front with
  | nil => exact splitAt_cons_sep sep back
  | cons c front ih =>
      by_cases hc : c = sep
      · rw [hc, List.cons_append, splitAt_cons_sep, splitAt_cons_sep, ih, List.cons_append]
      · obtain ⟨part, parts, hParts⟩ := List.exists_cons_of_ne_nil (splitAt_ne_nil sep front)
        rw [hParts] at ih
        rw [List.cons_append, splitAt_cons_of_ne hc ih, splitAt_cons_of_ne hc hParts]
        rfl

theorem splitAt_of_notMem {cs : List Char} (h : sep ∉ cs) : splitAt sep cs = [cs] := by
  induction cs with
  | nil => rfl
  | cons c rest ih =>
      rw [List.mem_cons, not_or] at h
      exact splitAt_cons_of_ne (Ne.symm h.1) (ih h.2)

/-- A text is cut between any two of its parts. -/
theorem exists_of_splitAt_eq_append {cs : List Char} {front back : List (List Char)}
    (hFront : front ≠ []) (hBack : back ≠ []) (h : splitAt sep cs = front ++ back) :
    ∃ a b, cs = a ++ sep :: b ∧ splitAt sep a = front ∧ splitAt sep b = back := by
  obtain ⟨first, front, rfl⟩ := List.exists_cons_of_ne_nil hFront
  induction cs generalizing first front with
  | nil =>
      rw [splitAt_nil, List.cons_append, List.cons.injEq] at h
      exact absurd (List.append_eq_nil_iff.mp h.2.symm).2 hBack
  | cons c rest ih =>
      by_cases hc : c = sep
      · subst hc
        rw [splitAt_cons_sep, List.cons_append, List.cons.injEq] at h
        obtain ⟨rfl, hRest⟩ := h
        cases front with
        | nil => exact ⟨[], rest, rfl, rfl, hRest⟩
        | cons second front =>
            obtain ⟨a, b, rfl, hA, hB⟩ := ih second front (List.cons_ne_nil _ _) hRest
            exact ⟨c :: a, b, rfl, by rw [splitAt_cons_sep, hA], hB⟩
      · obtain ⟨part, parts, hParts⟩ := List.exists_cons_of_ne_nil (splitAt_ne_nil sep rest)
        rw [splitAt_cons_of_ne hc hParts, List.cons_append, List.cons.injEq] at h
        obtain ⟨rfl, rfl⟩ := h
        obtain ⟨a, b, rfl, hA, hB⟩ := ih part front (List.cons_ne_nil _ _) hParts
        exact ⟨c :: a, b, rfl, splitAt_cons_of_ne hc hA, hB⟩

theorem splitAt_eq_singleton_iff {cs part : List Char} :
    splitAt sep cs = [part] ↔ cs = part ∧ sep ∉ cs := by
  constructor
  · intro h
    by_cases hIn : sep ∈ cs
    · obtain ⟨front, back, rfl⟩ := List.append_of_mem hIn
      rw [splitAt_append_sep] at h
      have hLength := congrArg List.length h
      have hFront := List.length_pos_iff.mpr (splitAt_ne_nil sep front)
      have hBack := List.length_pos_iff.mpr (splitAt_ne_nil sep back)
      simp only [List.length_append, List.length_singleton] at hLength
      omega
    · rw [splitAt_of_notMem hIn, List.cons.injEq] at h
      exact ⟨h.1, hIn⟩
  · rintro ⟨rfl, hNotIn⟩
    exact splitAt_of_notMem hNotIn

/-- A text is its first part, a separator and what is cut into the others. -/
theorem exists_of_splitAt_eq_cons {cs part : List Char} {parts : List (List Char)}
    (hParts : parts ≠ []) (h : splitAt sep cs = part :: parts) :
    ∃ rest, cs = part ++ sep :: rest ∧ sep ∉ part ∧ splitAt sep rest = parts := by
  obtain ⟨first, rest, rfl, hFirst, hRest⟩ :=
    exists_of_splitAt_eq_append (List.cons_ne_nil part []) hParts h
  obtain ⟨rfl, hNotIn⟩ := splitAt_eq_singleton_iff.mp hFirst
  exact ⟨rest, rfl, hNotIn, hRest⟩

/-- Characters other than the separator are all kept. -/
theorem exists_mem_splitAt {c : Char} {cs : List Char} (hc : c ∈ cs) (hNe : c ≠ sep) :
    ∃ part ∈ splitAt sep cs, c ∈ part := by
  obtain ⟨front, back, rfl⟩ := List.append_of_mem hc
  induction front with
  | nil =>
      obtain ⟨part, parts, hParts⟩ := List.exists_cons_of_ne_nil (splitAt_ne_nil sep back)
      rw [List.nil_append, splitAt_cons_of_ne hNe hParts]
      exact ⟨c :: part, by simp, by simp⟩
  | cons d front ih =>
      obtain ⟨part, hPart, hIn⟩ := ih (by simp)
      rw [List.cons_append]
      by_cases hd : d = sep
      · rw [hd, splitAt_cons_sep]
        exact ⟨part, List.mem_cons_of_mem _ hPart, hIn⟩
      · obtain ⟨first, parts, hParts⟩ :=
          List.exists_cons_of_ne_nil (splitAt_ne_nil sep (front ++ c :: back))
        rw [splitAt_cons_of_ne hd hParts]
        rw [hParts, List.mem_cons] at hPart
        rcases hPart with rfl | hPart
        · exact ⟨d :: part, by simp, List.mem_cons_of_mem _ hIn⟩
        · exact ⟨part, List.mem_cons_of_mem _ hPart, hIn⟩

/-- Parts hold nothing else. -/
theorem mem_of_mem_splitAt {c : Char} {cs part : List Char} (hPart : part ∈ splitAt sep cs)
    (hc : c ∈ part) : c ∈ cs := by
  induction cs generalizing part with
  | nil =>
      rw [splitAt_nil, List.mem_singleton] at hPart
      rwa [hPart] at hc
  | cons d rest ih =>
      by_cases hd : d = sep
      · rw [hd, splitAt_cons_sep] at hPart
        rcases List.mem_cons.mp hPart with rfl | hPart
        · cases hc
        · exact List.mem_cons_of_mem _ (ih hPart hc)
      · obtain ⟨first, parts, hParts⟩ := List.exists_cons_of_ne_nil (splitAt_ne_nil sep rest)
        rw [splitAt_cons_of_ne hd hParts] at hPart
        rcases List.mem_cons.mp hPart with rfl | hPart
        · rcases List.mem_cons.mp hc with rfl | hc
          · exact List.mem_cons_self
          · exact List.mem_cons_of_mem _ (ih (hParts ▸ List.mem_cons_self) hc)
        · exact List.mem_cons_of_mem _ (ih (hParts ▸ List.mem_cons_of_mem _ hPart) hc)

theorem toList_joinWith_cons (between part next : String) (rest : List String) :
    (joinWith between (part :: next :: rest)).toList =
      part.toList ++ between.toList ++ (joinWith between (next :: rest)).toList := by
  rw [← String.toList_append, ← String.toList_append]
  rfl

/-- Texts put together hold their characters and those of the separator. -/
theorem mem_toList_joinWith {c : Char} {between : String} {parts : List String}
    (hc : c ∈ (joinWith between parts).toList) :
    c ∈ between.toList ∨ ∃ part ∈ parts, c ∈ part.toList := by
  induction parts with
  | nil => cases hc
  | cons part rest ih =>
      cases rest with
      | nil => exact .inr ⟨part, by simp, hc⟩
      | cons next rest =>
          rw [toList_joinWith_cons, List.mem_append, List.mem_append] at hc
          rcases hc with (hc | hc) | hc
          · exact .inr ⟨part, by simp, hc⟩
          · exact .inl hc
          · rcases ih hc with hBetween | ⟨other, hOther, hIn⟩
            · exact .inl hBetween
            · exact .inr ⟨other, List.mem_cons_of_mem _ hOther, hIn⟩

theorem joinWith_cons (between part : String) {rest : List String} (h : rest ≠ []) :
    joinWith between (part :: rest) = part ++ between ++ joinWith between rest := by
  obtain ⟨next, rest, rfl⟩ := List.exists_cons_of_ne_nil h
  rfl

theorem joinWith_append (between : String) {front back : List String} (hFront : front ≠ [])
    (hBack : back ≠ []) :
    joinWith between (front ++ back) =
      joinWith between front ++ between ++ joinWith between back := by
  obtain ⟨part, rest, rfl⟩ := List.exists_cons_of_ne_nil hFront
  induction rest generalizing part with
  | nil => exact joinWith_cons between part hBack
  | cons next rest ih =>
      have hRest := ih next (List.cons_ne_nil _ _)
      rw [List.cons_append, joinWith_cons between part (by simp), hRest,
        joinWith_cons between part (by simp)]
      simp only [String.append_assoc]

/-- The parts of a text, put together again, are the text. -/
theorem joinWith_parts (sep : Char) (s : String) :
    joinWith (String.singleton sep) (parts sep s) = s := by
  rw [← String.toList_inj, parts]
  induction s.toList with
  | nil => rfl
  | cons c rest ih =>
      obtain ⟨part, more, hParts⟩ := List.exists_cons_of_ne_nil (splitAt_ne_nil sep rest)
      by_cases hc : c = sep
      · rw [hc, splitAt_cons_sep, List.map_cons, joinWith_cons _ _ (by simp [hParts])]
        simp [ih]
      · rw [splitAt_cons_of_ne hc hParts]
        rw [hParts] at ih
        cases more with
        | nil => simpa [joinWith] using ih
        | cons next more =>
            simp only [List.map_cons, toList_joinWith_cons, String.toList_ofList] at ih ⊢
            rw [← ih]
            simp

theorem parts_append (sep : Char) (front back : String) :
    parts sep (front ++ String.singleton sep ++ back) = parts sep front ++ parts sep back := by
  simp only [parts, String.toList_append, String.toList_singleton, List.append_assoc,
    List.singleton_append, splitAt_append_sep, List.map_append]

theorem parts_of_notMem {s : String} (h : sep ∉ s.toList) : parts sep s = [s] := by
  rw [parts, splitAt_of_notMem h, List.map_singleton, String.ofList_toList]

theorem parts_ne_nil (sep : Char) (s : String) : parts sep s ≠ [] := by
  simpa [parts] using splitAt_ne_nil sep s.toList

/-- Parts that were put together with separators are found again. -/
theorem splitAt_joinWith (sep : Char) {parts : List String} (hNe : parts ≠ [])
    (h : ∀ part ∈ parts, sep ∉ part.toList) :
    splitAt sep (joinWith (String.singleton sep) parts).toList = parts.map String.toList := by
  induction parts with
  | nil => exact absurd rfl hNe
  | cons part rest ih =>
      have hPart : sep ∉ part.toList := h part (by simp)
      cases rest with
      | nil => exact splitAt_of_notMem hPart
      | cons next rest =>
          have hRest := ih (by simp) fun p hp => h p (List.mem_cons_of_mem _ hp)
          rw [toList_joinWith_cons, String.toList_singleton, List.append_assoc,
            List.singleton_append, splitAt_append_sep, splitAt_of_notMem hPart, hRest]
          rfl

section Cuts

attribute [local simp] cutFirst? cutLast?

theorem cutFirst?_eq_none_iff {cs : List Char} : cutFirst? sep cs = none ↔ sep ∉ cs := by
  induction cs with
  | nil => simp
  | cons c rest ih =>
      by_cases hc : c = sep
      · simp [hc]
      · simp [hc, ih, Ne.symm hc]

/-- The cut is made at the first separator. -/
theorem cutFirst?_eq_some_iff {cs before after : List Char} :
    cutFirst? sep cs = some (before, after) ↔ cs = before ++ sep :: after ∧ sep ∉ before := by
  induction cs generalizing before after with
  | nil => simp
  | cons c rest ih =>
      rw [cutFirst?]
      split
      case isTrue hc =>
        subst hc
        cases before with
        | nil => simp
        | cons b before =>
            simp only [Option.some.injEq, Prod.mk.injEq, List.cons_append, List.cons.injEq,
              List.mem_cons, not_or, reduceCtorEq, false_and, false_iff, not_and]
            rintro ⟨rfl, -⟩ hNe
            exact absurd rfl hNe
      case isFalse hc =>
        rw [Option.map_eq_some_iff]
        constructor
        · rintro ⟨⟨front, back⟩, hCut, hEq⟩
          obtain ⟨hRest, hFront⟩ := ih.mp hCut
          cases hEq
          exact ⟨by rw [hRest]; rfl, by simp [hFront, Ne.symm hc]⟩
        · rintro ⟨hEq, hNot⟩
          cases before with
          | nil =>
              rw [List.nil_append, List.cons.injEq] at hEq
              exact absurd hEq.1 hc
          | cons b front =>
              rw [List.cons_append, List.cons.injEq] at hEq
              rw [List.mem_cons, not_or] at hNot
              exact ⟨(front, after), ih.mpr ⟨hEq.2, hNot.2⟩, by simp [hEq.1]⟩

/-- A text that was put together at a separator is taken apart at its first one. -/
theorem append_sep_inj {a b c d : List Char} (ha : sep ∉ a) (hc : sep ∉ c)
    (h : a ++ sep :: b = c ++ sep :: d) : a = c ∧ b = d := by
  have hFirst : cutFirst? sep (a ++ sep :: b) = some (a, b) := cutFirst?_eq_some_iff.mpr ⟨rfl, ha⟩
  have hSecond : cutFirst? sep (a ++ sep :: b) = some (c, d) := cutFirst?_eq_some_iff.mpr ⟨h, hc⟩
  exact Prod.mk.inj (Option.some.inj (hFirst.symm.trans hSecond))

theorem cutLast?_eq_none_iff {cs : List Char} : cutLast? sep cs = none ↔ sep ∉ cs := by
  induction cs with
  | nil => simp
  | cons c rest ih =>
      rw [cutLast?, List.mem_cons, not_or, ← ih]
      cases cutLast? sep rest with
      | some parts => simp
      | none => simp [eq_comm]

/-- The last cut is made at the separator behind which there is no other. -/
theorem cutLast?_append {after : List Char} (before : List Char) (h : sep ∉ after) :
    cutLast? sep (before ++ sep :: after) = some (before, after) := by
  induction before with
  | nil => simp [cutLast?_eq_none_iff.mpr h]
  | cons c before ih => simp [ih]

theorem cutLast?_eq_some_iff {cs before after : List Char} :
    cutLast? sep cs = some (before, after) ↔ cs = before ++ sep :: after ∧ sep ∉ after := by
  constructor
  · intro h
    induction cs generalizing before with
    | nil => cases h
    | cons c rest ih =>
        rw [cutLast?] at h
        split at h
        case h_1 front back hCut =>
          cases h
          obtain ⟨hRest, hBack⟩ := ih hCut
          exact ⟨by rw [hRest, List.cons_append], hBack⟩
        case h_2 hNone =>
          split at h
          case isTrue hSep =>
            cases h
            exact ⟨by rw [hSep, List.nil_append], cutLast?_eq_none_iff.mp hNone⟩
          case isFalse => cases h
  · rintro ⟨rfl, hAfter⟩
    exact cutLast?_append before hAfter

end Cuts

end Tailnet.Text
