import Mathlib.Data.List.DropRight
import Tailnet.Text.Blank

/-!
White space around texts. Removing it leaves a text whose ends are not white space, and such a
text is left alone, so nothing changes when the white space is removed again.
-/

namespace Tailnet.Text

/-- No white space stands at either end. -/
def IsTrimmed (cs : List Char) : Prop :=
  (∀ c ∈ cs.head?, isBlank c = false) ∧ (∀ c ∈ cs.getLast?, isBlank c = false)

theorem trimChars_eq_rdropWhile (cs : List Char) :
    trimChars cs = (cs.dropWhile isBlank).rdropWhile isBlank := rfl

theorem trimChars_subset (cs : List Char) : trimChars cs ⊆ cs :=
  fun _ hc => (List.dropWhile_suffix _).subset ((List.rdropWhile_prefix _ _).subset hc)

/-- No visible ASCII character is white space. -/
theorem isBlank_eq_false_of_visible {c : Char} (hLow : 0x21 ≤ c.toNat) (hHigh : c.toNat ≤ 0x7E) :
    isBlank c = false := by
  simp only [isBlank, Ranges.contains, blankRanges, List.any_cons, List.any_nil,
    Bool.or_false, Bool.or_eq_false_iff, Bool.and_eq_false_iff, decide_eq_false_iff_not]
  omega

/-- The first character that is kept is not white space. -/
theorem head?_dropWhile_isBlank (cs : List Char) :
    ∀ c ∈ (cs.dropWhile isBlank).head?, isBlank c = false := by
  intro c hc
  have hNot := List.head?_dropWhile_not isBlank cs
  rw [Option.mem_def.mp hc] at hNot
  simpa using hNot

theorem isTrimmed_trimChars (cs : List Char) : IsTrimmed (trimChars cs) := by
  rw [trimChars_eq_rdropWhile]
  constructor
  · intro c hc
    obtain ⟨cut, hCut⟩ := List.rdropWhile_prefix isBlank (cs.dropWhile isBlank)
    apply head?_dropWhile_isBlank cs c
    rw [← hCut, List.head?_append, Option.mem_def.mp hc]
    rfl
  · intro c hc
    obtain ⟨hNe, rfl⟩ := List.mem_getLast?_eq_getLast hc
    simpa using List.rdropWhile_last_not isBlank (cs.dropWhile isBlank) hNe

theorem trimChars_of_isTrimmed {cs : List Char} (h : IsTrimmed cs) : trimChars cs = cs := by
  have hFront : cs.dropWhile isBlank = cs := by
    rw [List.dropWhile_eq_self_iff]
    intro hLength
    rw [h.1 cs[0] (by simp [List.head?_eq_getElem?, hLength])]
    exact Bool.false_ne_true
  rw [trimChars_eq_rdropWhile, hFront, List.rdropWhile_eq_self_iff]
  intro hNe
  rw [h.2 _ (List.getLast?_eq_getLast_of_ne_nil hNe)]
  exact Bool.false_ne_true

theorem trimChars_eq_self_iff {cs : List Char} : trimChars cs = cs ↔ IsTrimmed cs :=
  ⟨fun h => h ▸ isTrimmed_trimChars cs, trimChars_of_isTrimmed⟩

@[simp] theorem toList_trim (s : String) : (trim s).toList = trimChars s.toList := by
  simp [trim]

theorem trim_eq_self_iff {s : String} : trim s = s ↔ IsTrimmed s.toList := by
  rw [← trimChars_eq_self_iff, ← String.toList_inj, toList_trim]

/-- Removing white space a second time changes nothing. -/
@[simp] theorem trim_trim (s : String) : trim (trim s) = trim s := by
  rw [trim_eq_self_iff, toList_trim]
  exact isTrimmed_trimChars s.toList

theorem isTrimmed_append {front back : List Char} (hFront : front ≠ []) (hBack : back ≠ [])
    (hHead : ∀ c ∈ front.head?, isBlank c = false)
    (hLast : ∀ c ∈ back.getLast?, isBlank c = false) : IsTrimmed (front ++ back) := by
  constructor
  · rw [List.head?_append_of_ne_nil _ hFront]
    exact hHead
  · rw [List.getLast?_append_of_ne_nil _ hBack]
    exact hLast

/-- Behind a text without white space at its ends, only the white space at the very end is
removed. -/
theorem trimChars_append {front : List Char} (h : IsTrimmed front) (hFront : front ≠ [])
    (back : List Char) : trimChars (front ++ back) = front ++ back.rdropWhile isBlank := by
  have hHead : (front ++ back).dropWhile isBlank = front ++ back := by
    obtain ⟨c, rest, rfl⟩ := List.exists_cons_of_ne_nil hFront
    rw [List.cons_append, List.dropWhile_cons_of_neg]
    rw [h.1 c rfl]
    exact Bool.false_ne_true
  have hLast : front.rdropWhile isBlank = front := by
    rw [List.rdropWhile_eq_self_iff]
    intro hNe
    rw [h.2 _ (List.getLast?_eq_getLast_of_ne_nil hNe)]
    exact Bool.false_ne_true
  rw [trimChars_eq_rdropWhile, hHead, List.rdropWhile, List.reverse_append, List.dropWhile_append,
    List.reverse_eq_iff.mp hLast, List.rdropWhile]
  split
  case isTrue hNone =>
    rw [List.isEmpty_iff.mp hNone]
    simp
  case isFalse => simp

/-- It does not matter at which end characters are dropped first. -/
theorem dropWhile_rdropWhile (p : Char → Bool) (cs : List Char) :
    (cs.rdropWhile p).dropWhile p = (cs.dropWhile p).rdropWhile p := by
  induction cs using List.reverseRecOn with
  | nil => rfl
  | append_singleton front c ih =>
      rw [List.rdropWhile_concat, List.dropWhile_append]
      by_cases hc : p c = true
      · simp only [hc, if_true, ih]
        split
        case isTrue hNone => simp [hc, List.isEmpty_iff.mp hNone]
        case isFalse => rw [List.rdropWhile_concat_pos _ _ _ hc]
      · rw [if_neg hc, List.dropWhile_append]
        split
        case isTrue => simp [hc, List.rdropWhile_singleton]
        case isFalse => rw [List.rdropWhile_concat_neg _ _ _ hc]

theorem trimChars_rdropWhile (cs : List Char) :
    trimChars (cs.rdropWhile isBlank) = trimChars cs := by
  rw [trimChars_eq_rdropWhile, dropWhile_rdropWhile, List.rdropWhile_idempotent,
    ← trimChars_eq_rdropWhile]

/-- Nothing but white space is removed. -/
theorem mem_trimChars {c : Char} {cs : List Char} (hc : c ∈ cs) (hVisible : isBlank c = false) :
    c ∈ trimChars cs := by
  have hKept {ds : List Char} (hd : c ∈ ds) : c ∈ ds.dropWhile isBlank := by
    rw [← List.takeWhile_append_dropWhile (p := isBlank) (l := ds), List.mem_append] at hd
    rcases hd with hd | hd
    · rw [List.mem_takeWhile_imp hd] at hVisible
      cases hVisible
    · exact hd
  rw [trimChars, List.mem_reverse]
  exact hKept (List.mem_reverse.mpr (hKept hc))

end Tailnet.Text
