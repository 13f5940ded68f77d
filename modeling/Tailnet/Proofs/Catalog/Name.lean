import Tailnet.Catalog.Name
import Tailnet.Proofs.Success
import Tailnet.Proofs.Text.Cut
import Tailnet.Proofs.Text.Trim

/-!
Names of declarations. A name that is admitted has no colon and no white space, so it is found
again behind the mark of its kind.
-/

namespace Tailnet

open Text

/-- The name under which a declaration is entered. -/
@[irreducible] def nameOf (kind : DeclarationKind) (written : String) : String :=
  unmarked kind (trim written)

/-- A name that can be declared: well formed and not reserved. -/
def Admissible (name : String) : Prop := isName name.toList = true ∧ name ∉ specialMarkers

instance (name : String) : Decidable (Admissible name) :=
  inferInstanceAs (Decidable (_ ∧ _))

theorem bareName_eq_ok_iff {kind : DeclarationKind} {written name : String} :
    bareName kind written = .ok name ↔ name = nameOf kind written ∧ Admissible name := by
  unfold bareName nameOf Admissible
  dsimp only
  split
  case isTrue hEmpty =>
    constructor
    · intro h
      cases h
    · rintro ⟨rfl, hName, -⟩
      rw [hEmpty] at hName
      cases hName
  split
  case isTrue hMalformed =>
    constructor
    · intro h
      cases h
    · rintro ⟨rfl, hName, -⟩
      simp [hName] at hMalformed
  case isFalse hFormed =>
    split
    case isTrue hReserved =>
      constructor
      · intro h
        cases h
      · rintro ⟨rfl, -, hFree⟩
        exact absurd hReserved hFree
    case isFalse hFree =>
      constructor
      · intro h
        cases h
        exact ⟨rfl, by simpa using hFormed, hFree⟩
      · rintro ⟨rfl, -⟩
        rfl

/-- The characters of names. -/
def isNameChar (c : Char) : Bool := isAlphanumeric c || c == '.' || c == '_' || c == '-'

theorem all_isNameChar_of_isName {cs : List Char} (h : isName cs = true) :
    cs ≠ [] ∧ ∀ c ∈ cs, isNameChar c = true := by
  cases cs with
  | nil => cases h
  | cons c rest =>
      rw [isName, Bool.and_eq_true, List.all_eq_true] at h
      refine ⟨List.cons_ne_nil c rest, ?_⟩
      intro d hd
      rcases List.mem_cons.mp hd with rfl | hd
      · simp [isNameChar, h.1]
      · exact h.2 d hd

/-- Letters, digits, points, underscores and hyphens all lie between the hyphen and the small z. -/
theorem isNameChar_bounds {c : Char} (h : isNameChar c = true) :
    0x2D ≤ c.toNat ∧ c.toNat ≤ 0x7A ∧ c.toNat ≠ 0x3A := by
  simp only [isNameChar, isAlphanumeric, Bool.or_eq_true, Bool.and_eq_true, decide_eq_true_eq,
    beq_iff_eq, Char.le_def, UInt32.le_iff_toNat_le] at h
  rcases h with ((((hDigit | hSmall) | hCapital) | rfl) | rfl) | rfl
  · change 0x30 ≤ c.toNat ∧ c.toNat ≤ 0x39 at hDigit
    omega
  · change 0x61 ≤ c.toNat ∧ c.toNat ≤ 0x7A at hSmall
    omega
  · change 0x41 ≤ c.toNat ∧ c.toNat ≤ 0x5A at hCapital
    omega
  all_goals decide

theorem isBlank_of_isNameChar {c : Char} (h : isNameChar c = true) : isBlank c = false := by
  obtain ⟨hLow, hHigh, -⟩ := isNameChar_bounds h
  exact isBlank_eq_false_of_visible (by omega) (by omega)

theorem isTrimmed_of_isName {cs : List Char} (h : isName cs = true) : IsTrimmed cs := by
  obtain ⟨-, hChars⟩ := all_isNameChar_of_isName h
  constructor
  · intro c hc
    exact isBlank_of_isNameChar (hChars c (List.mem_of_mem_head? hc))
  · intro c hc
    exact isBlank_of_isNameChar (hChars c (List.mem_of_mem_getLast? hc))

theorem notMem_of_isName {c : Char} {cs : List Char} (h : isName cs = true)
    (hChar : isNameChar c = false) : c ∉ cs := by
  intro hc
  rw [(all_isNameChar_of_isName h).2 c hc] at hChar
  cases hChar

/-- An admitted name begins with nothing that has a colon. -/
theorem startsWith_eq_false_of_isName {mark name : String} (hMark : ':' ∈ mark.toList)
    (hName : isName name.toList = true) : startsWith mark name = false := by
  rw [← Bool.not_eq_true, startsWith_iff]
  rintro ⟨rest, rfl⟩
  refine notMem_of_isName hName (by decide : isNameChar ':' = false) ?_
  rw [String.toList_append]
  exact List.mem_append_left _ hMark

/-- An admitted name begins with no mark, for marks end with a colon. -/
theorem startsWith_mark_of_isName {kind : DeclarationKind} {name : String}
    (hMark : kind.mark ≠ "") (hName : isName name.toList = true) :
    startsWith kind.mark name = false := by
  cases kind with
  | tag => exact startsWith_eq_false_of_isName (by decide) hName
  | group => exact startsWith_eq_false_of_isName (by decide) hName
  | host => exact absurd rfl hMark

/-- There is no mark to remove. -/
theorem unmarked_of_startsWith_eq_false {kind : DeclarationKind} {name : String}
    (h : startsWith kind.mark name = false) : unmarked kind name = name := by
  have hKept : (afterStart? kind.mark name).getD name = name := by
    rw [afterStart?_eq_none_iff.mpr h]
    rfl
  cases kind with
  | tag => exact hKept
  | group => exact hKept
  | host => rfl

/-- An admitted name has no mark to remove. -/
theorem unmarked_of_isName (kind : DeclarationKind) {name : String}
    (hName : isName name.toList = true) : unmarked kind name = name := by
  cases kind with
  | tag => exact unmarked_of_startsWith_eq_false (startsWith_mark_of_isName (by decide) hName)
  | group => exact unmarked_of_startsWith_eq_false (startsWith_mark_of_isName (by decide) hName)
  | host => rfl

/-- The mark before a name is removed again. -/
theorem unmarked_mark_append (kind : DeclarationKind) (name : String) :
    unmarked kind (kind.mark ++ name) = name := by
  have hMarked : (afterStart? kind.mark (kind.mark ++ name)).getD (kind.mark ++ name) = name := by
    rw [afterStart?_append]
    rfl
  cases kind with
  | tag => exact hMarked
  | group => exact hMarked
  | host => simp [unmarked, DeclarationKind.mark]

theorem isTrimmed_mark_append {kind : DeclarationKind} {name : String}
    (hName : isName name.toList = true) : IsTrimmed (kind.mark ++ name).toList := by
  have hNe := (all_isNameChar_of_isName hName).1
  have hLast := (isTrimmed_of_isName hName).2
  rw [String.toList_append]
  cases kind with
  | tag =>
      refine isTrimmed_append (by decide) hNe ?_ hLast
      intro c hc
      obtain rfl : 't' = c := by simpa [DeclarationKind.mark, tagMark] using hc
      decide
  | group =>
      refine isTrimmed_append (by decide) hNe ?_ hLast
      intro c hc
      obtain rfl : 'g' = c := by simpa [DeclarationKind.mark, groupMark] using hc
      decide
  | host => exact isTrimmed_of_isName hName

/-- A declaration written with the mark of its kind before an admitted name has that name. -/
theorem nameOf_mark_append {kind : DeclarationKind} {name : String} (h : Admissible name) :
    nameOf kind (kind.mark ++ name) = name := by
  rw [nameOf, trim_eq_self_iff.mpr (isTrimmed_mark_append h.1), unmarked_mark_append]

end Tailnet
