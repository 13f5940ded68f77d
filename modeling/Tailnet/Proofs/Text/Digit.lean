import Mathlib.Data.Nat.Digits.Lemmas
import Tailnet.Integer.Numeral
import Tailnet.Proofs.Text.Cut
import Tailnet.Proofs.Text.Trim

/-!
Digits and the numbers they denote. No digit is white space, the digits of a printed number denote
it, and digits are read as a number exactly if all of them have a value and there are not too many.
-/

namespace Tailnet

open Text

/-- The digits of a decimal system stand behind its zero. -/
theorem isDecimal_iff {c : Char} :
    isDecimal c = true ↔ ∃ nought ∈ zeroDigits, nought ≤ c.toNat ∧ c.toNat ≤ nought + 9 := by
  simp [isDecimal, decimalValue?, List.find?_isSome]

/-- No digit is white space. -/
theorem isBlank_of_isDigit {c : Char} (h : isDigit c = true) : isBlank c = false := by
  have hApart : ∀ blank ∈ blankRanges,
      (∀ nought ∈ zeroDigits, blank.2 < nought ∨ nought + 9 < blank.1) ∧
      ∀ digits ∈ numberlessDigits, blank.2 < digits.1 ∨ digits.2 < blank.1 := by decide
  rw [isBlank, Ranges.contains, List.any_eq_false]
  intro blank hBlank hIn
  rw [Bool.and_eq_true, decide_eq_true_eq, decide_eq_true_eq] at hIn
  rcases Bool.or_eq_true_iff.mp h with hDecimal | hOther
  · obtain ⟨nought, hNought, hLow, hHigh⟩ := isDecimal_iff.mp hDecimal
    have hDisjoint := (hApart blank hBlank).1 nought hNought
    omega
  · obtain ⟨digits, hDigits, hRange⟩ := List.any_eq_true.mp hOther
    rw [Bool.and_eq_true, decide_eq_true_eq, decide_eq_true_eq] at hRange
    have hDisjoint := (hApart blank hBlank).2 digits hDigits
    omega

/-- The decimal digits among the ASCII characters are those from zero to nine. -/
theorem isDigit_of_isDecimal {c : Char} (h : isDecimal c = true) (hAscii : c.toNat ≤ 0x7E) :
    c.isDigit = true := by
  have hOther : ∀ nought ∈ zeroDigits, nought = 0x30 ∨ 0x7E < nought := by decide
  obtain ⟨nought, hNought, hLow, hHigh⟩ := isDecimal_iff.mp h
  rcases hOther nought hNought with rfl | hHigher
  · simpa [Char.isDigit, Char.le_def, UInt32.le_iff_toNat_le] using ⟨hLow, hHigh⟩
  · omega

theorem toList_toString (n : Nat) : (toString n).toList = Nat.toDigits 10 n := by
  simp

theorem decimalValue?_digitChar : ∀ d < 10, decimalValue? (Nat.digitChar d) = some d := by decide

/-- The digits of a printed number denote it. -/
theorem filterMap_decimalValue?_toDigits (n : Nat) :
    (∀ c ∈ Nat.toDigits 10 n, isDecimal c = true) ∧
      Integer.ofDigits ((Nat.toDigits 10 n).filterMap decimalValue?) = n := by
  induction n using Nat.strongRecOn with
  | _ n ih =>
      by_cases hSmall : n < 10
      · rw [Nat.toDigits_of_lt_base hSmall]
        simp [decimalValue?_digitChar n hSmall, isDecimal, Integer.ofDigits]
      · obtain ⟨hDecimal, hValue⟩ := ih (n / 10) (by omega)
        have hLast := decimalValue?_digitChar (n % 10) (by omega)
        rw [Integer.ofDigits] at hValue
        rw [Nat.toDigits_of_base_le (by decide) (by omega)]
        constructor
        · rw [List.forall_mem_append]
          exact ⟨hDecimal, by simp [isDecimal, hLast]⟩
        · rw [Integer.ofDigits, List.filterMap_append, List.foldl_append, hValue]
          simp only [List.filterMap_cons, hLast, List.filterMap_nil, List.foldl_cons,
            List.foldl_nil]
          omega

theorem toString_nat_injective : Function.Injective (toString : Nat → String) := by
  intro m n hEq
  have hDigits : Nat.toDigits 10 m = Nat.toDigits 10 n := by
    rw [← toList_toString, ← toList_toString, hEq]
  rw [← (filterMap_decimalValue?_toDigits m).2, hDigits, (filterMap_decimalValue?_toDigits n).2]

/-- The text of a number has nothing in it but digits. -/
theorem notMem_toString {c : Char} (hc : isDecimal c = false) (n : Nat) :
    c ∉ (toString n).toList := by
  rw [toList_toString]
  intro hIn
  rw [(filterMap_decimalValue?_toDigits n).1 c hIn] at hc
  cases hc

namespace Integer

theorem dropWhile_isPadding_of_isDigit {cs : List Char} (h : ∀ c ∈ cs, isDigit c = true) :
    cs.dropWhile isPadding = cs := by
  cases cs with
  | nil => rfl
  | cons c rest =>
      have hBlank := isBlank_of_isDigit (h c List.mem_cons_self)
      simp [isPadding, hBlank]

theorem splitSign_of_isDigit {cs : List Char} (h : ∀ c ∈ cs, isDigit c = true) :
    splitSign cs = (false, cs) := by
  unfold splitSign
  split
  · exact absurd (h '-' List.mem_cons_self) (by decide)
  · exact absurd (h '+' List.mem_cons_self) (by decide)
  · rfl

end Integer

/-- Digits are read as a number exactly if all of them have a value and there are not too many. The
number is the one that they denote. -/
theorem Integer.readChars_digits_iff {literal : String} {cs : List Char} {n : Int} (hNe : cs ≠ [])
    (hDigits : ∀ c ∈ cs, isDigit c = true) :
    Integer.readChars literal cs = .ok n ↔
      (∀ c ∈ cs, isDecimal c = true) ∧ cs.length ≤ maxDigits ∧
        n = Integer.ofDigits (cs.filterMap decimalValue?) := by
  have hInner : ((cs.dropWhile isPadding).reverse.dropWhile isPadding).reverse = cs := by
    rw [dropWhile_isPadding_of_isDigit hDigits,
      dropWhile_isPadding_of_isDigit fun c hc => hDigits c (List.mem_reverse.mp hc),
      List.reverse_reverse]
  have hSign := splitSign_of_isDigit hDigits
  have hMark : '_' ∉ cs := fun hIn => absurd (hDigits '_' hIn) (by decide)
  by_cases hDecimal : ∀ c ∈ cs, isDecimal c = true
  case pos =>
    have hParts : ∀ c ∈ cs, (isDecimal c || c == '_') = true := fun c hc => by
      simp [hDecimal c hc]
    have hGroups : (splitAt '_' cs).any List.isEmpty = false := by
      simp [splitAt_of_notMem hMark, hNe]
    have hLength : (cs.filterMap decimalValue?).length = cs.length :=
      List.filterMap_length_eq_length.mpr fun c hc => hDecimal c hc
    simp only [readChars, hInner, hSign, List.takeWhile_eq_self_iff.mpr hParts,
      List.dropWhile_eq_nil_iff.mpr hParts, hGroups, hLength, Bool.false_eq_true, if_false,
      List.isEmpty_nil, Bool.not_true, and_iff_right hDecimal]
    split
    case isTrue hLong => exact iff_of_false nofun fun h => Nat.not_lt.mpr h.1 hLong
    case isFalse hShort =>
      rw [Except.ok.injEq, and_iff_right (Nat.not_lt.mp hShort)]
      exact eq_comm
  case neg =>
    refine iff_of_false (fun h => hDecimal ?_) (mt And.left hDecimal)
    simp only [readChars, hInner, hSign] at h
    split at h
    · cases h
    split at h
    · cases h
    split at h
    · cases h
    case isFalse hRest =>
      rw [Bool.not_eq_true, Bool.not_eq_false', List.isEmpty_iff,
        List.dropWhile_eq_nil_iff] at hRest
      intro c hc
      rcases Bool.or_eq_true_iff.mp (hRest c hc) with hPart | hPart
      · exact hPart
      · exact absurd (beq_iff_eq.mp hPart ▸ hc) hMark

end Tailnet
