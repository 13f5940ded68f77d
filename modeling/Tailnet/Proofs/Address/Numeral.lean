import Mathlib.Data.List.Basic
import Tailnet.Address.Printer

/-!
Numerals in addresses. Octets and lengths are written in decimal and groups in small hexadecimal
digits, without leading zeros; read again, each has the number that was written.
-/

namespace Tailnet

open Text

section Decimal

theorem digitsValue_toDigits (n : Nat) : Json.digitsValue (Nat.toDigits 10 n) = n := by
  have hFold : Json.digitsValue (Nat.toDigits 10 n) =
      Nat.ofDigitChars 10 (Nat.toDigits 10 n) 0 := by
    rw [Json.digitsValue, Integer.ofDigits, List.foldl_map, Nat.ofDigitChars_eq_foldl]
  rw [hFold, Nat.ofDigitChars_ten_toDigits]

theorem isDigit_of_mem_toDigits {n : Nat} {c : Char} (h : c ∈ Nat.toDigits 10 n) :
    Json.isDigit c = true := by
  have hDigit := Nat.isDigit_of_mem_toDigits (by decide) (by decide) h
  simpa [Json.isDigit, Char.isDigit, Char.le_def] using hDigit

theorem all_isDigit_toDigits (n : Nat) : (Nat.toDigits 10 n).all Json.isDigit = true := by
  rw [List.all_eq_true]
  exact fun c hc => isDigit_of_mem_toDigits hc

/-- Only zero begins with a zero. -/
theorem head?_toDigits_ne_zero {n : Nat} (h : n ≠ 0) : (Nat.toDigits 10 n).head? ≠ some '0' := by
  induction n using Nat.strongRecOn with
  | _ n ih =>
      by_cases hSmall : n < 10
      · rw [Nat.toDigits_of_lt_base hSmall, List.head?_cons, Ne, Option.some_inj]
        intro hZero
        have hNumber := congrArg Char.toNat hZero
        rw [Nat.toNat_digitChar_of_lt_ten hSmall] at hNumber
        change 48 + n = 48 at hNumber
        omega
      · rw [Nat.toDigits_of_base_le (by decide) (by omega),
          List.head?_append_of_ne_nil _ Nat.toDigits_ne_nil]
        exact ih (n / 10) (by omega) (by omega)

/-- An octet is read back from its numeral. -/
theorem octet?_toDigits {n : Nat} (h : n < 256) : octet? (Nat.toDigits 10 n) = some n := by
  have hNotEmpty : (Nat.toDigits 10 n).isEmpty = false := by
    rw [List.isEmpty_eq_false_iff]
    exact Nat.toDigits_ne_nil
  have hLength : (Nat.toDigits 10 n).length ≤ 3 :=
    (Nat.length_toDigits_le_iff (by decide) (by decide)).mpr (by omega)
  have hFirst : (Nat.toDigits 10 n == ['0'] || (Nat.toDigits 10 n).head? != some '0') = true := by
    by_cases hZero : n = 0
    · subst hZero
      rfl
    · simp [head?_toDigits_ne_zero hZero]
  unfold octet?
  simp only [digitsValue_toDigits, hNotEmpty, all_isDigit_toDigits, hLength, hFirst,
    show n ≤ 255 by omega, decide_true, Bool.not_false, Bool.and_true, if_true]

end Decimal

section Hexadecimal

theorem mapM_eq_none_of_mem {α β : Type} {f : α → Option β} {items : List α} {a : α}
    (ha : a ∈ items) (hNone : f a = none) : items.mapM f = none := by
  induction items with
  | nil => cases ha
  | cons item rest ih =>
      rw [List.mapM_cons]
      rcases List.mem_cons.mp ha with rfl | hRest
      · rw [hNone]
        rfl
      · rw [ih hRest]
        cases f item <;> rfl

theorem hexValue?_digitChar {d : Nat} (h : d < 16) : Json.hexValue? (Nat.digitChar d) = some d := by
  revert d
  decide

/-- The digits of a numeral are read one by one, and give the number when put together. -/
theorem mapM_hexValue?_toDigits (n : Nat) :
    ∃ digits, (Nat.toDigits 16 n).mapM Json.hexValue? = some digits ∧
      digits.foldl (fun n d => 16 * n + d) 0 = n := by
  induction n using Nat.strongRecOn with
  | _ n ih =>
      by_cases hSmall : n < 16
      · refine ⟨[n], ?_, by simp⟩
        rw [Nat.toDigits_of_lt_base hSmall]
        simp [hexValue?_digitChar hSmall]
      · obtain ⟨digits, hDigits, hValue⟩ := ih (n / 16) (by omega)
        refine ⟨digits ++ [n % 16], ?_, ?_⟩
        · rw [Nat.toDigits_of_base_le (by decide) (by omega), List.mapM_append, hDigits]
          simp [hexValue?_digitChar (Nat.mod_lt n (by decide))]
        · rw [List.foldl_append, hValue, List.foldl_cons, List.foldl_nil]
          omega

/-- A group is read back from its numeral. -/
theorem group?_toDigits {g : Nat} (h : g < 65536) : group? (Nat.toDigits 16 g) = some g := by
  obtain ⟨digits, hDigits, hValue⟩ := mapM_hexValue?_toDigits g
  have hNotEmpty : (Nat.toDigits 16 g).isEmpty = false := by
    rw [List.isEmpty_eq_false_iff]
    exact Nat.toDigits_ne_nil
  have hLength : (Nat.toDigits 16 g).length ≤ 4 :=
    (Nat.length_toDigits_le_iff (by decide) (by decide)).mpr (by omega)
  rw [group?, hNotEmpty, hDigits, if_neg (by simpa using hLength), Option.map_some, hValue]

theorem mapM_group?_toDigits {groups : List Nat} (h : ∀ g ∈ groups, g < 65536) :
    (groups.map (Nat.toDigits 16)).mapM group? = some groups := by
  induction groups with
  | nil => rfl
  | cons g rest ih =>
      rw [List.forall_mem_cons] at h
      rw [List.map_cons, List.mapM_cons, group?_toDigits h.1, ih h.2]
      rfl

theorem exists_digitChar_of_mem {n : Nat} {c : Char} (h : c ∈ Nat.toDigits 16 n) :
    ∃ d < 16, c = Nat.digitChar d := by
  induction n using Nat.strongRecOn with
  | _ n ih =>
      by_cases hSmall : n < 16
      · rw [Nat.toDigits_of_lt_base hSmall, List.mem_singleton] at h
        exact ⟨n, hSmall, h⟩
      · rw [Nat.toDigits_of_base_le (by decide) (by omega), List.mem_append] at h
        rcases h with hFront | hLast
        · exact ih (n / 16) (by omega) hFront
        · exact ⟨n % 16, Nat.mod_lt n (by decide), List.mem_singleton.mp hLast⟩

/-- Hexadecimal digits are digits or letters. -/
theorem hexDigit_bounds {n : Nat} {c : Char} (h : c ∈ Nat.toDigits 16 n) :
    0x30 ≤ c.toNat ∧ c.toNat ≤ 0x66 ∧ c.toNat ≠ 0x3A := by
  have hDigit : ∀ d < 16, 0x30 ≤ (Nat.digitChar d).toNat ∧ (Nat.digitChar d).toNat ≤ 0x66 ∧
      (Nat.digitChar d).toNat ≠ 0x3A := by decide
  obtain ⟨d, hd, rfl⟩ := exists_digitChar_of_mem h
  exact hDigit d hd

end Hexadecimal

end Tailnet
