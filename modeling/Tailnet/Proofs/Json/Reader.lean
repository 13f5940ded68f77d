import Mathlib.Algebra.Group.Nat.Defs
import Mathlib.Data.List.TakeWhile
import Tailnet.Json.Reader
import Tailnet.Proofs.Display

/-!
Values read from JSON texts. Their integers were read from few enough digits, so every such value
can be shown.
-/

namespace Tailnet.Json

/-- Digits denote a number below the power of ten of their number. -/
theorem digitsValue_lt {digits : List Char} (h : ∀ c ∈ digits, isDigit c = true) :
    digitsValue digits < 10 ^ digits.length := by
  have hFold (start : Nat) :
      (digits.map fun c => c.toNat - '0'.toNat).foldl (fun n d => 10 * n + d) start <
        (start + 1) * 10 ^ digits.length := by
    induction digits generalizing start with
    | nil => simp
    | cons c rest ih =>
        rw [List.forall_mem_cons] at h
        have hDigit : c.toNat - '0'.toNat ≤ 9 := by
          have hBounds := h.1
          simp only [isDigit, Bool.and_eq_true, decide_eq_true_eq, Char.le_def,
            UInt32.le_iff_toNat_le] at hBounds
          change 0x30 ≤ c.toNat ∧ c.toNat ≤ 0x39 at hBounds
          change c.toNat - 0x30 ≤ 9
          omega
        calc ((c :: rest).map fun c => c.toNat - '0'.toNat).foldl (fun n d => 10 * n + d) start
            < (10 * start + (c.toNat - '0'.toNat) + 1) * 10 ^ rest.length :=
              ih h.2 _
          _ ≤ (10 * (start + 1)) * 10 ^ rest.length :=
              Nat.mul_le_mul_right _ (by omega)
          _ = (start + 1) * 10 ^ (c :: rest).length := by
              rw [List.length_cons, Nat.pow_succ', ← Nat.mul_assoc, Nat.mul_comm (start + 1)]
  have hWhole := hFold 0
  rw [Nat.zero_add, Nat.one_mul] at hWhole
  exact hWhole

theorem all_isDigit_of_readWhole? {cs whole rest : List Char}
    (h : readWhole? cs = some (whole, rest)) : ∀ c ∈ whole, isDigit c = true := by
  unfold readWhole? at h
  split at h
  · cases h
  · split at h
    case isTrue =>
      cases h
      exact List.forall_mem_singleton.mpr (by decide)
    case isFalse =>
      split at h
      case isTrue =>
        cases h
        exact fun c hc => List.mem_takeWhile_imp hc
      case isFalse => cases h

theorem isShort_of_readMagnitude {start cs rest : List Char} {negative : Bool} {value : Value}
    (h : readMagnitude start negative cs = .ok (value, rest)) : value.isShort = true := by
  unfold readMagnitude at h
  split at h
  · cases h
  case h_2 whole _ hWhole =>
    dsimp only at h
    split at h
    · split at h
      case isTrue => cases h
      case isFalse hLength =>
        cases h
        have hSize : digitsValue whole < 10 ^ Integer.maxDigits :=
          Nat.lt_of_lt_of_le (digitsValue_lt (all_isDigit_of_readWhole? hWhole))
            (Nat.pow_le_pow_right (by decide) (Nat.not_lt.mp hLength))
        rw [← Nat.pow_eq] at hSize
        rw [Value.int, Value.isShort, Scalar.isShort, Integer.isWritable_iff]
        generalize Nat.pow 10 Integer.maxDigits = bound at hSize
        cases negative <;> simpa using hSize
    · cases h
      rfl

theorem isShort_of_readPlain {cs rest : List Char} {value : Value}
    (h : readPlain cs = .ok (value, rest)) : value.isShort = true := by
  have hWords : ∀ word ∈ words, word.2.isShort = true := by
    simp [words, Value.null, Value.bool, Value.isShort, Scalar.isShort]
  unfold readPlain at h
  split at h
  case h_1 name found hFound =>
    cases h
    exact hWords _ (List.mem_of_find?_eq_some hFound)
  case h_2 =>
    split at h
    · exact isShort_of_readMagnitude h
    · exact isShort_of_readMagnitude h

/-- What is read with some fuel has no integer with too many digits, be it a value, the items of a
list or the entries of an object. -/
structure ReadsShort (fuel : Nat) : Prop where
  value : ∀ {cs value rest}, readValue fuel cs = .ok (value, rest) → value.isShort = true
  items : ∀ {cs items rest}, readItems fuel cs = .ok (items, rest) →
    Value.itemsShort items = true
  entries : ∀ {cs entries rest}, readEntries fuel cs = .ok (entries, rest) →
    Value.entriesShort entries = true

theorem readsShort_zero : ReadsShort 0 := by
  constructor
  · intro cs value rest h
    cases h
  · intro cs items rest h
    cases h
  · intro cs entries rest h
    cases h

theorem isShort_of_readValue_succ {fuel : Nat} (ih : ReadsShort fuel) {cs rest : List Char}
    {value : Value} (h : readValue (fuel + 1) cs = .ok (value, rest)) : value.isShort = true := by
  unfold readValue at h
  split at h
  case h_1 =>
    obtain ⟨read, -, hText⟩ := bind_eq_ok_iff.mp h
    cases hText
    rfl
  case h_2 =>
    split at h
    · cases h
      rfl
    · obtain ⟨⟨items, after⟩, hItems, hList⟩ := bind_eq_ok_iff.mp h
      cases hList
      exact ih.items hItems
  case h_3 =>
    split at h
    · cases h
      rfl
    · obtain ⟨⟨entries, after⟩, hEntries, hMap⟩ := bind_eq_ok_iff.mp h
      cases hMap
      have hShort := Value.entriesShort_iff.mp (ih.entries hEntries)
      rw [Value.isShort, Value.entriesShort_iff]
      exact Table.forall_mem_ofPairs (P := (Scalar.isShort · = true))
        (Q := (Value.isShort · = true)) hShort
  case h_4 => exact isShort_of_readPlain h

theorem itemsShort_of_readItems_succ {fuel : Nat} (ih : ReadsShort fuel) {cs rest : List Char}
    {items : List Value} (h : readItems (fuel + 1) cs = .ok (items, rest)) :
    Value.itemsShort items = true := by
  unfold readItems at h
  obtain ⟨⟨item, after⟩, hItem, hMore⟩ := bind_eq_ok_iff.mp h
  have hFirst := ih.value hItem
  dsimp only at hMore
  split at hMore
  · cases hMore
    simp [Value.itemsShort, hFirst]
  · obtain ⟨⟨others, last⟩, hOthers, hItems⟩ := bind_eq_ok_iff.mp hMore
    cases hItems
    simp [Value.itemsShort, hFirst, ih.items hOthers]
  · cases hMore

theorem entriesShort_of_readEntries_succ {fuel : Nat} (ih : ReadsShort fuel)
    {cs rest : List Char} {entries : List (Scalar × Value)}
    (h : readEntries (fuel + 1) cs = .ok (entries, rest)) :
    Value.entriesShort entries = true := by
  unfold readEntries at h
  split at h
  case h_2 => cases h
  case h_1 =>
    obtain ⟨⟨name, after⟩, -, hColon⟩ := bind_eq_ok_iff.mp h
    dsimp only at hColon
    split at hColon
    case h_2 => cases hColon
    case h_1 =>
      obtain ⟨⟨value, last⟩, hValue, hMore⟩ := bind_eq_ok_iff.mp hColon
      have hFirst := ih.value hValue
      have hName : (Scalar.text (String.ofList name)).isShort = true := rfl
      dsimp only at hMore
      split at hMore
      · cases hMore
        simp [Value.entriesShort, hFirst, hName]
      · obtain ⟨⟨others, final⟩, hOthers, hEntries⟩ := bind_eq_ok_iff.mp hMore
        cases hEntries
        simp [Value.entriesShort, hFirst, hName, ih.entries hOthers]
      · cases hMore

theorem readsShort (fuel : Nat) : ReadsShort fuel := by
  induction fuel with
  | zero => exact readsShort_zero
  | succ fuel ih =>
      exact ⟨isShort_of_readValue_succ ih, itemsShort_of_readItems_succ ih,
        entriesShort_of_readEntries_succ ih⟩

/-- Whatever text a value is read from, it can be shown. -/
theorem isShort_of_readChars {cs : List Char} {value : Value} (h : readChars cs = .ok value) :
    value.isShort = true := by
  obtain ⟨⟨found, rest⟩, hRead, hEnd⟩ := bind_eq_ok_iff.mp h
  dsimp only at hEnd
  split at hEnd
  · cases hEnd
    exact (readsShort _).value hRead
  · cases hEnd

end Tailnet.Json
