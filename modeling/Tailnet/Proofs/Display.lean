import Tailnet.Proofs.Success
import Tailnet.Proofs.Table
import Tailnet.Value.Display

/-!
Values that can be shown. Only an integer with too many digits keeps a value from it, wherever it
stands inside.
-/

namespace Tailnet

/-- Whether a scalar is no integer with too many digits. -/
def Scalar.isShort : Scalar → Bool
  | int n => Integer.isWritable n
  | _ => true

theorem Integer.isWritable_iff {n : Int} :
    isWritable n = true ↔ n.natAbs < Nat.pow 10 maxDigits := by
  unfold isWritable
  exact decide_eq_true_iff

theorem Integer.exists_write_iff (n : Int) :
    (∃ s, Integer.write n = .ok s) ↔ Integer.isWritable n = true := by
  unfold Integer.write
  generalize Integer.isWritable n = isWritable
  cases isWritable with
  | true => simp
  | false => simp

namespace Value

mutual

/-- Whether no integer in a value has too many digits. -/
def isShort : Value → Bool
  | .scalar s => s.isShort
  | .list items | .tuple items => itemsShort items
  | .set members => members.all Scalar.isShort
  | .map entries => entriesShort entries
  | .loop .. => true

/-- Whether no integer in the items of a list has too many digits. -/
def itemsShort : List Value → Bool
  | [] => true
  | item :: rest => isShort item && itemsShort rest

/-- Whether no integer in the entries of a mapping has too many digits. -/
def entriesShort : List (Scalar × Value) → Bool
  | [] => true
  | (key, value) :: rest => key.isShort && (isShort value && entriesShort rest)

end

theorem itemsShort_iff {items : List Value} :
    itemsShort items = true ↔ ∀ item ∈ items, item.isShort = true := by
  induction items with
  | nil => simp [itemsShort]
  | cons item rest ih => simp [itemsShort, ih]

theorem entriesShort_iff {entries : List (Scalar × Value)} :
    entriesShort entries = true ↔
      ∀ entry ∈ entries, entry.1.isShort = true ∧ entry.2.isShort = true := by
  induction entries with
  | nil => simp [entriesShort]
  | cons entry rest ih =>
      obtain ⟨key, value⟩ := entry
      rw [entriesShort, Bool.and_eq_true, Bool.and_eq_true, ih, List.forall_mem_cons, and_assoc]

theorem isShort_texts (ss : List String) : (texts ss).isShort = true := by
  rw [texts, isShort, itemsShort_iff]
  exact List.forall_mem_map.mpr fun _ _ => rfl

theorem isShort_record_iff {fields : List (String × Value)} :
    (record fields).isShort = true ↔ ∀ field ∈ fields, field.2.isShort = true := by
  rw [record, isShort, entriesShort_iff, List.forall_mem_map]
  exact forall₂_congr fun _ _ => and_iff_right rfl

theorem exists_scalarLiteral_iff (s : Scalar) :
    (∃ shown, s.literal = .ok shown) ↔ s.isShort = true := by
  cases s with
  | int n => exact Integer.exists_write_iff n
  | _ => simp [Scalar.literal, Scalar.isShort]

mutual

theorem exists_literal_iff :
    ∀ value : Value, (∃ shown, value.literal = .ok shown) ↔ value.isShort = true
  | .scalar s => by rw [literal, isShort, exists_scalarLiteral_iff]
  | .loop _ .list | .loop _ .tuple | .loop _ .map => by simp [literal, isShort]
  | .list items | .tuple items => by
      rw [literal, isShort, exists_bind_eq_ok_iff, ← exists_itemLiterals_iff items]
      simp [pure_eq_ok_iff]
  | .set members => by
      rw [literal, isShort, exists_bind_eq_ok_iff, List.all_eq_true]
      simp only [← exists_scalarLiteral_iff, ← exists_mapM_eq_ok_iff]
      simp [pure_eq_ok_iff]
  | .map entries => by
      rw [literal, isShort, exists_bind_eq_ok_iff, ← exists_entryLiterals_iff entries]
      simp [pure_eq_ok_iff]

theorem exists_itemLiterals_iff :
    ∀ items : List Value, (∃ shown, itemLiterals items = .ok shown) ↔ itemsShort items = true
  | [] => by simp [itemLiterals, itemsShort]
  | item :: rest => by
      simp only [itemLiterals, exists_bind_eq_ok_iff, pure_eq_ok_iff, exists_eq', and_true]
      rw [itemsShort, Bool.and_eq_true, ← exists_literal_iff item, ← exists_itemLiterals_iff rest]
      simp

theorem exists_entryLiterals_iff :
    ∀ entries : List (Scalar × Value),
      (∃ shown, entryLiterals entries = .ok shown) ↔ entriesShort entries = true
  | [] => by simp [entryLiterals, entriesShort]
  | (key, value) :: rest => by
      simp only [entryLiterals, exists_bind_eq_ok_iff, pure_eq_ok_iff, exists_eq', and_true]
      rw [entriesShort, Bool.and_eq_true, Bool.and_eq_true, ← exists_scalarLiteral_iff key,
        ← exists_literal_iff value, ← exists_entryLiterals_iff rest]
      simp

end

/-- A value can be shown exactly if none of its integers has too many digits. -/
theorem exists_display_iff {value : Value} :
    (∃ shown, value.display = .ok shown) ↔ value.isShort = true := by
  rw [← exists_literal_iff]
  cases value with
  | scalar s =>
      cases s with
      | text s => simp [display, literal, Scalar.display, Scalar.literal]
      | date d => simp [display, literal, Scalar.display, Scalar.literal]
      | time m => simp [display, literal, Scalar.display, Scalar.literal]
      | _ => rfl
  | _ => rfl

end Value

end Tailnet
