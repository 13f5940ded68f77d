import Tailnet.Json.Writer
import Tailnet.Proofs.Display
import Tailnet.Proofs.Value

/-!
Values that have a JSON text. What keeps a value from it is a single scalar or key anywhere inside,
or a collection that is a part of itself. Formats differ only in whether they have names for numbers
that are not finite.
-/

namespace Tailnet

/-- Whether a scalar has a JSON text in a format. Numbers that are not finite have one only in a
format with names for them. -/
def Scalar.isWritable (format : Json.Format) : Scalar → Bool
  | null | bool _ | text _ => true
  | int n => Integer.isWritable n
  | float x => format.namesNonFinite || Decimal.isFinite x
  | nan => format.namesNonFinite || Decimal.isFinite (0.0 / 0.0)
  | bytes _ | date _ | time _ => false

/-- Whether a scalar has a JSON text: byte strings, days, times, integers with too many digits and
numbers that are not finite have none. -/
def Scalar.isSendable : Scalar → Bool
  | null | bool _ | text _ => true
  | int n => Integer.isWritable n
  | float x => Decimal.isFinite x
  | nan => Decimal.isFinite (0.0 / 0.0)
  | bytes _ | date _ | time _ => false

variable {format : Json.Format}

theorem Scalar.isWritable_eq_isSendable (hStrict : format.namesNonFinite = false) (s : Scalar) :
    s.isWritable format = s.isSendable := by
  cases s with
  | float x => exact congrArg (· || _) hStrict
  | nan => exact congrArg (· || _) hStrict
  | _ => rfl

namespace Value

mutual

/-- Whether a value has a JSON text in a format. -/
def isWritable (format : Json.Format) : Value → Bool
  | .scalar s => s.isWritable format
  | .list items | .tuple items => itemsWritable format items
  | .map entries => entriesWritable format entries
  | .set _ | .loop .. => false

/-- Whether all items of a list have a JSON text in a format. -/
def itemsWritable (format : Json.Format) : List Value → Bool
  | [] => true
  | item :: rest => isWritable format item && itemsWritable format rest

/-- Whether all keys and values of a mapping have a JSON text in a format. -/
def entriesWritable (format : Json.Format) : List (Scalar × Value) → Bool
  | [] => true
  | (key, value) :: rest =>
    key.isWritable format && (isWritable format value && entriesWritable format rest)

end

mutual

/-- Whether a value has a JSON text: all its scalars and keys have one, and it has no sets and no
loops. -/
def isSendable : Value → Bool
  | .scalar s => s.isSendable
  | .list items | .tuple items => itemsSendable items
  | .map entries => entriesSendable entries
  | .set _ | .loop .. => false

/-- Whether all items of a list have a JSON text. -/
def itemsSendable : List Value → Bool
  | [] => true
  | item :: rest => isSendable item && itemsSendable rest

/-- Whether all keys and values of a mapping have a JSON text. -/
def entriesSendable : List (Scalar × Value) → Bool
  | [] => true
  | (key, value) :: rest => key.isSendable && (isSendable value && entriesSendable rest)

end

theorem itemsWritable_iff {items : List Value} :
    itemsWritable format items = true ↔ ∀ item ∈ items, item.isWritable format = true := by
  induction items with
  | nil => simp [itemsWritable]
  | cons item rest ih => simp [itemsWritable, ih]

theorem isWritable_texts (ss : List String) : (texts ss).isWritable format = true := by
  rw [texts, isWritable, itemsWritable_iff]
  exact List.forall_mem_map.mpr fun _ _ => rfl

theorem isWritable_record_iff {fields : List (String × Value)} :
    (record fields).isWritable format = true ↔
      ∀ field ∈ fields, field.2.isWritable format = true := by
  rw [record, isWritable]
  induction fields with
  | nil => simp [entriesWritable]
  | cons field rest ih =>
      rw [List.map_cons, entriesWritable, Bool.and_eq_true, Bool.and_eq_true, ih,
        List.forall_mem_cons]
      exact and_iff_right rfl

mutual

theorem isWritable_eq_isSendable (hStrict : format.namesNonFinite = false) :
    ∀ value : Value, value.isWritable format = value.isSendable
  | .scalar s => Scalar.isWritable_eq_isSendable hStrict s
  | .list items | .tuple items => by rw [isWritable, isSendable, itemsWritable_eq hStrict items]
  | .map entries => by rw [isWritable, isSendable, entriesWritable_eq hStrict entries]
  | .set _ => rfl
  | .loop .. => rfl

theorem itemsWritable_eq (hStrict : format.namesNonFinite = false) :
    ∀ items : List Value, itemsWritable format items = itemsSendable items
  | [] => rfl
  | item :: rest => by
      rw [itemsWritable, itemsSendable, isWritable_eq_isSendable hStrict item,
        itemsWritable_eq hStrict rest]

theorem entriesWritable_eq (hStrict : format.namesNonFinite = false) :
    ∀ entries : List (Scalar × Value), entriesWritable format entries = entriesSendable entries
  | [] => rfl
  | (key, value) :: rest => by
      rw [entriesWritable, entriesSendable, Scalar.isWritable_eq_isSendable hStrict key,
        isWritable_eq_isSendable hStrict value, entriesWritable_eq hStrict rest]

end

theorem itemsSendable_iff {items : List Value} :
    itemsSendable items = true ↔ ∀ item ∈ items, item.isSendable = true := by
  have hStrict : Json.Format.compact.namesNonFinite = false := rfl
  simp only [← itemsWritable_eq hStrict, ← isWritable_eq_isSendable hStrict, itemsWritable_iff]

theorem isSendable_texts (ss : List String) : (texts ss).isSendable = true := by
  rw [← isWritable_eq_isSendable (rfl : Json.Format.compact.namesNonFinite = false)]
  exact isWritable_texts ss

theorem isSendable_record_iff {fields : List (String × Value)} :
    (record fields).isSendable = true ↔ ∀ field ∈ fields, field.2.isSendable = true := by
  simp only [← isWritable_eq_isSendable (rfl : Json.Format.compact.namesNonFinite = false)]
  exact isWritable_record_iff

end Value

namespace Json

theorem exists_integer_iff (n : Int) :
    (∃ cs, integer n = .ok cs) ↔ Integer.isWritable n = true := by
  rw [← Integer.exists_write_iff]
  unfold integer
  cases Integer.write n with
  | ok s => simp
  | error cause => simp

theorem exists_number_iff (x : Float) :
    (∃ cs, number format x = .ok cs) ↔ (format.namesNonFinite || Decimal.isFinite x) = true := by
  unfold number
  cases format.namesNonFinite || Decimal.isFinite x with
  | true => simp
  | false => simp

theorem exists_scalar_iff (s : Scalar) :
    (∃ cs, scalar format s = .ok cs) ↔ s.isWritable format = true := by
  cases s with
  | null => simp [scalar, Scalar.isWritable]
  | bool b => cases b <;> simp [scalar, Scalar.isWritable]
  | int n => exact exists_integer_iff n
  | float x => exact exists_number_iff x
  | nan => exact exists_number_iff _
  | text s => simp [scalar, Scalar.isWritable]
  | bytes data => simp [scalar, Scalar.isWritable]
  | date d => simp [scalar, Scalar.isWritable]
  | time m => simp [scalar, Scalar.isWritable]

theorem exists_key_iff (s : Scalar) :
    (∃ cs, key format s = .ok cs) ↔ s.isWritable format = true := by
  have hQuoted : (∃ cs, (do return string format.asciiOnly (String.ofList (← scalar format s))) =
      (.ok cs : Except WriteError (List Char))) ↔ s.isWritable format = true := by
    rw [exists_bind_eq_ok_iff, ← exists_scalar_iff s]
    simp [pure_eq_ok_iff]
  cases s with
  | text s => simp [key, Scalar.isWritable]
  | bytes data => simp [key, Scalar.isWritable]
  | date d => simp [key, Scalar.isWritable]
  | time m => simp [key, Scalar.isWritable]
  | _ => exact hQuoted

mutual

theorem exists_chars_iff :
    ∀ (depth : Nat) (value : Value),
      (∃ cs, chars format depth value = .ok cs) ↔ value.isWritable format = true
  | _, .scalar s => by
      rw [chars, Value.isWritable, exists_scalar_iff]
  | _, .set _ => by simp [chars, Value.isWritable]
  | _, .loop .. => by simp [chars, Value.isWritable]
  | _, .list [] | _, .tuple [] => by simp [chars, Value.isWritable, Value.itemsWritable]
  | depth, .list (item :: rest) | depth, .tuple (item :: rest) => by
      simp only [chars, exists_bind_eq_ok_iff, pure_eq_ok_iff, exists_eq', and_true]
      rw [Value.isWritable, Value.itemsWritable, Bool.and_eq_true,
        ← exists_chars_iff (depth + 1) item,
        ← exists_moreItems_iff (depth + 1) rest]
      simp
  | _, .map [] => by simp [chars, Value.isWritable, Value.entriesWritable]
  | depth, .map ((k, value) :: rest) => by
      simp only [chars, exists_bind_eq_ok_iff, pure_eq_ok_iff, exists_eq', and_true]
      rw [Value.isWritable, Value.entriesWritable, Bool.and_eq_true, Bool.and_eq_true,
        ← exists_key_iff k, ← exists_chars_iff (depth + 1) value,
        ← exists_moreEntries_iff (depth + 1) rest]
      simp

theorem exists_moreItems_iff :
    ∀ (depth : Nat) (items : List Value),
      (∃ cs, moreItems format depth items = .ok cs) ↔ Value.itemsWritable format items = true
  | _, [] => by simp [moreItems, Value.itemsWritable]
  | depth, item :: rest => by
      simp only [moreItems, exists_bind_eq_ok_iff, pure_eq_ok_iff, exists_eq', and_true]
      rw [Value.itemsWritable, Bool.and_eq_true, ← exists_chars_iff depth item,
        ← exists_moreItems_iff depth rest]
      simp

theorem exists_moreEntries_iff :
    ∀ (depth : Nat) (entries : List (Scalar × Value)),
      (∃ cs, moreEntries format depth entries = .ok cs) ↔
        Value.entriesWritable format entries = true
  | _, [] => by simp [moreEntries, Value.entriesWritable]
  | depth, (k, value) :: rest => by
      simp only [moreEntries, exists_bind_eq_ok_iff, pure_eq_ok_iff, exists_eq', and_true]
      rw [Value.entriesWritable, Bool.and_eq_true, Bool.and_eq_true,
        ← exists_key_iff k, ← exists_chars_iff depth value,
        ← exists_moreEntries_iff depth rest]
      simp

end

/-- A value can be written exactly if nothing in it stands in the way. -/
theorem exists_write_iff_isWritable {value : Value} :
    (∃ text, write format value = .ok text) ↔ value.isWritable format = true := by
  rw [write, exists_bind_eq_ok_iff, ← exists_chars_iff 0 value]
  simp [pure_eq_ok_iff]

theorem exists_write_iff (hStrict : format.namesNonFinite = false) {value : Value} :
    (∃ text, write format value = .ok text) ↔ value.isSendable = true := by
  rw [exists_write_iff_isWritable, Value.isWritable_eq_isSendable hStrict]

end Json

end Tailnet
