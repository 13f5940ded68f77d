import Tailnet.Proofs.Table
import Tailnet.Value.Basic

/-!
Data as it is read again: the fields of a record are found under their names, and the texts of a
list are the texts it was made of.
-/

namespace Tailnet

/-- The entries of a record. -/
def recordEntries (fields : List (String × Value)) : Mapping :=
  fields.map fun field => (.text field.1, field.2)

theorem recordEntries_injective : Function.Injective recordEntries := by
  intro fields others h
  refine List.map_injective_iff.mpr ?_ h
  rintro ⟨name, value⟩ ⟨other, second⟩ hEntry
  simpa using hEntry

theorem insert_recordEntries (fields : List (String × Value)) (name : String) (value : Value) :
    Table.insert (recordEntries fields) (.text name) value =
      recordEntries (Table.insert fields name value) := by
  induction fields with
  | nil => rfl
  | cons field rest ih =>
      obtain ⟨key, old⟩ := field
      have hStep : Table.insert (recordEntries ((key, old) :: rest)) (.text name) value =
          if key == name then (.text key, value) :: recordEntries rest
          else (.text key, old) :: Table.insert (recordEntries rest) (.text name) value := rfl
      rw [hStep, ih, Table.insert]
      split <;> rfl

/-- Nothing but a text is the same key as a text. -/
theorem Scalar.beq_text_iff {key : Scalar} {name : String} :
    (key == .text name) = true ↔ key = .text name := by
  constructor
  · intro h
    cases key with
    | text s => exact congrArg Scalar.text (eq_of_beq h)
    | float x =>
        change Scalar.same (.float x) (.text name) = true at h
        cases hInteger : Decimal.exactInteger? x <;>
          simp [Scalar.same, Scalar.integer?, hInteger] at h
    | _ => cases h
  · rintro rfl
    exact beq_self_eq_true name

/-- Entering a value under a text changes what is found under that text alone. -/
theorem get?_insert_text (data : Mapping) (name other : String) (value : Value) :
    Table.get? (Table.insert data (.text name) value) (.text other) =
      if name = other then some value else Table.get? data (.text other) := by
  have hText : ((Scalar.text name == .text other) = true) ↔ name = other := by
    rw [Scalar.beq_text_iff, Scalar.text.injEq]
  induction data with
  | nil =>
      rw [Table.insert, Table.get?]
      exact if_congr hText rfl rfl
  | cons entry rest ih =>
      obtain ⟨key, old⟩ := entry
      rw [Table.insert]
      split
      case isTrue hKey =>
        obtain rfl := Scalar.beq_text_iff.mp hKey
        rw [Table.get?, Table.get?]
        simp only [hText]
        split <;> rfl
      case isFalse hKey =>
        rw [Table.get?, Table.get?, ih]
        by_cases hName : name = other
        · subst hName
          rw [if_neg hKey, if_pos rfl, if_pos rfl]
        · rw [if_neg hName, if_neg hName]

/-- A record is entered into another field by field. -/
theorem update_recordEntries (fields more : List (String × Value)) :
    Table.update (recordEntries fields) (recordEntries more) =
      recordEntries (Table.update fields more) := by
  induction more generalizing fields with
  | nil => rfl
  | cons field rest ih =>
      have hStep : Table.update (recordEntries fields) (recordEntries (field :: rest)) =
          Table.update (Table.insert (recordEntries fields) (.text field.1) field.2)
            (recordEntries rest) := rfl
      rw [hStep, insert_recordEntries, ih]
      rfl

/-- The entries of fields whose names differ are a table already. -/
theorem ofPairs_recordEntries {fields : List (String × Value)} (h : (Table.keys fields).Nodup) :
    Table.ofPairs (recordEntries fields) = recordEntries fields := by
  have hUpdate := update_recordEntries [] fields
  rwa [show Table.update [] fields = fields from Table.ofPairs_eq_self h] at hUpdate

namespace Value

/-- The text that a value is. -/
def asText? : Value → Option String
  | .scalar (.text s) => some s
  | _ => none

/-- The texts among the items of a list. -/
def textItems : Value → List String
  | .list items => items.filterMap asText?
  | _ => []

/-- The items of a list. -/
def listItems : Value → List Value
  | .list items => items
  | _ => []

/-- What a mapping holds under its keys. -/
def entryValues : Value → List Value
  | .map entries => entries.map Prod.snd
  | _ => []

/-- The entry of a mapping under a text key, or the absent value. -/
def part (value : Value) (name : String) : Value := (value.field? name).getD null

@[simp] theorem textItems_texts (ss : List String) : (texts ss).textItems = ss := by
  induction ss with
  | nil => rfl
  | cons s rest ih =>
      have hStep : (texts (s :: rest)).textItems = s :: (texts rest).textItems := rfl
      rw [hStep, ih]

@[simp] theorem listItems_list (items : List Value) : listItems (.list items) = items := rfl

@[simp] theorem entryValues_record (fields : List (String × Value)) :
    (record fields).entryValues = fields.map Prod.snd := by
  simp [record, entryValues, Function.comp_def]

theorem field?_record (fields : List (String × Value)) (name : String) :
    (record fields).field? name = Table.get? fields name := by
  induction fields with
  | nil => rfl
  | cons field rest ih =>
      obtain ⟨key, value⟩ := field
      have hStep : (record ((key, value) :: rest)).field? name =
          if key == name then some value else (record rest).field? name := rfl
      rw [hStep, ih, Table.get?_cons]

theorem eq_null_of_isNull {value : Value} (h : value.isNull = true) : value = null := by
  cases value with
  | scalar s =>
      cases s with
      | null => rfl
      | _ => cases h
  | _ => cases h

@[simp] theorem entryValues_null : null.entryValues = [] := rfl

@[simp] theorem part_record_nil (name : String) : (record []).part name = null := rfl

theorem part_record_cons (key name : String) (value : Value) (rest : List (String × Value)) :
    (record ((key, value) :: rest)).part name =
      if key = name then value else (record rest).part name := by
  rw [part, field?_record, Table.get?_cons, part, field?_record]
  by_cases hKey : key = name
  · simp [hKey]
  · simp [hKey]

/-- The keys of a record are different exactly if its names are. -/
theorem pairwise_keys_recordEntries_iff {fields : List (String × Value)} :
    ((Table.keys (recordEntries fields)).Pairwise fun a b => (a == b) = false) ↔
      (Table.keys fields).Nodup := by
  have hText (name other : String) :
      (Scalar.text name == .text other) = false ↔ name ≠ other := by
    rw [Bool.eq_false_iff, ne_eq, Scalar.beq_text_iff, Scalar.text.injEq]
  have hKeys : Table.keys (recordEntries fields) = (Table.keys fields).map Scalar.text := by
    rw [recordEntries, Table.keys, Table.keys, List.map_map, List.map_map]
    rfl
  rw [hKeys, List.pairwise_map]
  simp only [hText]
  rfl

/-- The fields of a record are found under their names, if no name stands twice. -/
theorem field?_record_of_mem {fields : List (String × Value)} {name : String} {value : Value}
    (hNames : (Table.keys fields).Nodup) (h : (name, value) ∈ fields) :
    (record fields).field? name = some value := by
  rw [field?_record]
  exact Table.get?_eq_some_of_mem hNames h

end Value

end Tailnet
