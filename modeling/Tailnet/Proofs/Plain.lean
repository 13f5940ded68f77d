import Tailnet.Proofs.Tree

/-!
Plain data, as a configuration file without aliases holds it: it has no loops, and mappings have
texts as keys, none of them twice.
-/

namespace Tailnet.Value

/-- A value without loops whose mappings are records with different names. -/
inductive Plain : Value → Prop where
  | scalar (s : Scalar) : Plain (.scalar s)
  | list {items : List Value} (h : ∀ item ∈ items, Plain item) : Plain (.list items)
  | tuple {items : List Value} (h : ∀ item ∈ items, Plain item) : Plain (.tuple items)
  | set (members : List Scalar) : Plain (.set members)
  | record {fields : List (String × Value)} (hNames : (Table.keys fields).Nodup)
      (h : ∀ field ∈ fields, Plain field.2) : Plain (.record fields)

namespace Plain

theorem tree {value : Value} (h : value.Plain) : value.Tree := by
  induction h with
  | scalar s => exact .scalar s
  | list _ ih => exact .list ih
  | tuple _ ih => exact .tuple ih
  | set members => exact .set members
  | record _ _ ih => exact .map (List.forall_mem_map.mpr ih)

theorem of_mem_items {items : List Value} (h : Plain (.list items)) :
    ∀ item ∈ items, item.Plain := by
  cases h with
  | list h => exact h

/-- A plain mapping is a record. -/
theorem exists_fields {entries : Mapping} (h : Plain (.map entries)) :
    ∃ fields, entries = recordEntries fields ∧ (Table.keys fields).Nodup ∧
      ∀ field ∈ fields, field.2.Plain := by
  generalize hValue : Value.map entries = value at h
  cases h with
  | scalar | list | tuple | set => cases hValue
  | record hNames h => exact ⟨_, Value.map.inj hValue, hNames, h⟩

theorem nodup_keys {fields : List (String × Value)} (h : (Value.record fields).Plain) :
    (Table.keys fields).Nodup := by
  obtain ⟨others, hEntries, hNames, -⟩ := h.exists_fields
  rwa [recordEntries_injective hEntries]

theorem of_mem_fields {fields : List (String × Value)} (h : (Value.record fields).Plain) :
    ∀ field ∈ fields, field.2.Plain := by
  obtain ⟨others, hEntries, -, hFields⟩ := h.exists_fields
  rwa [recordEntries_injective hEntries]

theorem of_get? {fields : List (String × Value)} (h : (Value.record fields).Plain) {name : String}
    {value : Value} (hFound : Table.get? fields name = some value) : value.Plain :=
  h.of_mem_fields _ (Table.mem_of_get?_eq_some hFound)

theorem update {fields more : List (String × Value)} (h : (Value.record fields).Plain)
    (hMore : (Value.record more).Plain) : (Value.record (Table.update fields more)).Plain := by
  refine .record (Table.nodup_keys_update h.nodup_keys more) fun field hField => ?_
  have hAll := Table.forall_mem_update (P := fun _ => True) (Q := Plain)
    (fun field hField => ⟨trivial, h.of_mem_fields field hField⟩)
    (fun field hField => ⟨trivial, hMore.of_mem_fields field hField⟩)
  exact (hAll field hField).2

theorem texts (ss : List String) : (Value.texts ss).Plain :=
  .list (List.forall_mem_map.mpr fun s _ => .scalar (.text s))

end Plain

@[simp] theorem plain_scalar (s : Scalar) : (Value.scalar s).Plain := .scalar s

@[simp] theorem plain_texts (ss : List String) : (Value.texts ss).Plain := .texts ss

@[simp] theorem plain_list_iff {items : List Value} :
    (Value.list items).Plain ↔ ∀ item ∈ items, item.Plain :=
  ⟨Plain.of_mem_items, Plain.list⟩

@[simp] theorem plain_record_iff {fields : List (String × Value)} :
    (Value.record fields).Plain ↔ (Table.keys fields).Nodup ∧ ∀ field ∈ fields, field.2.Plain :=
  ⟨fun h => ⟨h.nodup_keys, h.of_mem_fields⟩, fun h => .record h.1 h.2⟩

end Tailnet.Value
