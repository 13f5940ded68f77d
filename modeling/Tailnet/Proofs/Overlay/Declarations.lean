import Tailnet.Proofs.Overlay.Sections

/-!
Sections of declarations. Entries of the overlay are entered into those of the base, and what is
read from the result are the declarations of the base, overridden by those of the overlay.
-/

namespace Tailnet

open Value (Plain record)

namespace Source

/-- A section that counts as a record: one without fields if it is absent or null. -/
inductive HoldsRecord : Option Value → List (String × Value) → Prop where
  | absent : HoldsRecord none []
  | null : HoldsRecord (some .null) []
  | record (fields : List (String × Value)) : HoldsRecord (some (.record fields)) fields

theorem HoldsRecord.eq_of_record {fields others : List (String × Value)}
    (h : HoldsRecord (some (.record fields)) others) : others = fields := by
  generalize hValue : Value.record fields = value at h
  cases h with
  | null => cases hValue
  | record => exact recordEntries_injective (Value.map.inj hValue).symm

/-- A plain section that is read as a mapping counts as a record. -/
theorem exists_holdsRecord_of_mapping {data : List (String × Value)} (hPlain : (record data).Plain)
    {name : String} {entries : Mapping} (h : mapping (recordEntries data) name = .ok entries) :
    ∃ fields, entries = recordEntries fields ∧ HoldsRecord (Table.get? data name) fields ∧
      (record fields).Plain := by
  have hPart {value : Value} (hFound : Table.get? data name = some value) : value.Plain :=
    hPlain.of_get? hFound
  have hEmpty : (record []).Plain := .record List.nodup_nil (List.forall_mem_nil _)
  rw [mapping, field?_recordEntries] at h
  generalize Table.get? data name = found at h hPart
  split at h
  · cases h
    exact ⟨[], rfl, .absent, hEmpty⟩
  · cases h
    exact ⟨[], rfl, .null, hEmpty⟩
  · cases h
    have hMap := hPart rfl
    rw [hMap.tree.entriesAlone_eq_self]
    obtain ⟨fields, rfl, hNames, hFields⟩ := hMap.exists_fields
    exact ⟨fields, rfl, .record fields, .record hNames hFields⟩
  · cases h

theorem mapping_of_holdsRecord {data : Mapping} {name : String} {found : Option Value}
    (hSection : field? data name = found) {fields : List (String × Value)}
    (h : HoldsRecord found fields) (hTree : (record fields).Tree) :
    mapping data name = .ok (recordEntries fields) := by
  rw [mapping, hSection]
  cases h with
  | absent => rfl
  | null => rfl
  | record => exact congrArg Except.ok hTree.entriesAlone_recordEntries

/-- Entries read one by one, each with its name. -/
def ReadsAs {β : Type} (read : String → Value → Except SourceError β)
    (fields : List (String × Value)) (table : Table String β) : Prop :=
  List.Forall₂ (fun field entry => entry.1 = field.1 ∧ read field.1 field.2 = .ok entry.2) fields
    table

namespace ReadsAs

variable {β : Type} {read : String → Value → Except SourceError β}
  {fields more : List (String × Value)} {table others : Table String β}

theorem keys_eq (h : ReadsAs read fields table) : table.keys = Table.keys fields := by
  induction h with
  | nil => rfl
  | cons hFirst _ ih =>
      change _ :: Table.keys _ = _ :: Table.keys _
      rw [hFirst.1, ih]

theorem insert (h : ReadsAs read fields table) {name : String} {value : Value} {result : β}
    (hRead : read name value = .ok result) :
    ReadsAs read (Table.insert fields name value) (table.insert name result) := by
  induction h with
  | nil => exact .cons ⟨rfl, hRead⟩ .nil
  | @cons field entry rest entries hFirst hRest ih =>
      obtain ⟨key, old⟩ := field
      obtain ⟨other, first⟩ := entry
      obtain ⟨rfl, hOld⟩ := hFirst
      rw [Table.insert, Table.insert]
      split
      case isTrue hKey =>
        obtain rfl := beq_iff_eq.mp hKey
        exact .cons ⟨rfl, hRead⟩ hRest
      case isFalse => exact .cons ⟨rfl, hOld⟩ ih

/-- What is read of fields entered into others is what is read of them, entered into what is read
of the others. -/
theorem update (h : ReadsAs read fields table) (hMore : ReadsAs read more others) :
    ReadsAs read (Table.update fields more) (table.update others) := by
  induction hMore generalizing fields table with
  | nil => exact h
  | @cons field entry rest entries hFirst hRest ih =>
      obtain ⟨key, old⟩ := field
      obtain ⟨other, first⟩ := entry
      obtain ⟨rfl, hOld⟩ := hFirst
      exact ih (h.insert hOld)

/-- Fields have readings exactly if each of them has one. -/
theorem exists_iff : (∃ table, ReadsAs read fields table) ↔
    ∀ field ∈ fields, ∃ result, read field.1 field.2 = .ok result := by
  induction fields with
  | nil => exact ⟨fun _ => List.forall_mem_nil _, fun _ => ⟨[], .nil⟩⟩
  | cons field rest ih =>
      rw [List.forall_mem_cons, ← ih]
      constructor
      · rintro ⟨table, hTable⟩
        cases hTable with
        | cons hFirst hRest => exact ⟨⟨_, hFirst.2⟩, _, hRest⟩
      · rintro ⟨⟨result, hFirst⟩, table, hRest⟩
        exact ⟨(field.1, result) :: table, .cons ⟨rfl, hFirst⟩ hRest⟩

end ReadsAs

/-- A table of the entries of a mapping, each read with the text of its key. -/
def tableOf {β : Type} (read : String → Value → Except SourceError β) (data : Mapping) :
    Except SourceError (Table String β) := do
  let pairs ← data.mapM fun (key, value) => do
    let name ← textOf (.scalar key)
    return (name, ← read name value)
  return Table.ofPairs pairs

theorem textLists_eq_tableOf (place : String) :
    textLists place =
      tableOf fun name value => texts (place ++ "." ++ name) (some value) := rfl

/-- A record is read as a table exactly if its fields are read one by one. -/
theorem tableOf_eq_ok_iff {β : Type} {read : String → Value → Except SourceError β}
    {fields : List (String × Value)} (hNames : (Table.keys fields).Nodup)
    {table : Table String β} :
    tableOf read (recordEntries fields) = .ok table ↔ ReadsAs read fields table := by
  have hEntry (field : String × Value) (entry : String × β) :
      (do
        let name ← textOf (.scalar (.text field.1))
        return (name, ← read name field.2)) = Except.ok entry ↔
      entry.1 = field.1 ∧ read field.1 field.2 = .ok entry.2 := by
    change (read field.1 field.2 >>= fun value => pure (field.1, value)) = Except.ok entry ↔ _
    rw [bind_eq_ok_iff]
    constructor
    · rintro ⟨value, hValue, hPair⟩
      cases hPair
      exact ⟨rfl, hValue⟩
    · rintro ⟨hName, hValue⟩
      exact ⟨entry.2, hValue, by rw [← hName]; rfl⟩
  have hPairs (pairs : Table String β) :
      (recordEntries fields).mapM (fun (key, value) => do
        let name ← textOf (.scalar key)
        return (name, ← read name value)) = .ok pairs ↔ ReadsAs read fields pairs := by
    rw [mapM_eq_ok_iff, recordEntries, List.forall₂_map_left_iff, ReadsAs]
    exact ⟨fun h => h.imp fun field entry => (hEntry field entry).mp,
      fun h => h.imp fun field entry => (hEntry field entry).mpr⟩
  rw [tableOf, bind_eq_ok_iff]
  simp only [hPairs, pure_eq_ok_iff]
  constructor
  · rintro ⟨pairs, hPairs, rfl⟩
    rwa [Table.ofPairs_eq_self (by rwa [hPairs.keys_eq])]
  · intro hTable
    exact ⟨table, hTable, Table.ofPairs_eq_self (by rwa [hTable.keys_eq])⟩

end Source

namespace Overlay

open Source (HoldsRecord)

theorem asMapping_of_holdsRecord {below : Option Value} {fields : List (String × Value)}
    (h : HoldsRecord below fields) (hTree : (record fields).Tree) :
    asMapping (below.getD .null) = .ok (recordEntries fields) := by
  cases h with
  | absent => rfl
  | null => rfl
  | record =>
      cases fields with
      | nil => rfl
      | cons field rest => exact congrArg Except.ok hTree.entriesAlone_recordEntries

theorem mappingOf_of_holdsRecord {above : Value} {fields : List (String × Value)}
    (h : HoldsRecord (some above) fields) (hTree : (record fields).Tree) (name : String) :
    mappingOf name above = .ok (recordEntries fields) := by
  cases h with
  | null => rfl
  | record => exact congrArg Except.ok hTree.entriesAlone_recordEntries

/-- Declarations are read after merging as the base's, overridden by the overlay's. -/
theorem exists_yields_declarations {β : Type} (read : String → Value → Except SourceError β)
    {base overlay : List (String × Value)} (hBase : (record base).Plain)
    (hOverlay : (record overlay).Plain) (name : String) {below above : Table String β}
    (hBelow : Source.mapping (recordEntries base) name >>= Source.tableOf read = .ok below)
    (hAbove : Source.mapping (recordEntries overlay) name >>= Source.tableOf read = .ok above) :
    ∃ table, Table.Overrides table below above ∧
      Yields base overlay (name, mergeDeclarations name) fun data =>
        Source.mapping data name >>= Source.tableOf read = .ok table := by
  obtain ⟨belowEntries, hBelowEntries, hBelowTable⟩ := bind_eq_ok_iff.mp hBelow
  obtain ⟨aboveEntries, hAboveEntries, hAboveTable⟩ := bind_eq_ok_iff.mp hAbove
  obtain ⟨belowFields, rfl, hBelowHolds, hBelowPlain⟩ :=
    Source.exists_holdsRecord_of_mapping hBase hBelowEntries
  obtain ⟨aboveFields, rfl, hAboveHolds, hAbovePlain⟩ :=
    Source.exists_holdsRecord_of_mapping hOverlay hAboveEntries
  have hBelowReads := (Source.tableOf_eq_ok_iff hBelowPlain.nodup_keys).mp hBelowTable
  have hAboveReads := (Source.tableOf_eq_ok_iff hAbovePlain.nodup_keys).mp hAboveTable
  refine ⟨below.update above, Table.overrides_update (hBelowReads.keys_eq ▸ hBelowPlain.nodup_keys)
    (hAboveReads.keys_eq ▸ hAbovePlain.nodup_keys), ?_⟩
  cases hFound : Table.get? overlay name with
  | none =>
      rw [hFound] at hAboveHolds
      cases hAboveHolds
      cases hAboveReads
      refine .of_kept hFound fun data hData => ?_
      rw [Source.mapping_of_holdsRecord hData hBelowHolds hBelowPlain.tree]
      exact hBelowTable
  | some value =>
      rw [hFound] at hAboveHolds
      have hMerged : (record (Table.update belowFields aboveFields)).Plain :=
        hBelowPlain.update hAbovePlain
      refine .of_merged (record (Table.update belowFields aboveFields)) hFound ?_
        fun data hData => ?_
      · rw [mergeDeclarations, asMapping_of_holdsRecord hBelowHolds hBelowPlain.tree, ok_bind,
          mappingOf_of_holdsRecord hAboveHolds hAbovePlain.tree, ok_bind, update_recordEntries]
        rfl
      · rw [Source.mapping_of_holdsRecord hData (.record _) hMerged.tree, ok_bind,
          Source.tableOf_eq_ok_iff hMerged.nodup_keys]
        exact hBelowReads.update hAboveReads

end Overlay

end Tailnet
