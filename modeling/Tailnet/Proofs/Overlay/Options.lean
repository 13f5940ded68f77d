import Tailnet.Proofs.Display
import Tailnet.Proofs.Overlay.Declarations

/-!
The options of the tailnet. Merging at every depth leads to no options that are refused: whatever is
accepted of base and overlay is so of the merged options, from single fields up to the whole
section.
-/

namespace Tailnet

open Value (Plain record)

namespace Overlay

open Source (HoldsRecord)

/-- The field of two merged records, out of their fields of the same name. -/
def layerField (below above : Option Value) : Option Value := (above.map (layer below)).or below

/-- What holds of a field of the base and of the same field of the overlay holds of the merged
field. -/
def FieldKept (P : Option Value → Prop) : Prop :=
  ∀ below above : Option Value, (∀ value, below = some value → value.Plain) →
    (∀ value, above = some value → value.Plain) → P below → P above → P (layerField below above)

/-- What holds of two records holds of the merged one. -/
def RecordKept (R : Mapping → Prop) : Prop :=
  ∀ base overlay : List (String × Value), (record base).Plain → (record overlay).Plain →
    R (recordEntries base) → R (recordEntries overlay) →
      R (recordEntries (Table.updateWith layer base overlay))

/-- Only two records are merged, anything else is kept or overridden as it is. -/
theorem FieldKept.of_record {P : Option Value → Prop}
    (h : ∀ base overlay, (record base).Plain → (record overlay).Plain →
      P (some (record base)) → P (some (record overlay)) →
        P (some (record (Table.updateWith layer base overlay)))) : FieldKept P := by
  intro below above hBelowPlain hAbovePlain hBelow hAbove
  cases above with
  | none => exact hBelow
  | some value =>
      change P (some (layer below value))
      rcases records_or_layer_eq_self hBelowPlain (hAbovePlain _ rfl) with
        ⟨base, overlay, rfl, rfl⟩ | ⟨hSelf, -⟩
      · rw [layer_record]
        exact h base overlay (hBelowPlain _ rfl) (hAbovePlain _ rfl) hBelow hAbove
      · rwa [hSelf]

/-- Nothing is merged of what is never a mapping. -/
theorem FieldKept.of_not_map {P : Option Value → Prop}
    (h : ∀ entries, ¬P (some (.map entries))) : FieldKept P :=
  .of_record fun _ _ _ _ hBelow _ => absurd hBelow (h _)

theorem FieldKept.recordKept {P : Option Value → Prop} (h : FieldKept P) (name : String) :
    RecordKept fun data => P (Source.field? data name) := by
  intro base overlay hBase hOverlay hBelow hAbove
  rw [Source.field?_recordEntries] at hBelow hAbove ⊢
  rw [Table.get?_updateWith hOverlay.nodup_keys]
  exact h _ _ (fun _ => hBase.of_get?) (fun _ => hOverlay.of_get?) hBelow hAbove

theorem RecordKept.and {R S : Mapping → Prop} (hR : RecordKept R) (hS : RecordKept S) :
    RecordKept fun data => R data ∧ S data :=
  fun base overlay hBase hOverlay hBelow hAbove =>
    ⟨hR base overlay hBase hOverlay hBelow.1 hAbove.1,
      hS base overlay hBase hOverlay hBelow.2 hAbove.2⟩

/-- What is kept of records is kept of records inside of them. -/
theorem RecordKept.mapping {R : Mapping → Prop} (h : RecordKept R) (name : String) :
    RecordKept fun data => ∃ entries, Source.mapping data name = .ok entries ∧ R entries := by
  have hField : FieldKept fun found =>
      ∃ fields, HoldsRecord found fields ∧ (record fields).Plain ∧ R (recordEntries fields) := by
    refine .of_record fun base overlay hBase hOverlay hBelow hAbove => ?_
    obtain ⟨fields, hHolds, -, hFields⟩ := hBelow
    obtain ⟨others, hOtherHolds, -, hOthers⟩ := hAbove
    rw [hHolds.eq_of_record] at hFields
    rw [hOtherHolds.eq_of_record] at hOthers
    exact ⟨_, .record _, plain_updateWith hBase hOverlay, h _ _ hBase hOverlay hFields hOthers⟩
  intro base overlay hBase hOverlay ⟨belowEntries, hBelow, hBelowR⟩ ⟨aboveEntries, hAbove, hAboveR⟩
  obtain ⟨fields, rfl, hHolds, hFields⟩ := Source.exists_holdsRecord_of_mapping hBase hBelow
  obtain ⟨others, rfl, hOtherHolds, hOthers⟩ :=
    Source.exists_holdsRecord_of_mapping hOverlay hAbove
  rw [← Source.field?_recordEntries] at hHolds hOtherHolds
  -- The merged section is again one of plain fields, so it is read as what it holds.
  obtain ⟨merged, hMergedHolds, hMerged, hMergedR⟩ := hField.recordKept name _ _ hBase hOverlay
    ⟨fields, hHolds, hFields, hBelowR⟩ ⟨others, hOtherHolds, hOthers, hAboveR⟩
  exact ⟨_, Source.mapping_of_holdsRecord rfl hMergedHolds hMerged.tree, hMergedR⟩

theorem fieldKept_texts (place : String) :
    FieldKept fun found => ∃ ss, Source.texts place found = .ok ss :=
  .of_not_map fun _ ⟨_, h⟩ => by cases h

/-- A feature with tags in base and overlay has tags that can be read. -/
theorem fieldKept_feature (place : String) :
    FieldKept fun found => ∃ feature, Source.feature place found = .ok feature := by
  have hRecord {fields : List (String × Value)} (hPlain : (record fields).Plain) :
      (∃ found, Source.feature place (some (record fields)) = .ok found) ↔
        ∃ ss, Source.texts (place ++ ".tags") (Source.field? (recordEntries fields) "tags") =
          .ok ss := by
    change (∃ found, (Source.texts (place ++ ".tags")
      (Source.field? (Value.entriesAlone (recordEntries fields)) "tags") >>= fun tags =>
        pure (_, tags)) = Except.ok found) ↔ _
    rw [hPlain.tree.entriesAlone_recordEntries, exists_bind_eq_ok_iff]
    simp only [pure_eq_ok_iff, exists_eq', and_true]
  refine .of_record fun base overlay hBase hOverlay hBelow hAbove => ?_
  rw [hRecord hBase] at hBelow
  rw [hRecord hOverlay] at hAbove
  rw [hRecord (plain_updateWith hBase hOverlay)]
  exact (fieldKept_texts _).recordKept "tags" _ _ hBase hOverlay hBelow hAbove

/-- Tables of base and overlay make a table, if every entry of theirs makes an entry. -/
theorem recordKept_tableOf {β : Type} {read : String → Value → Except SourceError β}
    {Known : String → Prop}
    (h : ∀ name, FieldKept fun found => ∀ value, found = some value →
      Known name ∧ ∃ entry, read name value = .ok entry) :
    RecordKept fun data => ∃ table, Source.tableOf read data = .ok table ∧
      ∀ name ∈ table.keys, Known name := by
  have hFields {fields : List (String × Value)} (hPlain : (record fields).Plain) :
      (∃ table, Source.tableOf read (recordEntries fields) = .ok table ∧
        ∀ name ∈ table.keys, Known name) ↔
      ∀ name value, Source.field? (recordEntries fields) name = some value →
        Known name ∧ ∃ entry, read name value = .ok entry := by
    simp only [Source.tableOf_eq_ok_iff hPlain.nodup_keys, Source.field?_recordEntries]
    constructor
    · rintro ⟨table, hTable, hKnown⟩ name value hFound
      have hIn := Table.mem_of_get?_eq_some hFound
      refine ⟨hKnown name ?_, Source.ReadsAs.exists_iff.mp ⟨table, hTable⟩ _ hIn⟩
      rw [hTable.keys_eq]
      exact List.mem_map_of_mem hIn
    · intro hAll
      have hEach : ∀ field ∈ fields, Known field.1 ∧ ∃ entry, read field.1 field.2 = .ok entry :=
        fun field hField =>
          hAll field.1 field.2 (Table.get?_eq_some_of_mem hPlain.nodup_keys hField)
      obtain ⟨table, hTable⟩ :=
        Source.ReadsAs.exists_iff.mpr fun field hField => (hEach field hField).2
      refine ⟨table, hTable, ?_⟩
      rw [hTable.keys_eq]
      exact List.forall_mem_map.mpr fun field hField => (hEach field hField).1
  intro base overlay hBase hOverlay hBelow hAbove
  rw [hFields hBase] at hBelow
  rw [hFields hOverlay] at hAbove
  rw [hFields (plain_updateWith hBase hOverlay)]
  exact fun name => (h name).recordKept name _ _ hBase hOverlay (hBelow name) (hAbove name)

/-- What can be shown of base and overlay can be shown after merging. -/
theorem isShort_layer {above : Value} (h : above.Plain) (hAbove : above.isShort = true)
    {below : Option Value} (hPlain : ∀ value, below = some value → value.Plain)
    (hBelow : ∀ value, below = some value → value.isShort = true) :
    (layer below above).isShort = true := by
  induction h generalizing below with
  | scalar s => rwa [layer_eq_self (.inr fun _ hEq => by cases hEq)]
  | list | tuple | set => rwa [layer_eq_self (.inr fun _ hEq => by cases hEq)]
  | @record overlay hNames hFields ih =>
      rcases records_or_layer_eq_self hPlain (.record hNames hFields) with
        ⟨base, others, rfl, -⟩ | ⟨hSelf, -⟩
      · have hBase := hPlain _ rfl
        rw [layer_record, Value.isShort_record_iff]
        refine fun field hField => (Table.forall_mem_updateWith
          (Q := fun value => value.Plain ∧ value.isShort = true) ?_ ?_ field hField).2
        · exact fun field hField => ⟨hBase.of_mem_fields field hField,
            Value.isShort_record_iff.mp (hBelow _ rfl) field hField⟩
        · exact fun field hField found hFound =>
            ⟨plain_layer (hFields field hField) fun value hValue => (hFound value hValue).1,
              ih field hField (Value.isShort_record_iff.mp hAbove field hField)
                (fun value hValue => (hFound value hValue).1)
                fun value hValue => (hFound value hValue).2⟩
      · rwa [hSelf]

theorem exists_textOf_iff {value : Value} :
    (∃ s, Source.textOf value = .ok s) ↔ value.isShort = true := by
  simp only [Source.textOf, mapError_eq_ok_iff, Value.exists_display_iff]

theorem fieldKept_contact (name : String) :
    FieldKept fun found => ∀ value, found = some value →
      name ∈ contactTypes ∧ ∃ s, Source.textOf value = .ok s := by
  simp only [exists_textOf_iff]
  intro below above hBelowPlain hAbovePlain hBelow hAbove value hValue
  cases above with
  | none => exact hBelow value hValue
  | some new =>
      obtain rfl := Option.some_inj.mp hValue
      exact ⟨(hAbove _ rfl).1, isShort_layer (hAbovePlain _ rfl) (hAbove _ rfl).2 hBelowPlain
        fun old hOld => (hBelow old hOld).2⟩

theorem recordKept_dnsOptions :
    RecordKept fun data => ∃ dns, Source.dnsOptions data = .ok dns := by
  have hSplit : RecordKept fun data =>
      ∃ table, Source.textLists "tailnet.dns.splitDns" data = .ok table := by
    have hEntry (name : String) : FieldKept fun found => ∀ value, found = some value →
        True ∧ ∃ ss, Source.texts ("tailnet.dns.splitDns" ++ "." ++ name) (some value) =
          .ok ss := by
      refine .of_not_map fun entries h => ?_
      obtain ⟨-, _, hTexts⟩ := h _ rfl
      cases hTexts
    simpa only [implies_true, and_true, Source.textLists_eq_tableOf] using
      recordKept_tableOf hEntry
  simp only [Source.exists_dnsOptions_iff]
  exact (hSplit.mapping "splitDns").and
    (((fieldKept_texts _).recordKept "searchPaths").and
      ((fieldKept_texts _).recordKept "nameservers"))

theorem recordKept_keyOptions :
    RecordKept fun data => ∃ keys, Source.keyOptions data = .ok keys := by
  have hDays : FieldKept fun found =>
      ∃ days, (found.getD (.int 90)).toInteger = .ok days ∧ 0 < days :=
    .of_not_map fun _ ⟨_, h, _⟩ => by cases h
  simp only [Source.exists_keyOptions_iff]
  exact ((fieldKept_feature _).recordKept "ephemeralKey").and
    (((fieldKept_feature _).recordKept "infraKey").and
      ((hDays.recordKept "keyExpiryDays").and ((fieldKept_texts _).recordKept "tags")))

/-- Options accepted in base and overlay are accepted after merging. -/
theorem recordKept_tailnetOptions :
    RecordKept fun data => ∃ options, Source.tailnetOptions data = .ok options := by
  have hSettings : RecordKept fun data =>
      ∃ settings, Source.mapping data "settings" = .ok settings := by
    simpa only [and_true] using
      RecordKept.mapping (R := fun _ => True) (fun _ _ _ _ _ _ => trivial) "settings"
  have hContacts : RecordKept fun data => ∃ table, Source.textTable data = .ok table ∧
      ∀ kind ∈ table.keys, kind ∈ contactTypes := recordKept_tableOf fieldKept_contact
  simp only [Source.exists_tailnetOptions_iff]
  exact (recordKept_dnsOptions.mapping "dns").and
    ((recordKept_keyOptions.mapping "keys").and
      (hSettings.and (hContacts.mapping "contacts")))

theorem mergeOptions_of_holdsRecord {below : Option Value} {above : Value}
    {fields others : List (String × Value)} (hBelow : HoldsRecord below fields)
    (hFields : (record fields).Plain) (hAbove : HoldsRecord (some above) others)
    (hOthers : (record others).Plain) :
    mergeOptions (below.getD .null) above =
      .ok (record (Table.updateWith layer fields others)) := by
  have hMerged (base : Value) :
      mergeEntries (depthLimit base (.map (recordEntries others))) (recordEntries fields)
          (recordEntries others) >>= (fun merged => pure (.map merged)) =
        .ok (record (Table.updateWith layer fields others)) := by
    have hDepth : (record others).collections ≤ depthLimit base (record others) :=
      Nat.le_mul_of_pos_left _ (Nat.succ_pos _)
    exact bind_eq_ok_iff.mpr ⟨_, mergeEntries_eq_ok _ hFields hOthers hDepth, rfl⟩
  rw [mergeOptions, mappingOf_of_holdsRecord hAbove hOthers.tree, ok_bind]
  cases hBelow with
  | absent => exact hMerged .null
  | null => exact hMerged .null
  | record =>
      cases fields with
      | nil => exact hMerged (record [])
      | cons field rest => exact hMerged (record (field :: rest))

/-- Options are read after merging. -/
theorem exists_yields_options {base overlay : List (String × Value)}
    (hBase : (record base).Plain) (hOverlay : (record overlay).Plain)
    {below above : TailnetOptions}
    (hBelow : Source.mapping (recordEntries base) "tailnet" >>= Source.tailnetOptions = .ok below)
    (hAbove : Source.mapping (recordEntries overlay) "tailnet" >>= Source.tailnetOptions =
      .ok above) :
    ∃ options, Yields base overlay ("tailnet", mergeOptions) fun data =>
      Source.mapping data "tailnet" >>= Source.tailnetOptions = .ok options := by
  obtain ⟨belowEntries, hBelowEntries, hBelowOptions⟩ := bind_eq_ok_iff.mp hBelow
  obtain ⟨aboveEntries, hAboveEntries, hAboveOptions⟩ := bind_eq_ok_iff.mp hAbove
  obtain ⟨fields, rfl, hHolds, hFields⟩ :=
    Source.exists_holdsRecord_of_mapping hBase hBelowEntries
  obtain ⟨others, rfl, hOtherHolds, hOthers⟩ :=
    Source.exists_holdsRecord_of_mapping hOverlay hAboveEntries
  cases hFound : Table.get? overlay "tailnet" with
  | none =>
      refine ⟨below, .of_kept hFound fun data hData => ?_⟩
      rw [Source.mapping_of_holdsRecord hData hHolds hFields.tree]
      exact hBelowOptions
  | some value =>
      rw [hFound] at hOtherHolds
      obtain ⟨options, hOptions⟩ := recordKept_tailnetOptions fields others hFields hOthers
        ⟨below, hBelowOptions⟩ ⟨above, hAboveOptions⟩
      have hMerge := mergeOptions_of_holdsRecord hHolds hFields hOtherHolds hOthers
      refine ⟨options, .of_merged _ hFound hMerge fun data hData => ?_⟩
      rw [Source.mapping_of_holdsRecord hData (.record _) (plain_updateWith hFields hOthers).tree]
      exact hOptions

end Overlay

end Tailnet
