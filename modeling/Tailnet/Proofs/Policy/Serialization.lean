import Tailnet.Proofs.Json.Completeness
import Tailnet.Proofs.Json.Conformance
import Tailnet.Proofs.Json.Writer
import Tailnet.Proofs.Policy.Encoding
import Tailnet.Proofs.Session.Naming

/-!
The text of a document is JSON for the document as data and for nothing else. This holds of every
document that comes about and is written, with whatever indentation, as long as it holds no floats;
so different documents have different texts, and the indentation says nothing. A tuple is the same
array as the list of its items, so a text does not tell them apart.
-/

namespace Tailnet

namespace Value

/-- A value in which no mapping has a key twice. -/
inductive Distinct : Value → Prop where
  | scalar (s : Scalar) : Distinct (.scalar s)
  | list {items : List Value} (h : ∀ item ∈ items, Distinct item) : Distinct (.list items)
  | tuple {items : List Value} (h : ∀ item ∈ items, Distinct item) : Distinct (.tuple items)
  | set (members : List Scalar) : Distinct (.set members)
  | map {entries : Mapping} (hKeys : (Table.keys entries).Pairwise fun a b => (a == b) = false)
      (h : ∀ entry ∈ entries, Distinct entry.2) : Distinct (.map entries)
  | loop (up : Nat) (shape : Shape) : Distinct (.loop up shape)

theorem Distinct.record {fields : List (String × Value)} (hNames : (Table.keys fields).Nodup)
    (h : ∀ field ∈ fields, field.2.Distinct) : (Value.record fields).Distinct :=
  .map (pairwise_keys_recordEntries_iff.mpr hNames) (List.forall_mem_map.mpr h)

section Checking

/-- A list that can be written has items that can be. -/
theorem forall_of_checkItems {location : Path} {items : List Value} {index : Nat}
    (h : checkItems location index items = .ok ()) :
    ∀ item ∈ items, ∃ place, item.checkWritable place = .ok () := by
  induction items generalizing index with
  | nil => exact List.forall_mem_nil _
  | cons item rest ih =>
      rw [checkItems] at h
      obtain ⟨⟨⟩, hItem, hRest⟩ := bind_eq_ok_iff.mp h
      exact List.forall_mem_cons.mpr ⟨⟨_, hItem⟩, ih hRest⟩

/-- A mapping that can be written is a record of values that can be. -/
theorem exists_fields_of_checkEntries {location : Path} {entries : Mapping}
    (h : checkEntries location entries = .ok ()) :
    ∃ fields, entries = recordEntries fields ∧
      ∀ field ∈ fields, ∃ place, field.2.checkWritable place = .ok () := by
  induction entries with
  | nil => exact ⟨[], rfl, List.forall_mem_nil _⟩
  | cons entry rest ih =>
      obtain ⟨key, value⟩ := entry
      cases key with
      | text name =>
          rw [checkEntries] at h
          obtain ⟨⟨⟩, hValue, hRest⟩ := bind_eq_ok_iff.mp h
          obtain ⟨fields, rfl, hFields⟩ := ih hRest
          exact ⟨(name, value) :: fields, rfl, List.forall_mem_cons.mpr ⟨⟨_, hValue⟩, hFields⟩⟩
      | _ => cases h

/-- A value that is checked and has a text is plain. -/
theorem Distinct.plain {value : Value} (h : value.Distinct) :
    ∀ location, value.checkWritable location = .ok () → value.isSendable = true → value.Plain := by
  induction h with
  | scalar s => exact fun _ _ _ => .scalar s
  | set members => exact fun _ _ _ => .set members
  | list _ ih =>
      intro location hCheck hSendable
      rw [isSendable, itemsSendable_iff] at hSendable
      refine .list fun item hItem => ?_
      obtain ⟨place, hPlace⟩ := forall_of_checkItems hCheck item hItem
      exact ih item hItem place hPlace (hSendable item hItem)
  | tuple _ ih =>
      intro location hCheck hSendable
      rw [isSendable, itemsSendable_iff] at hSendable
      refine .tuple fun item hItem => ?_
      obtain ⟨place, hPlace⟩ := forall_of_checkItems hCheck item hItem
      exact ih item hItem place hPlace (hSendable item hItem)
  | map hKeys _ ih =>
      intro location hCheck hSendable
      obtain ⟨fields, rfl, hFields⟩ := exists_fields_of_checkEntries hCheck
      rw [pairwise_keys_recordEntries_iff] at hKeys
      refine .record hKeys fun field hField => ?_
      obtain ⟨place, hPlace⟩ := hFields field hField
      exact ih _ (List.mem_map_of_mem hField) place hPlace
        (isSendable_record_iff.mp hSendable field hField)
  | loop => exact fun _ _ hSendable => absurd hSendable (by simp [isSendable])

/-- What is read for a plain value that has a text can be shown. -/
theorem Plain.isShort_untupled {value : Value} (h : value.Plain) :
    value.isSendable = true → value.untupled.isShort = true := by
  have hItems {items : List Value} (ih : ∀ item ∈ items, item.isSendable = true →
      item.untupled.isShort = true) (hSendable : itemsSendable items = true) :
      (Value.list (items.map untupled)).isShort = true := by
    rw [itemsSendable_iff] at hSendable
    rw [isShort, itemsShort_iff, List.forall_mem_map]
    exact fun item hItem => ih item hItem (hSendable item hItem)
  induction h with
  | scalar s =>
      intro hSendable
      rw [untupled]
      cases s with
      | int n => exact hSendable
      | _ => rfl
  | set members =>
      intro hSendable
      rw [isSendable] at hSendable
      cases hSendable
  | list _ ih =>
      intro hSendable
      rw [isSendable] at hSendable
      rw [untupled_list]
      exact hItems ih hSendable
  | tuple _ ih =>
      intro hSendable
      rw [isSendable] at hSendable
      rw [untupled_tuple]
      exact hItems ih hSendable
  | record _ _ ih =>
      intro hSendable
      rw [isSendable_record_iff] at hSendable
      rw [untupled_record, isShort_record_iff, untupledFields, List.forall_mem_map]
      exact fun field hField => ih field hField (hSendable field hField)

end Checking

end Value

namespace Document

variable {document : Document}

/-- What holds of texts, and of lists and records if it holds of their parts, holds of a document as
data if it holds of the periods of its rules. -/
theorem Keyed.toValue_of_closed (h : document.Keyed) {P : Value → Prop}
    (hText : ∀ s, P (.text s))
    (hList : ∀ {items}, (∀ item ∈ items, P item) → P (.list items))
    (hRecord : ∀ {fields}, (Table.keys fields).Nodup → (∀ field ∈ fields, P field.2) →
      P (.record fields))
    (hPeriods : ∀ rule ∈ document.shell, P rule.checkPeriod) : P document.toValue := by
  have hTexts (ss : List String) : P (.texts ss) :=
    hList (List.forall_mem_map.mpr fun s _ => hText s)
  have hEntries (mark : String) {entries : Table String Entry} (hFiled : entries.Filed Entry.name) :
      P (entriesValue mark entries.values) := by
    refine hRecord ?_ (List.forall_mem_map.mpr fun entry _ => hTexts _)
    simpa [Table.keys, Function.comp_def] using
      hFiled.nodup_names.map (Text.append_right_injective mark)
  have hHosts : P (.record (document.catalog.hosts.values.map fun host =>
      (host.name, .text host.address))) := by
    refine hRecord ?_ (List.forall_mem_map.mpr fun host _ => hText _)
    simpa [Table.keys, Function.comp_def] using h.catalog.hosts.nodup_names
  have hAcls : P (.list (document.access.map AccessRule.toValue)) := by
    refine hList (List.forall_mem_map.mpr fun rule _ => hRecord (by simp [Table.keys]) ?_)
    simp [hText, hTexts]
  have hSsh : P (.list (document.shell.map ShellRule.toValue)) := by
    refine hList (List.forall_mem_map.mpr fun rule hRule => ?_)
    have hPeriod := hPeriods rule hRule
    rw [ShellRule.toValue]
    refine hRecord ?_ ?_
    · split <;> simp [Table.keys]
    · split <;> simp [hText, hTexts, hPeriod]
  have hApprovers : P document.approvals.toValue := by
    refine hRecord (by simp [Table.keys]) (List.forall_mem_cons.mpr
      ⟨hTexts _, List.forall_mem_singleton.mpr (hRecord ?_ ?_)⟩)
    · simpa [Table.keys, Function.comp_def] using h.routes
    · exact List.forall_mem_map.mpr fun route _ => hTexts _
  have hTags := hEntries tagMark h.catalog.tags
  have hGroups := hEntries groupMark h.catalog.groups
  refine hRecord ?_ ?_
  · split <;> simp [Table.keys]
  · split <;> simp [hTags, hGroups, hHosts, hAcls, hSsh, hApprovers]

theorem Keyed.distinct_toValue (h : document.Keyed)
    (hPeriods : ∀ rule ∈ document.shell, rule.checkPeriod.Distinct) :
    document.toValue.Distinct :=
  h.toValue_of_closed (fun _ => .scalar _) .list .record hPeriods

/-- A document that comes about, in whose free-form periods no mapping has a key twice, and in which
no number is a float. -/
structure Exact (document : Document) : Prop where
  made : document.Made
  distinct : ∀ rule ∈ document.shell, rule.checkPeriod.Distinct
  exact : document.toValue.Exact

namespace Exact

variable {indent : Option Int} {text : String} (h : document.Exact)

include h

theorem plain (hText : document.serialize indent = .ok text) :
    document.toValue.Plain ∧ document.toValue.isSendable = true := by
  obtain ⟨hCheck, -, written, hWritten, -⟩ := serialize_eq_ok_iff.mp hText
  have hSendable : document.toValue.isSendable = true := by
    refine (Json.exists_write_iff ?_).mp ⟨written, hWritten⟩
    cases indent <;> rfl
  exact ⟨(h.made.keyed.distinct_toValue h.distinct).plain [] hCheck hSendable, hSendable⟩

theorem isText (hText : document.serialize indent = .ok text) :
    Json.IsText text document.toValue.untupled := by
  obtain ⟨-, -, written, hWritten, rfl⟩ := serialize_eq_ok_iff.mp hText
  exact Json.isText_write (Json.Format.isStandard_readable _) (h.plain hText).1 h.exact hWritten

theorem read_eq (hText : document.serialize indent = .ok text) :
    Json.read text = .ok document.toValue.untupled := by
  obtain ⟨hPlain, hSendable⟩ := h.plain hText
  exact (h.isText hText).read_eq (hPlain.isShort_untupled hSendable)

end Exact

end Document

end Tailnet
