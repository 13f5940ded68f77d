import Tailnet.Proofs.Value
import Tailnet.Value.Loop

/-!
Values without loops. No part of such a value leads back to the collection around it, so parts are
the same on their own.
-/

namespace Tailnet.Value

/-- A value of which no collection is a part of itself. -/
inductive Tree : Value → Prop where
  | scalar (s : Scalar) : Tree (.scalar s)
  | list {items : List Value} (h : ∀ item ∈ items, Tree item) : Tree (.list items)
  | tuple {items : List Value} (h : ∀ item ∈ items, Tree item) : Tree (.tuple items)
  | set (members : List Scalar) : Tree (.set members)
  | map {entries : List (Scalar × Value)} (h : ∀ entry ∈ entries, Tree entry.2) :
      Tree (.map entries)

/-- On their own, entries have the keys that they have together. -/
theorem keys_entriesAlone (entries : Mapping) :
    Table.keys (entriesAlone entries) = Table.keys entries := by
  have hFirst : (entriesAlone entries).map Prod.fst =
      (entries.zipIdx.map Prod.fst).map Prod.fst := by
    rw [entriesAlone, List.map_map, List.map_map]
    rfl
  rw [Table.keys, hFirst, List.zipIdx_map_fst, Table.keys]

section Filling

variable {whole : Nat → Value} {depth : Nat}

theorem fillItems_eq_self {items : List Value}
    (h : ∀ item ∈ items, item.fill whole depth = item) : fillItems whole depth items = items := by
  induction items with
  | nil => rw [fillItems]
  | cons item rest ih =>
      rw [List.forall_mem_cons] at h
      rw [fillItems, h.1, ih h.2]

theorem fillEntries_eq_self {entries : List (Scalar × Value)}
    (h : ∀ entry ∈ entries, entry.2.fill whole depth = entry.2) :
    fillEntries whole depth entries = entries := by
  induction entries with
  | nil => rw [fillEntries]
  | cons entry rest ih =>
      obtain ⟨key, value⟩ := entry
      obtain ⟨hFirst, hRest⟩ := List.forall_mem_cons.mp h
      rw [fillEntries, hFirst, ih hRest]

end Filling

namespace Tree

theorem of_mem_items {items : List Value} (h : Tree (.list items)) : ∀ item ∈ items, Tree item := by
  cases h with
  | list h => exact h

theorem of_mem_entries {entries : List (Scalar × Value)} (h : Tree (.map entries)) :
    ∀ entry ∈ entries, Tree entry.2 := by
  cases h with
  | map h => exact h

/-- Without loops there is nothing to fill. -/
theorem fill_eq_self {value : Value} (h : value.Tree) (whole : Nat → Value) (depth : Nat) :
    value.fill whole depth = value := by
  induction h generalizing depth with
  | scalar s => rw [fill]
  | list _ ih => rw [fill, fillItems_eq_self fun item hItem => ih item hItem (depth + 1)]
  | tuple _ ih => rw [fill, fillItems_eq_self fun item hItem => ih item hItem (depth + 1)]
  | set members => rw [fill]
  | map _ ih => rw [fill, fillEntries_eq_self fun entry hEntry => ih entry hEntry (depth + 1)]

/-- Items without loops are the same on their own. -/
theorem itemsAlone_eq_self {items : List Value} (h : Tree (.list items)) :
    itemsAlone items = items := by
  have hFill : itemsAlone items = items.zipIdx.map Prod.fst := by
    apply List.map_congr_left
    rintro ⟨item, i⟩ hItem
    exact (h.of_mem_items item (List.fst_mem_of_mem_zipIdx hItem)).fill_eq_self _ 0
  rw [hFill]
  exact List.zipIdx_map_fst 0 items

/-- Entries without loops are the same on their own. -/
theorem entriesAlone_eq_self {entries : Mapping} (h : Tree (.map entries)) :
    entriesAlone entries = entries := by
  have hFill : entriesAlone entries = entries.zipIdx.map Prod.fst := by
    apply List.map_congr_left
    rintro ⟨⟨key, value⟩, i⟩ hIn
    have hValue := h.of_mem_entries _ (List.fst_mem_of_mem_zipIdx hIn)
    exact congrArg (Prod.mk key) (hValue.fill_eq_self _ 0)
  rw [hFill]
  exact List.zipIdx_map_fst 0 entries

theorem entriesAlone_recordEntries {fields : List (String × Value)} (h : Tree (.record fields)) :
    entriesAlone (recordEntries fields) = recordEntries fields := h.entriesAlone_eq_self

end Tree

end Tailnet.Value
