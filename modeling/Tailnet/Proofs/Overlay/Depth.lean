import Tailnet.Proofs.Plain
import Tailnet.Proofs.Success
import Tailnet.Source.Overlay

/-!
Merging at every depth. Mappings without loops are merged to an end: the limit to the depth is
never reached, and what comes out is without loops again, and plain if it was made of plain ones.
-/

namespace Tailnet.Overlay

open Value (Plain Tree record)

mutual

/-- A value over what was there, if anything, at every depth. -/
def layer (below : Option Value) : Value → Value
  | .map overlay =>
    match below with
    | some (.map base) => .map (layerEntries base overlay)
    | _ => .map overlay
  | above => above

/-- Entries over those of a mapping, at every depth. -/
def layerEntries (base : Mapping) : List (Scalar × Value) → Mapping
  | [] => base
  | (key, value) :: rest =>
    layerEntries (base.insert key (layer (Table.get? base key) value)) rest

end

theorem layerEntries_eq (base overlay : Mapping) :
    layerEntries base overlay = Table.updateWith layer base overlay := by
  induction overlay generalizing base with
  | nil => rw [layerEntries, Table.updateWith, List.foldl_nil]
  | cons entry rest ih =>
      obtain ⟨key, value⟩ := entry
      rw [layerEntries, ih, Table.updateWith_cons]

/-- Mappings are merged entry by entry. -/
theorem layer_map (base overlay : Mapping) :
    layer (some (.map base)) (.map overlay) = .map (Table.updateWith layer base overlay) := by
  rw [layer, layerEntries_eq]

theorem get?_recordEntries (fields : List (String × Value)) (name : String) :
    Table.get? (recordEntries fields) (.text name) = Table.get? fields name :=
  Value.field?_record fields name

theorem updateWith_recordEntries (base overlay : List (String × Value)) :
    Table.updateWith layer (recordEntries base) (recordEntries overlay) =
      recordEntries (Table.updateWith layer base overlay) := by
  induction overlay generalizing base with
  | nil => rfl
  | cons field rest ih =>
      obtain ⟨name, value⟩ := field
      change Table.updateWith layer (recordEntries base)
        ((.text name, value) :: recordEntries rest) = _
      rw [Table.updateWith_cons, get?_recordEntries, insert_recordEntries, ih,
        Table.updateWith_cons]

/-- Records are merged field by field. -/
theorem layer_record (base overlay : List (String × Value)) :
    layer (some (record base)) (record overlay) =
      record (Table.updateWith layer base overlay) := by
  change layer (some (.map (recordEntries base))) (.map (recordEntries overlay)) = _
  rw [layer_map, updateWith_recordEntries]
  rfl

/-- Only a mapping is merged, and only with a mapping. -/
theorem layer_eq_self {below : Option Value} {above : Value}
    (h : (∀ base, below ≠ some (.map base)) ∨ ∀ overlay, above ≠ .map overlay) :
    layer below above = above := by
  cases above with
  | map overlay =>
      rcases h with hBelow | hAbove
      · rw [layer]
        exact hBelow
      · exact absurd rfl (hAbove overlay)
  | _ =>
      rw [layer]
      nofun

theorem maps_or_layer_eq_self (below : Option Value) (above : Value) :
    (∃ base overlay, below = some (.map base) ∧ above = .map overlay) ∨
      layer below above = above ∧
        ∀ base overlay, below = some (.map base) → above ≠ .map overlay := by
  by_cases hMaps : (∃ base, below = some (.map base)) ∧ ∃ overlay, above = .map overlay
  · obtain ⟨⟨base, hBelow⟩, overlay, hAbove⟩ := hMaps
    exact .inl ⟨base, overlay, hBelow, hAbove⟩
  · have hNotBoth (base overlay : Mapping) (hBase : below = some (.map base)) :
        above ≠ .map overlay := fun hOverlay => hMaps ⟨⟨base, hBase⟩, overlay, hOverlay⟩
    refine .inr ⟨layer_eq_self ?_, hNotBoth⟩
    by_cases hBase : ∃ base, below = some (.map base)
    · obtain ⟨base, hBase⟩ := hBase
      exact .inr fun overlay => hNotBoth base overlay hBase
    · exact .inl fun base hEq => hBase ⟨base, hEq⟩

/-- Of plain values only two records are merged. -/
theorem records_or_layer_eq_self {below : Option Value} {above : Value}
    (hBelow : ∀ value, below = some value → value.Plain) (hAbove : above.Plain) :
    (∃ base overlay, below = some (record base) ∧ above = record overlay) ∨
      layer below above = above ∧
        ∀ base overlay, below = some (.map base) → above ≠ .map overlay := by
  rcases maps_or_layer_eq_self below above with ⟨base, overlay, rfl, rfl⟩ | hSelf
  · obtain ⟨fields, rfl, -⟩ := (hBelow _ rfl).exists_fields
    obtain ⟨others, rfl, -⟩ := hAbove.exists_fields
    exact .inl ⟨fields, others, rfl, rfl⟩
  · exact .inr hSelf

/-- Plain values are merged to plain ones. -/
theorem plain_layer {above : Value} (h : above.Plain) {below : Option Value}
    (hBelow : ∀ value, below = some value → value.Plain) : (layer below above).Plain := by
  induction h generalizing below with
  | scalar s =>
      rw [layer_eq_self (.inr fun _ hEq => by cases hEq)]
      exact .scalar s
  | list hItems =>
      rw [layer_eq_self (.inr fun _ hEq => by cases hEq)]
      exact .list hItems
  | tuple hItems =>
      rw [layer_eq_self (.inr fun _ hEq => by cases hEq)]
      exact .tuple hItems
  | set members =>
      rw [layer_eq_self (.inr fun _ hEq => by cases hEq)]
      exact .set members
  | @record overlay hNames hFields ih =>
      rcases records_or_layer_eq_self hBelow (.record hNames hFields) with
        ⟨base, others, rfl, -⟩ | ⟨hSelf, -⟩
      · have hBase := hBelow _ rfl
        rw [layer_record]
        exact .record (Table.nodup_keys_updateWith hBase.nodup_keys)
          (Table.forall_mem_updateWith hBase.of_mem_fields
            fun field hField _ => ih field hField)
      · rw [hSelf]
        exact .record hNames hFields

theorem plain_updateWith {base overlay : List (String × Value)} (hBase : (record base).Plain)
    (hOverlay : (record overlay).Plain) : (record (Table.updateWith layer base overlay)).Plain := by
  rw [← layer_record]
  exact plain_layer hOverlay fun _ hEq => Option.some_inj.mp hEq ▸ hBase

/-- Values without loops are merged to values without. -/
theorem tree_layer {above : Value} (h : above.Tree) {below : Option Value}
    (hBelow : ∀ value, below = some value → value.Tree) : (layer below above).Tree := by
  induction h generalizing below with
  | scalar s =>
      rw [layer_eq_self (.inr fun _ hEq => by cases hEq)]
      exact .scalar s
  | list hItems =>
      rw [layer_eq_self (.inr fun _ hEq => by cases hEq)]
      exact .list hItems
  | tuple hItems =>
      rw [layer_eq_self (.inr fun _ hEq => by cases hEq)]
      exact .tuple hItems
  | set members =>
      rw [layer_eq_self (.inr fun _ hEq => by cases hEq)]
      exact .set members
  | @map overlay hEntries ih =>
      rcases maps_or_layer_eq_self below (.map overlay) with ⟨base, _, rfl, -⟩ | ⟨hSelf, -⟩
      · rw [layer_map]
        exact .map (Table.forall_mem_updateWith (hBelow _ rfl).of_mem_entries
          fun entry hEntry _ => ih entry hEntry)
      · rw [hSelf]
        exact .map hEntries

/-- A value in a mapping has fewer collections than the mapping. -/
theorem collections_lt {entries : Mapping} :
    ∀ entry ∈ entries, entry.2.collections < (Value.map entries).collections := by
  induction entries with
  | nil => exact List.forall_mem_nil _
  | cons entry rest ih =>
      obtain ⟨key, value⟩ := entry
      have hStep : (Value.map ((key, value) :: rest)).collections =
          value.collections + (Value.map rest).collections := by
        rw [Value.collections, Value.collectionsOfEntries, Value.collections, Nat.add_assoc]
      have hPos : 0 < (Value.map rest).collections := by
        rw [Value.collections]
        exact Nat.zero_lt_succ _
      rw [List.forall_mem_cons, hStep]
      refine ⟨Nat.lt_add_of_pos_right hPos, fun other hOther => ?_⟩
      have hOther := ih other hOther
      omega

/-- A value is put over another if mappings can be merged that are not as deep. -/
theorem mergeValue_eq_layer {merge : Mapping → Mapping → Except OverlayError Mapping}
    {below : Option Value} {above : Value}
    (h : ∀ base overlay, below = some (.map base) → above = .map overlay →
      merge base overlay = .ok (Table.updateWith layer base overlay)) :
    mergeValue merge below above = .ok (layer below above) := by
  rcases maps_or_layer_eq_self below above with ⟨base, overlay, rfl, rfl⟩ | ⟨hSelf, hNotBoth⟩
  · rw [mergeValue, h base overlay rfl rfl, layer_map]
    rfl
  · rw [hSelf, mergeValue]
    exact hNotBoth

/-- Mappings without loops are merged to an end within as many steps down as the overlay has
collections. -/
theorem mergeEntries_eq_updateWith (depth : Nat) {base overlay : Mapping}
    (hBase : (Value.map base).Tree) (hOverlay : (Value.map overlay).Tree)
    (hDepth : (Value.map overlay).collections ≤ depth) :
    mergeEntries depth base overlay = .ok (Table.updateWith layer base overlay) := by
  induction depth generalizing base overlay with
  | zero =>
      rw [Value.collections] at hDepth
      cases hDepth
  | succ depth ih =>
      have hEntries : ∀ entry ∈ overlay, entry.2.Tree ∧ entry.2.collections ≤ depth := by
        intro entry hEntry
        have hLess := collections_lt entry hEntry
        exact ⟨hOverlay.of_mem_entries entry hEntry, by omega⟩
      rw [mergeEntries, hOverlay.entriesAlone_eq_self]
      clear hOverlay hDepth
      -- What is merged so far stays without loops, so that it is the same on its own.
      induction overlay generalizing base with
      | nil => rfl
      | cons entry rest ihRest =>
          obtain ⟨key, value⟩ := entry
          obtain ⟨⟨hValue, hShallow⟩, hRest⟩ := List.forall_mem_cons.mp hEntries
          have hFound (below : Value) (hBelow : Table.get? base key = some below) :
              below.Tree := by
            obtain ⟨_, hIn⟩ := Table.exists_mem_of_get? hBelow
            exact hBase.of_mem_entries _ hIn
          have hMerged : mergeValue (mergeEntries depth) (Table.get? base key) value =
              .ok (layer (Table.get? base key) value) :=
            mergeValue_eq_layer fun _ _ hBelow hAbove =>
              ih (hFound _ hBelow) (hAbove ▸ hValue) (hAbove ▸ hShallow)
          have hInserted : (Value.map (Table.insert base key
              (layer (Table.get? base key) value))).Tree := by
            refine .map fun other hOther => ?_
            exact (Table.forall_mem_insert (P := fun _ => True) (Q := Tree)
              (fun entry hEntry => ⟨trivial, hBase.of_mem_entries entry hEntry⟩) trivial
              (tree_layer hValue hFound) other hOther).2
          simp only [List.foldlM_cons, hBase.entriesAlone_eq_self, hMerged, ok_bind, pure_bind]
          exact ihRest hInserted hRest

/-- Plain mappings are merged field by field. -/
theorem mergeEntries_eq_ok (depth : Nat) {base overlay : List (String × Value)}
    (hBase : (record base).Plain) (hOverlay : (record overlay).Plain)
    (hDepth : (record overlay).collections ≤ depth) :
    mergeEntries depth (recordEntries base) (recordEntries overlay) =
      .ok (recordEntries (Table.updateWith layer base overlay)) := by
  rw [← updateWith_recordEntries]
  exact mergeEntries_eq_updateWith depth hBase.tree hOverlay.tree hDepth

end Tailnet.Overlay
