import Tailnet.Proofs.Overlay.Depth
import Tailnet.Proofs.Scalar

/-!
Merging as paths of keys see it. Where the overlay has something other than a mapping, the result
has it too; where it has nothing on the way, the result has what the base has.
-/

namespace Tailnet

namespace Value

/-- What a path of keys leads to. -/
def follow? : Value → List Scalar → Option Value
  | value, [] => some value
  | .map entries, key :: path => (Table.get? entries key).bind fun value => value.follow? path
  | _, _ :: _ => none

/-- Whether a value is something other than a mapping, so that paths end there. -/
def IsLeaf (value : Value) : Prop := ∀ entries, value ≠ .map entries

/-- Whether a path comes to a leaf before its end. -/
def EndsBefore (value : Value) (path : List Scalar) : Prop :=
  ∃ start leaf, start <+: path ∧ start ≠ path ∧ value.follow? start = some leaf ∧ leaf.IsLeaf

/-- The keys of the mapping that a path leads to. Where there is no mapping there are none. -/
def keysAt (value : Value) (path : List Scalar) : List Scalar :=
  match value.follow? path with
  | some (.map entries) => Table.keys entries
  | _ => []

/-- Mappings inside mappings, with leaves that have no loops. No key stands twice, and every key is
found again. -/
inductive Nested : Value → Prop where
  | leaf {value : Value} (hTree : value.Tree) (hLeaf : value.IsLeaf) : Nested value
  | map {entries : Mapping} (hKeys : (Table.keys entries).Pairwise fun a b => (a == b) = false)
      (hSelf : ∀ key ∈ Table.keys entries, (key == key) = true)
      (h : ∀ entry ∈ entries, Nested entry.2) : Nested (.map entries)

namespace Nested

theorem scalar (s : Scalar) : (Value.scalar s).Nested := .leaf (.scalar s) nofun

theorem texts (ss : List String) : (Value.texts ss).Nested :=
  .leaf (.list (List.forall_mem_map.mpr fun s _ => .scalar (.text s))) nofun

theorem record {fields : List (String × Value)} (hNames : (Table.keys fields).Nodup)
    (h : ∀ field ∈ fields, field.2.Nested) : (Value.record fields).Nested := by
  refine .map (pairwise_keys_recordEntries_iff.mpr hNames) ?_ (List.forall_mem_map.mpr h)
  refine List.forall_mem_map.mpr (List.forall_mem_map.mpr fun field _ => ?_)
  exact beq_self_eq_true field.1

theorem tree {value : Value} (h : value.Nested) : value.Tree := by
  induction h with
  | leaf hTree _ => exact hTree
  | map _ _ _ ih => exact .map ih

theorem pairwise_keys {entries : Mapping} (h : (Value.map entries).Nested) :
    (Table.keys entries).Pairwise fun a b => (a == b) = false := by
  cases h with
  | leaf _ hLeaf => exact absurd rfl (hLeaf entries)
  | map hKeys _ _ => exact hKeys

theorem of_get? {entries : Mapping} (h : (Value.map entries).Nested) {key : Scalar} {value : Value}
    (hFound : Table.get? entries key = some value) : value.Nested := by
  cases h with
  | leaf _ hLeaf => exact absurd rfl (hLeaf entries)
  | map _ _ hEntries =>
      obtain ⟨_, hIn⟩ := Table.exists_mem_of_get? hFound
      exact hEntries _ hIn

end Nested

@[simp] theorem follow?_nil (value : Value) : value.follow? [] = some value := by
  rw [follow?]

@[simp] theorem follow?_map_cons (entries : Mapping) (key : Scalar) (path : List Scalar) :
    (Value.map entries).follow? (key :: path) =
      (Table.get? entries key).bind fun value => value.follow? path := by
  rw [follow?]

theorem IsLeaf.follow?_cons {value : Value} (h : value.IsLeaf) (key : Scalar)
    (path : List Scalar) : value.follow? (key :: path) = none := by
  rw [follow?]
  exact h

theorem keysAt_of_follow? {value : Value} {path : List Scalar} {entries : Mapping}
    (h : value.follow? path = some (.map entries)) : value.keysAt path = Table.keys entries := by
  rw [keysAt, h]

theorem keysAt_eq_nil {value : Value} {path : List Scalar}
    (h : ∀ entries, value.follow? path ≠ some (.map entries)) : value.keysAt path = [] := by
  rw [keysAt]
  split
  case h_1 entries hFound => exact absurd hFound (h entries)
  case h_2 => rfl

theorem Nested.of_follow? {value : Value} (h : value.Nested) {path : List Scalar} {part : Value}
    (hFound : value.follow? path = some part) : part.Nested := by
  induction path generalizing value with
  | nil =>
      rw [follow?_nil] at hFound
      cases hFound
      exact h
  | cons key rest ih =>
      cases value with
      | map entries =>
          rw [follow?_map_cons, Option.bind_eq_some_iff] at hFound
          obtain ⟨inner, hInner, hFound⟩ := hFound
          exact ih (h.of_get? hInner) hFound
      | _ => cases hFound

/-- A path is followed to the end of a first part and on from there. -/
theorem follow?_append (value : Value) (start path : List Scalar) :
    value.follow? (start ++ path) = (value.follow? start).bind fun part => part.follow? path := by
  induction start generalizing value with
  | nil => simp
  | cons key rest ih =>
      by_cases hLeaf : value.IsLeaf
      · rw [List.cons_append, hLeaf.follow?_cons, hLeaf.follow?_cons]
        rfl
      · simp only [IsLeaf, not_forall, not_not] at hLeaf
        obtain ⟨entries, rfl⟩ := hLeaf
        rw [List.cons_append, follow?_map_cons, follow?_map_cons, Option.bind_assoc]
        exact congrArg _ (funext fun part => ih part)

/-- Behind a leaf there is nothing. -/
theorem EndsBefore.follow?_eq_none {value : Value} {path : List Scalar}
    (h : value.EndsBefore path) : value.follow? path = none := by
  obtain ⟨start, leaf, ⟨rest, rfl⟩, hProper, hFound, hLeaf⟩ := h
  rw [follow?_append, hFound, Option.bind_some]
  cases rest with
  | nil => exact absurd (List.append_nil start).symm hProper
  | cons key rest => exact hLeaf.follow?_cons key rest

end Value

namespace Overlay

open Value (IsLeaf Nested)

theorem layer_none (above : Value) : layer none above = above := layer_eq_self (.inl nofun)

theorem layer_leaf (below : Option Value) {leaf : Value} (h : leaf.IsLeaf) :
    layer below leaf = leaf := layer_eq_self (.inr h)

/-- What is entered under a key lies over what the base has under it. -/
theorem follow?_layer_cons_of_get? {below : Option Value} {overlay : Mapping} {key : Scalar}
    {value : Value} (h : (Value.map overlay).Nested) (hFound : Table.get? overlay key = some value)
    (path : List Scalar) :
    (layer below (.map overlay)).follow? (key :: path) =
      (layer (below.bind fun base => base.follow? [key]) value).follow? path := by
  by_cases hBelow : ∃ base, below = some (.map base)
  · obtain ⟨base, rfl⟩ := hBelow
    rw [layer_map, Value.follow?_map_cons, Table.get?_updateWith_of_pairwise h.pairwise_keys,
      hFound]
    simp
  · rw [not_exists] at hBelow
    have hNothing : (below.bind fun base => base.follow? [key]) = none := by
      cases below with
      | none => rfl
      | some base =>
          exact IsLeaf.follow?_cons (fun entries hEq => hBelow entries (hEq ▸ rfl)) key []
    rw [layer_eq_self (.inl hBelow), Value.follow?_map_cons, hFound, hNothing, layer_none]
    rfl

/-- Under a key that is not entered stands what the base has. -/
theorem follow?_layer_cons_of_free {below : Option Value} {overlay : Mapping} {key : Scalar}
    (h : (Value.map overlay).Nested) (hFree : Table.get? overlay key = none)
    (path : List Scalar) :
    (layer below (.map overlay)).follow? (key :: path) =
      below.bind fun base => base.follow? (key :: path) := by
  by_cases hBelow : ∃ base, below = some (.map base)
  · obtain ⟨base, rfl⟩ := hBelow
    rw [layer_map, Value.follow?_map_cons, Table.get?_updateWith_of_pairwise h.pairwise_keys, hFree]
    simp
  · rw [not_exists] at hBelow
    rw [layer_eq_self (.inl hBelow), Value.follow?_map_cons, hFree]
    cases below with
    | none => rfl
    | some base =>
        exact (IsLeaf.follow?_cons (fun entries hEq => hBelow entries (hEq ▸ rfl)) key path).symm

/-- Where the overlay has something, it lies over what the base has there. -/
theorem follow?_layer_of_eq_some {above : Value} (h : above.Nested) {below : Option Value}
    {path : List Scalar} {value : Value} (hFound : above.follow? path = some value) :
    (layer below above).follow? path =
      some (layer (below.bind fun base => base.follow? path) value) := by
  induction path generalizing above below with
  | nil =>
      rw [Value.follow?_nil] at hFound ⊢
      cases hFound
      simp
  | cons key rest ih =>
      cases above with
      | map overlay =>
          rw [Value.follow?_map_cons, Option.bind_eq_some_iff] at hFound
          obtain ⟨inner, hInner, hFound⟩ := hFound
          rw [follow?_layer_cons_of_get? h hInner, ih (h.of_get? hInner) hFound, Option.bind_assoc]
          refine congrArg (fun part => some (layer part value)) (congrArg _ (funext fun base => ?_))
          exact (Value.follow?_append base [key] rest).symm
      | _ => cases hFound

/-- Where the overlay has nothing, and no leaf on the way, the base is seen. -/
theorem follow?_layer_of_eq_none {above : Value} (h : above.Nested) {below : Option Value}
    {path : List Scalar} (hNone : above.follow? path = none) (hOpen : ¬ above.EndsBefore path) :
    (layer below above).follow? path = below.bind fun base => base.follow? path := by
  induction path generalizing above below with
  | nil => cases hNone
  | cons key rest ih =>
      cases above with
      | map overlay =>
          cases hInner : Table.get? overlay key with
          | none => exact follow?_layer_cons_of_free h hInner rest
          | some inner =>
              rw [Value.follow?_map_cons, hInner, Option.bind_some] at hNone
              have hInnerOpen : ¬ inner.EndsBefore rest := by
                rintro ⟨start, leaf, hStart, hProper, hFound, hLeaf⟩
                refine hOpen ⟨key :: start, leaf, List.cons_prefix_cons.mpr ⟨rfl, hStart⟩,
                  fun hEq => hProper (List.cons_inj_right key |>.mp hEq), ?_, hLeaf⟩
                rw [Value.follow?_map_cons, hInner, Option.bind_some]
                exact hFound
              rw [follow?_layer_cons_of_get? h hInner, ih (h.of_get? hInner) hNone hInnerOpen,
                Option.bind_assoc]
              refine congrArg _ (funext fun base => ?_)
              exact (Value.follow?_append base [key] rest).symm
      | _ => exact absurd ⟨[], _, List.nil_prefix, nofun, Value.follow?_nil _, nofun⟩ hOpen

/-- Behind a leaf of the overlay nothing of the base is seen. -/
theorem follow?_layer_of_endsBefore {above : Value} (h : above.Nested) (below : Option Value)
    {path : List Scalar} (hEnds : above.EndsBefore path) :
    (layer below above).follow? path = none := by
  obtain ⟨start, leaf, hStart, hProper, hFound, hLeaf⟩ := hEnds
  refine Value.EndsBefore.follow?_eq_none ⟨start, leaf, hStart, hProper, ?_, hLeaf⟩
  rw [follow?_layer_of_eq_some h hFound, layer_leaf _ hLeaf]

/-- Putting the same value over the result once more changes nothing. -/
theorem layer_layer {above : Value} (h : above.Nested) (below : Option Value) :
    layer (some (layer below above)) above = layer below above := by
  induction h generalizing below with
  | leaf _ hLeaf => rw [layer_leaf _ hLeaf, layer_leaf _ hLeaf]
  | @map overlay hKeys hSelf _ ih =>
      have hFound (entry : Scalar × Value) (hEntry : entry ∈ overlay) :
          Table.get? overlay entry.1 = some entry.2 :=
        Table.get?_eq_some_of_mem_of_pairwise hKeys
          (hSelf entry.1 (List.mem_map_of_mem hEntry)) hEntry
      rcases maps_or_layer_eq_self below (.map overlay) with ⟨base, _, rfl, -⟩ | ⟨hNew, -⟩
      · rw [layer_map, layer_map, Table.updateWith_eq_self]
        intro entry hEntry
        rw [Table.get?_updateWith_of_pairwise hKeys, hFound entry hEntry, Option.map_some,
          Option.some_or, ih entry hEntry]
      · rw [hNew, layer_map, Table.updateWith_eq_self]
        intro entry hEntry
        have hTwice := ih entry hEntry none
        rw [layer_none] at hTwice
        rw [hFound entry hEntry, hTwice]

/-- A value merged from two, as paths see it: leaves and mappings of the overlay, and of the base
those that the overlay has nothing at and no leaf before. Keys of the base keep their places at
every level, and those that are new follow in the order of the overlay. -/
structure DeepMerge (result base overlay : Value) : Prop where
  overlaid {path : List Scalar} {leaf : Value} (hLeaf : leaf.IsLeaf)
    (hFound : overlay.follow? path = some leaf) : result.follow? path = some leaf
  kept {path : List Scalar} {leaf : Value} (hLeaf : leaf.IsLeaf)
    (hFound : base.follow? path = some leaf) (hNone : overlay.follow? path = none)
    (hOpen : ¬ overlay.EndsBefore path) : result.follow? path = some leaf
  only {path : List Scalar} {leaf : Value} (hLeaf : leaf.IsLeaf)
    (hFound : result.follow? path = some leaf) :
    overlay.follow? path = some leaf ∨
      base.follow? path = some leaf ∧ overlay.follow? path = none ∧ ¬ overlay.EndsBefore path
  levels (path : List Scalar) :
    (∃ entries, result.follow? path = some (.map entries)) ↔
      (∃ entries, overlay.follow? path = some (.map entries)) ∨
        (∃ entries, base.follow? path = some (.map entries)) ∧ overlay.follow? path = none ∧
          ¬ overlay.EndsBefore path
  keys {path : List Scalar} {entries : Mapping}
    (hFound : result.follow? path = some (.map entries)) :
    Table.keys entries = base.keysAt path ++
      (overlay.keysAt path).filter fun key => !(base.keysAt path).contains key

theorem deepMerge_layer (base : Value) {overlay : Value} (h : overlay.Nested) :
    DeepMerge (layer (some base) overlay) base overlay where
  overlaid hLeaf hFound := by rw [follow?_layer_of_eq_some h hFound, layer_leaf _ hLeaf]
  kept hLeaf hFound hNone hOpen := by
    rw [follow?_layer_of_eq_none h hNone hOpen, Option.bind_some, hFound]
  only {path leaf} hLeaf hFound := by
    cases hAbove : overlay.follow? path with
    | some value =>
        rw [follow?_layer_of_eq_some h hAbove, Option.some_inj] at hFound
        rcases maps_or_layer_eq_self (base.follow? path) value with
          ⟨_, _, hBase, rfl⟩ | ⟨hSelf, -⟩
        · rw [Option.bind_some, hBase, layer_map] at hFound
          exact absurd hFound.symm (hLeaf _)
        · exact .inl (congrArg some (hSelf.symm.trans hFound))
    | none =>
        by_cases hEnds : overlay.EndsBefore path
        · rw [follow?_layer_of_endsBefore h _ hEnds] at hFound
          cases hFound
        · rw [follow?_layer_of_eq_none h hAbove hEnds] at hFound
          exact .inr ⟨hFound, rfl, hEnds⟩
  levels path := by
    cases hAbove : overlay.follow? path with
    | some value =>
        rw [follow?_layer_of_eq_some h hAbove, Option.bind_some]
        rcases maps_or_layer_eq_self (base.follow? path) value with
          ⟨_, _, hBase, rfl⟩ | ⟨hSelf, -⟩
        · simp [hBase, layer_map]
        · simp [hSelf]
    | none =>
        by_cases hEnds : overlay.EndsBefore path
        · simp [follow?_layer_of_endsBefore h _ hEnds, hEnds]
        · simp [follow?_layer_of_eq_none h hAbove hEnds, hEnds]
  keys {path entries} hFound := by
    cases hAbove : overlay.follow? path with
    | some value =>
        rw [follow?_layer_of_eq_some h hAbove, Option.some_inj, Option.bind_some] at hFound
        rcases maps_or_layer_eq_self (base.follow? path) value with
          ⟨below, above, hBase, rfl⟩ | ⟨hSelf, hNotBoth⟩
        · rw [hBase, layer_map, Value.map.injEq] at hFound
          rw [Value.keysAt_of_follow? hBase, Value.keysAt_of_follow? hAbove, ← hFound,
            Table.keys_updateWith_of_pairwise (h.of_follow? hAbove).pairwise_keys]
        · rw [hSelf] at hFound
          subst hFound
          have hBase : base.keysAt path = [] :=
            Value.keysAt_eq_nil fun below hBelow => hNotBoth below entries hBelow rfl
          simp [Value.keysAt_of_follow? hAbove, hBase]
    | none =>
        have hOpen : ¬ overlay.EndsBefore path := fun hEnds => by
          rw [follow?_layer_of_endsBefore h _ hEnds] at hFound
          cases hFound
        rw [follow?_layer_of_eq_none h hAbove hOpen] at hFound
        have hOverlay : overlay.keysAt path = [] :=
          Value.keysAt_eq_nil fun above => by simp [hAbove]
        rw [Value.keysAt_of_follow? hFound, hOverlay, List.filter_nil, List.append_nil]

/-- **Options are merged at every depth.** Nested mappings are merged to an end and by the law of
deep merging, and merging the same overlay again changes nothing. -/
theorem mergeEntries_deep {base overlay : Mapping} (hBase : (Value.map base).Nested)
    (hOverlay : (Value.map overlay).Nested) :
    ∃ result,
      mergeEntries (depthLimit (.map base) (.map overlay)) base overlay = .ok result ∧
        mergeOptions (.map base) (.map overlay) = .ok (.map result) ∧
        DeepMerge (.map result) (.map base) (.map overlay) ∧
        mergeEntries (depthLimit (.map result) (.map overlay)) result overlay = .ok result := by
  have hDepth (other : Value) :
      (Value.map overlay).collections ≤ depthLimit other (.map overlay) :=
    Nat.le_mul_of_pos_left _ (Nat.succ_pos _)
  have hMerged := mergeEntries_eq_updateWith _ hBase.tree hOverlay.tree (hDepth (.map base))
  have hLaw := deepMerge_layer (.map base) hOverlay
  have hTwice := layer_layer hOverlay (some (.map base))
  rw [layer_map] at hLaw hTwice
  rw [layer_map, Value.map.injEq] at hTwice
  have hTree : (Value.map (Table.updateWith layer base overlay)).Tree := by
    rw [← layer_map]
    exact tree_layer hOverlay.tree fun _ hEq => Option.some_inj.mp hEq ▸ hBase.tree
  have hOptions : mergeOptions (.map base) (.map overlay) =
      .ok (.map (Table.updateWith layer base overlay)) := by
    have hOver : mappingOf "tailnet" (.map overlay) = .ok overlay :=
      congrArg Except.ok hOverlay.tree.entriesAlone_eq_self
    rw [mergeOptions, hOver, ok_bind]
    cases base with
    | nil => exact bind_eq_ok_iff.mpr ⟨_, hMerged, rfl⟩
    | cons entry rest => exact bind_eq_ok_iff.mpr ⟨_, hMerged, rfl⟩
  refine ⟨_, hMerged, hOptions, hLaw, ?_⟩
  rw [mergeEntries_eq_updateWith _ hTree hOverlay.tree (hDepth _), hTwice]

/-- Options with a mapping over a mapping, over nothing and over scalars, something else over a
mapping, and keys that are the same though they are different scalars. -/
def baseOptions : Mapping :=
  [(.text "dns", .record [("magicDNS", .bool true), ("nameservers", .texts ["1.1.1.1"])]),
    (.text "keys", .null), (.int 1, .text "one"),
    (.text "settings", .record [("devicesApprovalOn", .bool true)])]

def overlayOptions : Mapping :=
  [(.text "contacts", .record []),
    (.text "dns", .record [("splitDns", .record []), ("magicDNS", .null)]),
    (.text "keys", .record [("createReusableKey", .bool true)]), (.bool true, .record []),
    (.text "settings", .text "default")]

example : mergeEntries 10 baseOptions overlayOptions = .ok
    [(.text "dns", .record [("magicDNS", .null), ("nameservers", .texts ["1.1.1.1"]),
        ("splitDns", .record [])]),
      (.text "keys", .record [("createReusableKey", .bool true)]), (.int 1, .record []),
      (.text "settings", .text "default"), (.text "contacts", .record [])] := by
  rfl

theorem mergeEntries_deep_baseOptions :
    (Value.map baseOptions).Nested ∧ (Value.map overlayOptions).Nested ∧
      ∃ result,
        mergeEntries (depthLimit (.map baseOptions) (.map overlayOptions)) baseOptions
            overlayOptions = .ok result ∧
          mergeOptions (.map baseOptions) (.map overlayOptions) = .ok (.map result) ∧
          DeepMerge (.map result) (.map baseOptions) (.map overlayOptions) ∧
          mergeEntries (depthLimit (.map result) (.map overlayOptions)) result overlayOptions =
            .ok result := by
  have hBase : (Value.map baseOptions).Nested := by
    refine .map (by decide) (by decide) ?_
    simp only [baseOptions, List.forall_mem_cons, List.not_mem_nil, false_imp_iff, implies_true,
      and_true]
    refine ⟨.record (by decide) ?_, .scalar _, .scalar _, .record (by decide) ?_⟩
    · exact List.forall_mem_cons.mpr ⟨.scalar _, List.forall_mem_singleton.mpr (.texts _)⟩
    · exact List.forall_mem_singleton.mpr (.scalar _)
  have hOverlay : (Value.map overlayOptions).Nested := by
    refine .map (by decide) (by decide) ?_
    simp only [overlayOptions, List.forall_mem_cons, List.not_mem_nil, false_imp_iff, implies_true,
      and_true]
    have hEmpty : (Value.record []).Nested := .record List.nodup_nil (List.forall_mem_nil _)
    refine ⟨hEmpty, .record (by decide) ?_, .record (by decide) ?_, hEmpty, .scalar _⟩
    · exact List.forall_mem_cons.mpr ⟨hEmpty, List.forall_mem_singleton.mpr (.scalar _)⟩
    · exact List.forall_mem_singleton.mpr (.scalar _)
  exact ⟨hBase, hOverlay, mergeEntries_deep hBase hOverlay⟩

end Overlay

end Tailnet
