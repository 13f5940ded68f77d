import Tailnet.Proofs.Overlay.Declarations
import Tailnet.Proofs.Overlay.Lists

/-!
The section of approvers. Exit nodes have the approvers of the base and then those of the overlay
that are not yet among them, and grants of both forms are kept as a list of entries that are read
alike.
-/

namespace Tailnet

open Value (Plain record)

/-- Texts behind others, each that is not there yet. -/
def unite (below above : List String) : List String :=
  above.foldl (fun acc s => if acc.contains s then acc else acc ++ [s]) below

namespace Source

/-- The approvers of exit nodes in data, as they are written. -/
def exitNodeItems (data : Mapping) : List Value :=
  match field? data "autoApprovers" with
  | some (.map approvers) =>
    match field? approvers "exitNode" with
    | some (.list items) => items
    | _ => []
  | _ => []

/-- Plain data that is read as a list of texts counts as a list. -/
theorem exists_holdsList_of_texts {place : String} {found : Option Value} {ss : List String}
    (hPlain : ∀ value, found = some value → value.Plain) (h : texts place found = .ok ss) :
    ∃ items, HoldsList found items ∧ (∀ item ∈ items, item.Plain) ∧
      items.mapM textOf = .ok ss := by
  unfold texts at h
  split at h
  · cases h
    exact ⟨[], .absent, List.forall_mem_nil _, rfl⟩
  · cases h
    exact ⟨[], .null, List.forall_mem_nil _, rfl⟩
  · cases h
  · have hList := hPlain _ rfl
    rw [hList.tree.itemsAlone_eq_self] at h
    exact ⟨_, .list _, hList.of_mem_items, h⟩
  · cases h

theorem texts_list {items : List Value} (hPlain : ∀ item ∈ items, item.Plain) (place : String) :
    texts place (some (.list items)) = items.mapM textOf := by
  rw [texts, (Plain.list hPlain).tree.itemsAlone_eq_self]

/-- Items that are texts are read as they are. -/
theorem eq_map_text_of_mapM {items : List Value} {ss : List String}
    (hTexts : ∀ item ∈ items, ∃ s, item = .text s) (h : items.mapM textOf = .ok ss) :
    items = ss.map Value.text := by
  have hAll := mapM_eq_ok_iff.mp h
  clear h
  induction hAll with
  | nil => rfl
  | cons hFirst _ ih =>
      obtain ⟨⟨s, rfl⟩, hRest⟩ := List.forall_mem_cons.mp hTexts
      cases hFirst
      rw [List.map_cons, ih hRest]

/-- Plain data with approvers that are texts holds them as they are read. -/
theorem exists_holdsRecord_of_exitNode {data : List (String × Value)} (hPlain : (record data).Plain)
    (hTexts : ∀ item ∈ exitNodeItems (recordEntries data), ∃ s, item = .text s) {entries : Mapping}
    (hEntries : mapping (recordEntries data) "autoApprovers" = .ok entries) {place : String}
    {exitNode : List String} (h : texts place (field? entries "exitNode") = .ok exitNode) :
    ∃ fields, entries = recordEntries fields ∧
      HoldsRecord (Table.get? data "autoApprovers") fields ∧ (record fields).Plain ∧
      HoldsList (Table.get? fields "exitNode") (exitNode.map Value.text) := by
  obtain ⟨fields, rfl, hHolds, hFields⟩ := exists_holdsRecord_of_mapping hPlain hEntries
  rw [field?_recordEntries] at h
  obtain ⟨items, hList, -, hRead⟩ := exists_holdsList_of_texts (fun _ => hFields.of_get?) h
  refine ⟨fields, rfl, hHolds, hFields, ?_⟩
  have hItems : items = [] ∨ exitNodeItems (recordEntries data) = items := by
    rw [exitNodeItems, field?_recordEntries]
    generalize Table.get? data "autoApprovers" = approvers at hHolds
    cases hHolds with
    | record =>
        change _ ∨ (match field? (recordEntries fields) "exitNode" with
          | some (.list items) => items
          | _ => []) = items
        rw [field?_recordEntries]
        generalize Table.get? fields "exitNode" = found at hList
        cases hList with
        | list => exact .inr rfl
        | _ => exact .inl rfl
    | _ =>
        cases hList
        exact .inl rfl
  have hAllTexts : ∀ item ∈ items, ∃ s, item = .text s := by
    rcases hItems with rfl | rfl
    · exact List.forall_mem_nil _
    · exact hTexts
  rwa [← eq_map_text_of_mapM hAllTexts hRead]

/-- A grant in a mapping. -/
def grantSpec (grant : Scalar × Value) : Except SourceError RouteSpec := do
  let network ← textOf (.scalar grant.1)
  return ⟨network, ← texts ("routes." ++ network) (some grant.2)⟩

theorem routeSpecs_recordEntries {fields : List (String × Value)} (h : (record fields).Tree) :
    routeSpecs (some (record fields)) = (recordEntries fields).mapM grantSpec := by
  change (Value.entriesAlone (recordEntries fields)).mapM grantSpec = _
  rw [h.entriesAlone_recordEntries]

end Source

namespace Overlay

open Source (HoldsRecord HoldsList)

theorem union_map_text (below above : List String) :
    union (below.map Value.text) (above.map Value.text) = (unite below above).map Value.text := by
  rw [union, unite, List.foldl_map]
  refine List.foldl_hom (List.map Value.text) fun acc s => ?_
  have hKnown : ((acc.map Value.text).any fun known => known.same (.text s)) = acc.contains s := by
    rw [List.any_map, List.contains_eq_any_beq]
    congr 1
    funext t
    change (t == s) = (s == t)
    exact Bool.beq_comm
  rw [hKnown]
  split
  · rfl
  · rw [List.map_append, List.map_singleton]

/-- A grant as an entry of a list. -/
def routeEntry (network : String) (approvers : List Value) : Value :=
  record [("cidr", .text network), ("approvers", .list approvers)]

theorem plain_routeEntry (network : String) {approvers : List Value}
    (h : ∀ approver ∈ approvers, approver.Plain) : (routeEntry network approvers).Plain := by
  refine .record (by simp [Table.keys]) ?_
  simp only [List.forall_mem_cons]
  exact ⟨.scalar _, .list h, List.forall_mem_nil _⟩

theorem listedRoute_routeEntry (network : String) {approvers : List Value} {ss : List String}
    (hPlain : ∀ approver ∈ approvers, approver.Plain) (h : approvers.mapM Source.textOf = .ok ss) :
    Source.listedRoute (routeEntry network approvers) 0 = .ok ⟨network, ss⟩ := by
  have hEntries (place : String) : Source.mappingAt place (routeEntry network approvers) =
      .ok (recordEntries [("cidr", .text network), ("approvers", .list approvers)]) :=
    congrArg Except.ok (plain_routeEntry network hPlain).tree.entriesAlone_eq_self
  have hNetwork : Source.field? (recordEntries [("cidr", .text network),
      ("approvers", .list approvers)]) "cidr" = some (.text network) := rfl
  have hApprovers : Source.field? (recordEntries [("cidr", .text network),
      ("approvers", .list approvers)]) "approvers" = some (.list approvers) := rfl
  have hText : Source.textOf (.text network) = .ok network := rfl
  simp only [Source.listedRoute, hEntries, hNetwork, hApprovers, hText, Source.texts_list hPlain, h,
    ok_bind]
  rfl

/-- A grant in a mapping as an entry of a list. -/
def grantEntry (grant : Scalar × Value) : Except OverlayError Value := do
  let name ← (Source.textOf (.scalar grant.1)).mapError .shape
  let listed ← listAt ("autoApprovers.routes." ++ name) (some grant.2)
  return .record [("cidr", .scalar grant.1), ("approvers", .list listed)]

theorem routeEntries_recordEntries {fields : List (String × Value)} (h : (record fields).Tree) :
    routeEntries (some (record fields)) = (recordEntries fields).mapM grantEntry := by
  cases fields with
  | nil => rfl
  | cons field rest =>
      change (Value.entriesAlone (recordEntries (field :: rest))).mapM grantEntry = _
      rw [h.entriesAlone_recordEntries]

/-- A grant in a mapping is kept as an entry that is read as the grant. -/
theorem exists_grantEntry (network : String) {value : Value} (hValue : value.Plain)
    {spec : RouteSpec} (h : Source.grantSpec (.text network, value) = .ok spec) :
    ∃ entry, grantEntry (.text network, value) = .ok entry ∧ entry.Plain ∧
      Source.listedRoute entry 0 = .ok spec := by
  change (Source.texts ("routes." ++ network) (some value) >>= fun ss => pure ⟨network, ss⟩) =
    Except.ok spec at h
  obtain ⟨ss, hTexts, hSpec⟩ := bind_eq_ok_iff.mp h
  obtain rfl := pure_eq_ok_iff.mp hSpec
  obtain ⟨items, hHolds, hItems, hRead⟩ :=
    Source.exists_holdsList_of_texts (fun _ hEq => Option.some_inj.mp hEq ▸ hValue) hTexts
  refine ⟨routeEntry network items, ?_, plain_routeEntry network hItems,
    listedRoute_routeEntry network hItems hRead⟩
  change (listAt ("autoApprovers.routes." ++ network) (some value) >>= fun listed =>
    pure (routeEntry network listed)) = _
  rw [listAt_of_holdsList hHolds hItems]
  rfl

/-- Grants of either form are kept as entries that are read as the grants. -/
theorem exists_routeEntries {found : Option Value} {specs : List RouteSpec}
    (hPlain : ∀ value, found = some value → value.Plain)
    (h : Source.routeSpecs found = .ok specs) :
    ∃ entries, routeEntries found = .ok entries ∧
      List.Forall₂ (fun entry spec => entry.Plain ∧ Source.listedRoute entry 0 = .ok spec) entries
        specs := by
  cases found with
  | none =>
      cases h
      exact ⟨[], rfl, .nil⟩
  | some value =>
      have hValue := hPlain _ rfl
      cases hValue with
      | scalar s =>
          cases s with
          | null =>
              cases h
              exact ⟨[], rfl, .nil⟩
          | _ => cases h
      | tuple | set => cases h
      | @list items hItems =>
          have hList : (Value.list items).Plain := .list hItems
          rw [Source.routeSpecs, hList.tree.itemsAlone_eq_self] at h
          have hSpecs :=
            (Source.mapM_zipIdx_eq_ok_iff Source.listedRoute Source.listedRoute_of_ok 0).mp h
          refine ⟨items, ?_, (List.forall₂_and_left _ _).mpr ⟨hItems, hSpecs⟩⟩
          cases items with
          | nil => rfl
          | cons item rest => exact listAt_of_holdsList (.list _) hItems "autoApprovers.routes"
      | @record fields hNames hFields =>
          have hTree := (Plain.record hNames hFields).tree
          rw [Source.routeSpecs_recordEntries hTree, mapM_eq_ok_iff, recordEntries,
            List.forall₂_map_left_iff] at h
          have hGrants := (List.forall₂_and_left _ _).mpr ⟨hFields, h⟩
          rw [routeEntries_recordEntries hTree]
          exact exists_mapM_of_forall₂ (List.forall₂_map_left_iff.mpr
            (hGrants.imp fun field _ hGrant => exists_grantEntry field.1 hGrant.1 hGrant.2))

theorem mergeApprovers_of_holdsRecord {below : Option Value} {above : Value}
    {fields others : List (String × Value)} (hBelow : HoldsRecord below fields)
    (hFields : (record fields).Tree) (hAbove : HoldsRecord (some above) others)
    (hOthers : (record others).Tree) :
    mergeApprovers (below.getD .null) above = (do
      let exitNodeBelow ← listAt "autoApprovers.exitNode" (Table.get? fields "exitNode")
      let exitNodeAbove ← listAt "autoApprovers.exitNode" (Table.get? others "exitNode")
      let routesBelow ← routeEntries (Table.get? fields "routes")
      let routesAbove ← routeEntries (Table.get? others "routes")
      return record
        [("exitNode", .list (union exitNodeBelow exitNodeAbove)),
          ("routes", .list (routesBelow ++ routesAbove))]) := by
  rw [mergeApprovers, mappingOf_of_holdsRecord hAbove hOthers, ok_bind]
  simp only [← Source.field?_recordEntries]
  cases hBelow with
  | absent => rfl
  | null => rfl
  | record =>
      cases fields with
      | nil => rfl
      | cons field rest =>
          change (pure (Value.entriesAlone (recordEntries (field :: rest))) >>= fun base => _) = _
          rw [hFields.entriesAlone_recordEntries, pure_bind]

/-- The approvers in plain data: a record with a list of texts and with grants of either form. -/
theorem exists_approvers {data : List (String × Value)} (hPlain : (record data).Plain)
    (hTexts : ∀ item ∈ Source.exitNodeItems (recordEntries data), ∃ s, item = .text s)
    {exitNode : List String} {routes : List RouteSpec}
    (hExitNode : Source.exitNodeIn (recordEntries data) = .ok exitNode)
    (hRoutes : Source.routesIn (recordEntries data) = .ok routes) :
    ∃ fields, HoldsRecord (Table.get? data "autoApprovers") fields ∧ (record fields).Tree ∧
      HoldsList (Table.get? fields "exitNode") (exitNode.map Value.text) ∧
      ∃ entries, routeEntries (Table.get? fields "routes") = .ok entries ∧
        (∀ entry ∈ entries, entry.Plain) ∧
        List.Forall₂ (fun entry spec => Source.listedRoute entry 0 = .ok spec) entries routes := by
  obtain ⟨entries, hEntries, hExitNode⟩ := bind_eq_ok_iff.mp hExitNode
  obtain ⟨fields, rfl, hHolds, hFields, hList⟩ :=
    Source.exists_holdsRecord_of_exitNode hPlain hTexts hEntries hExitNode
  rw [Source.routesIn, hEntries, ok_bind, Source.field?_recordEntries] at hRoutes
  obtain ⟨entries, hMerged, hRead⟩ := exists_routeEntries (fun _ => hFields.of_get?) hRoutes
  exact ⟨fields, hHolds, hFields.tree, hList, entries, hMerged,
    (List.forall₂_and_left _ _).mp hRead⟩

/-- The section of approvers after merging. -/
def mergedApprovers (exitNode : List String) (entries : List Value) : List (String × Value) :=
  [("exitNode", .texts exitNode), ("routes", .list entries)]

theorem plain_mergedApprovers (exitNode : List String) {entries : List Value}
    (h : ∀ entry ∈ entries, entry.Plain) : (record (mergedApprovers exitNode entries)).Plain := by
  refine .record (by simp [mergedApprovers, Table.keys]) ?_
  simp only [mergedApprovers, List.forall_mem_cons]
  exact ⟨.texts _, .list h, List.forall_mem_nil _⟩

/-- The merged section is read as its texts and as what its entries are read as. -/
theorem read_mergedApprovers {data : Mapping} {exitNode : List String} {entries : List Value}
    (hData : Source.field? data "autoApprovers" = some (record (mergedApprovers exitNode entries)))
    (hPlain : ∀ entry ∈ entries, entry.Plain) {routes : List RouteSpec}
    (hRead : List.Forall₂ (fun entry spec => Source.listedRoute entry 0 = .ok spec) entries
      routes) :
    Source.exitNodeIn data = .ok exitNode ∧ Source.routesIn data = .ok routes := by
  have hMapping : Source.mapping data "autoApprovers" =
      .ok (recordEntries (mergedApprovers exitNode entries)) :=
    Source.mapping_of_holdsRecord hData (.record _) (plain_mergedApprovers exitNode hPlain).tree
  rw [Source.exitNodeIn, Source.routesIn, hMapping, ok_bind, ok_bind]
  constructor
  · exact Source.texts_texts "autoApprovers.exitNode" exitNode
  · change (Value.itemsAlone entries).zipIdx.mapM _ = _
    rw [(Plain.list hPlain).tree.itemsAlone_eq_self]
    exact (Source.mapM_zipIdx_eq_ok_iff Source.listedRoute Source.listedRoute_of_ok 0).mpr hRead

/-- Approvers are read after merging as those of the base united with those of the overlay, and
grants as the base's and then the overlay's. -/
theorem yields_approvers {base overlay : List (String × Value)}
    (hBase : (record base).Plain) (hOverlay : (record overlay).Plain)
    (hBaseTexts : ∀ item ∈ Source.exitNodeItems (recordEntries base), ∃ s, item = .text s)
    (hOverlayTexts : ∀ item ∈ Source.exitNodeItems (recordEntries overlay), ∃ s, item = .text s)
    {below above : List String} {routesBelow routesAbove : List RouteSpec}
    (hBelow : Source.exitNodeIn (recordEntries base) = .ok below)
    (hAbove : Source.exitNodeIn (recordEntries overlay) = .ok above)
    (hRoutesBelow : Source.routesIn (recordEntries base) = .ok routesBelow)
    (hRoutesAbove : Source.routesIn (recordEntries overlay) = .ok routesAbove) :
    Yields base overlay ("autoApprovers", mergeApprovers) fun data =>
      Source.exitNodeIn data = .ok (unite below above) ∧
      Source.routesIn data = .ok (routesBelow ++ routesAbove) := by
  obtain ⟨fields, hHolds, hTree, hList, entriesBelow, hEntriesBelow, hPlainBelow, hReadBelow⟩ :=
    exists_approvers hBase hBaseTexts hBelow hRoutesBelow
  obtain ⟨others, hOtherHolds, hOtherTree, hOtherList, entriesAbove, hEntriesAbove, hPlainAbove,
    hReadAbove⟩ := exists_approvers hOverlay hOverlayTexts hAbove hRoutesAbove
  cases hFound : Table.get? overlay "autoApprovers" with
  | none =>
      rw [hFound] at hOtherHolds
      cases hOtherHolds
      have hNoApprovers : above.map Value.text = [] := by
        generalize above.map Value.text = items at hOtherList
        cases hOtherList
        rfl
      obtain rfl := List.map_eq_nil_iff.mp hNoApprovers
      cases hEntriesAbove
      cases hReadAbove
      refine .of_kept hFound fun data hData => ?_
      have hMapping : Source.mapping data "autoApprovers" =
          Source.mapping (recordEntries base) "autoApprovers" := by
        rw [Source.mapping, hData, Source.mapping, Source.field?_recordEntries]
      rw [Source.exitNodeIn, Source.routesIn, hMapping, List.append_nil]
      exact ⟨hBelow, hRoutesBelow⟩
  | some value =>
      rw [hFound] at hOtherHolds
      have hTexts (ss : List String) : ∀ item ∈ ss.map Value.text, item.Plain :=
        (Plain.texts ss).of_mem_items
      have hEntries := List.forall_mem_append.mpr ⟨hPlainBelow, hPlainAbove⟩
      refine .of_merged _ hFound ?_ fun data hData =>
        read_mergedApprovers hData hEntries (List.rel_append hReadBelow hReadAbove)
      rw [mergeApprovers_of_holdsRecord hHolds hTree hOtherHolds hOtherTree,
        listAt_of_holdsList hList (hTexts below), listAt_of_holdsList hOtherList (hTexts above),
        hEntriesBelow, hEntriesAbove]
      simp only [ok_bind, union_map_text]
      rfl

end Overlay

end Tailnet
