import Tailnet.Proofs.Overlay.Sections

/-!
Sections of lists. Rules of the overlay come behind those of the base. The place at which something
stands does not matter for what is read there.
-/

namespace Tailnet

open Value (Plain record)

namespace Source

section Places

variable {place : String}

theorem texts_of_ok {found : Option Value} {ss : List String} (h : texts place found = .ok ss)
    (other : String) : texts other found = .ok ss := by
  unfold texts at h ⊢
  split at h
  all_goals first | exact h | cases h

theorem mappingAt_of_ok {value : Value} {entries : Mapping}
    (h : mappingAt place value = .ok entries) (other : String) :
    mappingAt other value = .ok entries := by
  cases value with
  | map => exact h
  | _ => cases h

/-- A rule is read alike at every position. -/
theorem accessSpec_of_ok {rule : Value} {index : Nat} {spec : AccessSpec}
    (h : accessSpec rule index = .ok spec) (other : Nat) : accessSpec rule other = .ok spec := by
  obtain ⟨entries, hEntries, h⟩ := bind_eq_ok_iff.mp h
  obtain ⟨action, hAction, h⟩ := bind_eq_ok_iff.mp h
  obtain ⟨sources, hSources, h⟩ := bind_eq_ok_iff.mp h
  obtain ⟨destinations, hDestinations, h⟩ := bind_eq_ok_iff.mp h
  simp only [accessSpec, mappingAt_of_ok hEntries, hAction, texts_of_ok hSources,
    texts_of_ok hDestinations, ok_bind]
  exact h

theorem shellSpec_of_ok {rule : Value} {index : Nat} {spec : ShellSpec}
    (h : shellSpec rule index = .ok spec) (other : Nat) : shellSpec rule other = .ok spec := by
  obtain ⟨entries, hEntries, h⟩ := bind_eq_ok_iff.mp h
  obtain ⟨action, hAction, h⟩ := bind_eq_ok_iff.mp h
  obtain ⟨sources, hSources, h⟩ := bind_eq_ok_iff.mp h
  obtain ⟨destinations, hDestinations, h⟩ := bind_eq_ok_iff.mp h
  obtain ⟨users, hUsers, h⟩ := bind_eq_ok_iff.mp h
  simp only [shellSpec, mappingAt_of_ok hEntries, hAction, texts_of_ok hSources,
    texts_of_ok hDestinations, texts_of_ok hUsers, ok_bind]
  exact h

theorem listedRoute_of_ok {entry : Value} {index : Nat} {spec : RouteSpec}
    (h : listedRoute entry index = .ok spec) (other : Nat) :
    listedRoute entry other = .ok spec := by
  obtain ⟨entries, hEntries, h⟩ := bind_eq_ok_iff.mp h
  simp only [listedRoute, mappingAt_of_ok hEntries, ok_bind]
  split at h
  · cases h
  · obtain ⟨network, hNetwork, h⟩ := bind_eq_ok_iff.mp h
    obtain ⟨approvers, hApprovers, h⟩ := bind_eq_ok_iff.mp h
    simp only [hNetwork, texts_of_ok hApprovers, ok_bind]
    exact h

end Places

/-- What is read alike at every position is read item by item. -/
theorem mapM_zipIdx_eq_ok_iff {α : Type} (read : Value → Nat → Except SourceError α)
    (hRead : ∀ {value index spec}, read value index = .ok spec → ∀ other,
      read value other = .ok spec) {items : List Value} {specs : List α} (start : Nat) :
    (items.zipIdx start).mapM (fun entry => read entry.1 entry.2) = .ok specs ↔
      List.Forall₂ (fun item spec => read item 0 = .ok spec) items specs := by
  rw [mapM_eq_ok_iff]
  induction items generalizing start specs with
  | nil => rw [List.zipIdx_nil, List.forall₂_nil_left_iff, List.forall₂_nil_left_iff]
  | cons item rest ih =>
      rw [List.zipIdx_cons, List.forall₂_cons_left_iff, List.forall₂_cons_left_iff]
      constructor
      · rintro ⟨spec, specs, hItem, hRest, rfl⟩
        exact ⟨spec, specs, hRead hItem 0, (ih (start + 1)).mp hRest, rfl⟩
      · rintro ⟨spec, specs, hItem, hRest, rfl⟩
        exact ⟨spec, specs, hRead hItem start, (ih (start + 1)).mpr hRest, rfl⟩

/-- A section that counts as a list: one without items if it is absent or null. -/
inductive HoldsList : Option Value → List Value → Prop where
  | absent : HoldsList none []
  | null : HoldsList (some .null) []
  | list (items : List Value) : HoldsList (some (.list items)) items

/-- A plain section that is read as a list counts as one. -/
theorem holdsList_of_items {data : List (String × Value)} (hPlain : (record data).Plain)
    {name : String} {items : List Value} (h : Source.items (recordEntries data) name = .ok items) :
    HoldsList (Table.get? data name) items ∧ ∀ item ∈ items, item.Plain := by
  have hPart {value : Value} (hFound : Table.get? data name = some value) : value.Plain :=
    hPlain.of_get? hFound
  rw [Source.items, field?_recordEntries] at h
  generalize Table.get? data name = found at h hPart
  split at h
  · cases h
    exact ⟨.absent, List.forall_mem_nil _⟩
  · cases h
    exact ⟨.null, List.forall_mem_nil _⟩
  · cases h
    have hList := hPart rfl
    rw [hList.tree.itemsAlone_eq_self]
    exact ⟨.list _, hList.of_mem_items⟩
  · cases h

theorem items_of_holdsList {data : Mapping} {name : String} {found : Option Value}
    (hSection : field? data name = found) {items : List Value} (h : HoldsList found items)
    (hPlain : ∀ item ∈ items, item.Plain) : Source.items data name = .ok items := by
  rw [Source.items, hSection]
  cases h with
  | absent => rfl
  | null => rfl
  | list => exact congrArg Except.ok (Plain.list hPlain).tree.itemsAlone_eq_self

end Source

namespace Overlay

open Source (HoldsList)

theorem asItems_of_holdsList {below : Option Value} {items : List Value}
    (h : HoldsList below items) (hPlain : ∀ item ∈ items, item.Plain) :
    asItems (below.getD .null) = .ok items := by
  cases h with
  | absent => rfl
  | null => rfl
  | list =>
      cases items with
      | nil => rfl
      | cons item rest => exact congrArg Except.ok (Plain.list hPlain).tree.itemsAlone_eq_self

theorem listAt_of_holdsList {found : Option Value} {items : List Value} (h : HoldsList found items)
    (hPlain : ∀ item ∈ items, item.Plain) (place : String) : listAt place found = .ok items := by
  cases h with
  | absent => rfl
  | null => rfl
  | list => exact congrArg Except.ok (Plain.list hPlain).tree.itemsAlone_eq_self

/-- Rules are read after merging as the base's and then the overlay's. -/
theorem yields_rules {α : Type} (read : Value → Nat → Except SourceError α)
    (hRead : ∀ {value index spec}, read value index = .ok spec → ∀ other,
      read value other = .ok spec)
    {base overlay : List (String × Value)} (hBase : (record base).Plain)
    (hOverlay : (record overlay).Plain) (name : String) {below above : List α}
    (hBelow : Source.rulesIn (recordEntries base) name read = .ok below)
    (hAbove : Source.rulesIn (recordEntries overlay) name read = .ok above) :
    Yields base overlay (name, mergeRules name) fun data =>
      Source.rulesIn data name read = .ok (below ++ above) := by
  obtain ⟨belowItems, hBelowItems, hBelowSpecs⟩ := bind_eq_ok_iff.mp hBelow
  obtain ⟨aboveItems, hAboveItems, hAboveSpecs⟩ := bind_eq_ok_iff.mp hAbove
  obtain ⟨hBelowHolds, hBelowPlain⟩ := Source.holdsList_of_items hBase hBelowItems
  obtain ⟨hAboveHolds, hAbovePlain⟩ := Source.holdsList_of_items hOverlay hAboveItems
  have hBelowSpecs := (Source.mapM_zipIdx_eq_ok_iff read hRead 0).mp hBelowSpecs
  have hAboveSpecs := (Source.mapM_zipIdx_eq_ok_iff read hRead 0).mp hAboveSpecs
  cases hFound : Table.get? overlay name with
  | none =>
      rw [hFound] at hAboveHolds
      cases hAboveHolds
      cases hAboveSpecs
      refine .of_kept hFound fun data hData => ?_
      rw [Source.rulesIn, Source.items_of_holdsList hData hBelowHolds hBelowPlain, ok_bind,
        List.append_nil]
      exact (Source.mapM_zipIdx_eq_ok_iff read hRead 0).mpr hBelowSpecs
  | some value =>
      rw [hFound] at hAboveHolds
      have hPlain : ∀ item ∈ belowItems ++ aboveItems, item.Plain :=
        List.forall_mem_append.mpr ⟨hBelowPlain, hAbovePlain⟩
      refine .of_merged (.list (belowItems ++ aboveItems)) hFound ?_ fun data hData => ?_
      · rw [mergeRules, asItems_of_holdsList hBelowHolds hBelowPlain, ok_bind,
          listAt_of_holdsList hAboveHolds hAbovePlain, ok_bind]
        rfl
      · rw [Source.rulesIn, Source.items_of_holdsList hData (.list _) hPlain, ok_bind]
        exact (Source.mapM_zipIdx_eq_ok_iff read hRead 0).mpr
          (List.rel_append hBelowSpecs hAboveSpecs)

end Overlay

end Tailnet
