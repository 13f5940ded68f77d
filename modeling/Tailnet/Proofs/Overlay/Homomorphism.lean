import Tailnet.Proofs.Overlay.Approvers
import Tailnet.Proofs.Overlay.Options

/-!
Merging seen from the sources. What is read from base and overlay together is what is read from
each, put together: declarations overridden, rules and grants behind one another, approvers united.
-/

namespace Tailnet

open Value (Plain record)

namespace Source

/-- A source with another on top. The name is the one on top if the data there has one. -/
structure Overlaid (overlay : Mapping) (result below above : Source) : Prop where
  name : result.name = if (field? overlay "name").isSome then above.name else below.name
  groups : Table.Overrides result.groups below.groups above.groups
  tagOwners : Table.Overrides result.tagOwners below.tagOwners above.tagOwners
  hosts : Table.Overrides result.hosts below.hosts above.hosts
  acls : result.acls = below.acls ++ above.acls
  ssh : result.ssh = below.ssh ++ above.ssh
  exitNode : result.exitNode = unite below.exitNode above.exitNode
  routes : result.routes = below.routes ++ above.routes

/-- A source that is the one below it in all sections that data does not mention. -/
structure KeepsUnmentioned (overlay : Mapping) (result below : Source) : Prop where
  name : field? overlay "name" = none → result.name = below.name
  groups : field? overlay "groups" = none → result.groups = below.groups
  tagOwners : field? overlay "tagOwners" = none → result.tagOwners = below.tagOwners
  hosts : field? overlay "hosts" = none → result.hosts = below.hosts
  acls : field? overlay "acls" = none → result.acls = below.acls
  ssh : field? overlay "ssh" = none → result.ssh = below.ssh
  exitNode : field? overlay "autoApprovers" = none → result.exitNode = below.exitNode
  routes : field? overlay "autoApprovers" = none → result.routes = below.routes
  tailnet : field? overlay "tailnet" = none → result.tailnet = below.tailnet

section Sections

variable {data other : Mapping} {name : String}

theorem mapping_congr (h : field? data name = field? other name) :
    mapping data name = mapping other name := by
  rw [mapping, h, mapping]

theorem rulesIn_congr {α : Type} (h : field? data name = field? other name)
    (read : Value → Nat → Except SourceError α) :
    rulesIn data name read = rulesIn other name read := by
  rw [rulesIn, items, h, rulesIn, items]

theorem nameIn_congr (h : field? data "name" = field? other "name") (name : String) :
    nameIn data name = nameIn other name := by
  rw [nameIn, h, nameIn]

/-- Sources whose sections are the same in data have the same parts. -/
theorem ReadFrom.keepsUnmentioned {overlay : Mapping} {environment first : Option String}
    {halves : Text.Halves} {result below : Source}
    (hResult : ReadFrom data name environment halves result)
    (hBelow : ReadFrom other name first halves below)
    (h : ∀ part, field? overlay part = none → field? data part = field? other part) :
    KeepsUnmentioned overlay result below where
  name hNone := Except.ok.inj (by rw [← hResult.name, ← hBelow.name, nameIn_congr (h _ hNone)])
  groups hNone := Except.ok.inj (by
    rw [← hResult.groups, ← hBelow.groups, mapping_congr (h _ hNone)])
  tagOwners hNone := Except.ok.inj (by
    rw [← hResult.tagOwners, ← hBelow.tagOwners, mapping_congr (h _ hNone)])
  hosts hNone := Except.ok.inj (by rw [← hResult.hosts, ← hBelow.hosts, mapping_congr (h _ hNone)])
  acls hNone := Except.ok.inj (by rw [← hResult.acls, ← hBelow.acls, rulesIn_congr (h _ hNone)])
  ssh hNone := Except.ok.inj (by rw [← hResult.ssh, ← hBelow.ssh, rulesIn_congr (h _ hNone)])
  exitNode hNone := Except.ok.inj (by
    rw [← hResult.exitNode, ← hBelow.exitNode, exitNodeIn, mapping_congr (h _ hNone), exitNodeIn])
  routes hNone := Except.ok.inj (by
    rw [← hResult.routes, ← hBelow.routes, routesIn, mapping_congr (h _ hNone), routesIn])
  tailnet hNone := Except.ok.inj (by
    rw [← hResult.tailnet, ← hBelow.tailnet, mapping_congr (h _ hNone)])

end Sections

end Source

namespace Overlay

open Source (ReadFrom)

/-- The name is the one of the overlay if it has one, and otherwise the one of the base. -/
theorem yields_name {base overlay : List (String × Value)} {name : String} {below above : String}
    (hBelow : Source.nameIn (recordEntries base) name = .ok below)
    (hAbove : Source.nameIn (recordEntries overlay) name = .ok above) :
    Yields base overlay ("name", fun _ name => .ok name) fun data =>
      Source.nameIn data name =
        .ok (if (Table.get? overlay "name").isSome then above else below) := by
  cases hFound : Table.get? overlay "name" with
  | none =>
      refine .of_kept hFound fun data hData => ?_
      rw [← Source.field?_recordEntries] at hData
      rw [Source.nameIn_congr hData, hBelow]
      rfl
  | some value =>
      refine .of_merged value hFound rfl fun data hData => ?_
      rw [← hFound, ← Source.field?_recordEntries] at hData
      rw [Source.nameIn_congr hData, hAbove]
      rfl

end Overlay

namespace Source

/-- Merging records of plain data and reading the result is reading both and putting the sources on
top of one another. -/
theorem exists_read_merge {base overlay : List (String × Value)} (hBase : (record base).Plain)
    (hOverlay : (record overlay).Plain)
    (hBaseTexts : ∀ item ∈ exitNodeItems (recordEntries base), ∃ s, item = .text s)
    (hOverlayTexts : ∀ item ∈ exitNodeItems (recordEntries overlay), ∃ s, item = .text s)
    {name : String} {first second : Option String} {halves : Text.Halves} {below above : Source}
    (hBelow : ReadFrom (recordEntries base) name first halves below)
    (hAbove : ReadFrom (recordEntries overlay) name second halves above)
    (environment : Option String) :
    ∃ merged result, Overlay.merge (recordEntries base) (recordEntries overlay) = .ok merged ∧
      ReadFrom merged name environment halves result ∧
      Overlaid (recordEntries overlay) result below above ∧
      KeepsUnmentioned (recordEntries overlay) result below := by
  obtain ⟨groups, hGroupsOver, hGroups⟩ := Overlay.exists_yields_declarations
    (fun name value => texts ("groups" ++ "." ++ name) (some value)) hBase hOverlay "groups"
    hBelow.groups hAbove.groups
  obtain ⟨owners, hOwnersOver, hOwners⟩ := Overlay.exists_yields_declarations
    (fun name value => texts ("tagOwners" ++ "." ++ name) (some value)) hBase hOverlay "tagOwners"
    hBelow.tagOwners hAbove.tagOwners
  obtain ⟨hosts, hHostsOver, hHosts⟩ := Overlay.exists_yields_declarations
    (fun _ value => textOf value) hBase hOverlay "hosts" hBelow.hosts hAbove.hosts
  obtain ⟨options, hOptions⟩ :=
    Overlay.exists_yields_options hBase hOverlay hBelow.tailnet hAbove.tailnet
  have hName := Overlay.yields_name hBelow.name hAbove.name
  have hAcls := Overlay.yields_rules accessSpec accessSpec_of_ok hBase hOverlay "acls" hBelow.acls
    hAbove.acls
  have hSsh := Overlay.yields_rules shellSpec shellSpec_of_ok hBase hOverlay "ssh" hBelow.ssh
    hAbove.ssh
  have hApprovers := Overlay.yields_approvers hBase hOverlay hBaseTexts hOverlayTexts
    hBelow.exitNode hAbove.exitNode hBelow.routes hAbove.routes
  obtain ⟨merged, hMerged, hParts, hUnmentioned⟩ := Overlay.exists_merge_of_yields
    (.cons hName (.cons hGroups (.cons hOwners (.cons hHosts (.cons hAcls (.cons hSsh
      (.cons hApprovers (.cons hOptions .nil))))))))
  simp only [List.forall_mem_cons] at hParts
  obtain ⟨hName, hGroups, hOwners, hHosts, hAcls, hSsh, hApprovers, hOptions, -⟩ := hParts
  let result : Source :=
    { name := if (Table.get? overlay "name").isSome then above.name else below.name
      groups, tagOwners := owners, hosts
      acls := below.acls ++ above.acls
      ssh := below.ssh ++ above.ssh
      exitNode := unite below.exitNode above.exitNode
      routes := below.routes ++ above.routes
      tailnet := options
      environment, halves }
  have hNamed : result.name ≠ "" := by
    change (if _ then above.name else below.name) ≠ ""
    split
    · exact hAbove.named
    · exact hBelow.named
  have hResult : ReadFrom (recordEntries merged) name environment halves result :=
    ⟨hName, hNamed, hGroups, hOwners, hHosts, hAcls, hSsh, hApprovers.1, hApprovers.2, hOptions,
      rfl, rfl⟩
  refine ⟨_, result, hMerged, hResult, ?_, hResult.keepsUnmentioned hBelow fun part hNone => ?_⟩
  · exact ⟨by rw [field?_recordEntries], hGroupsOver, hOwnersOver, hHostsOver, rfl, rfl, rfl, rfl⟩
  · rw [field?_recordEntries] at hNone ⊢
    rw [field?_recordEntries, hUnmentioned part hNone]

/-- Merging and then reading is reading both and putting one source on top of the other. -/
theorem read_merge {base overlay : Mapping} (hBase : (Value.map base).Plain)
    (hOverlay : (Value.map overlay).Plain)
    (hBaseTexts : ∀ item ∈ exitNodeItems base, ∃ s, item = .text s)
    (hOverlayTexts : ∀ item ∈ exitNodeItems overlay, ∃ s, item = .text s)
    {name : String} {first second : Option String} {halves : Text.Halves} {below above : Source}
    (hBelow : read base name first halves = .ok below)
    (hAbove : read overlay name second halves = .ok above) (environment : Option String) :
    ∃ merged result, Overlay.merge base overlay = .ok merged ∧
      read merged name environment halves = .ok result ∧ Overlaid overlay result below above ∧
      KeepsUnmentioned overlay result below ∧ result.environment = environment := by
  obtain ⟨fields, rfl, -⟩ := hBase.exists_fields
  obtain ⟨others, rfl, -⟩ := hOverlay.exists_fields
  rw [read_eq_ok_iff] at hBelow hAbove
  obtain ⟨merged, result, hMerged, hResult, hOverlaid, hKeeps⟩ :=
    exists_read_merge hBase hOverlay hBaseTexts hOverlayTexts hBelow hAbove environment
  exact ⟨merged, result, hMerged, read_eq_ok_iff.mpr hResult, hOverlaid, hKeeps,
    hResult.environment⟩

/-- A policy of rules and grants. -/
def basePolicy : List (String × Value) :=
  [ ("groups", .record [("ops", .texts ["ann"]), ("web", .texts ["bob"])]),
    ("acls", .list [.record [("action", .text "accept"), ("src", .texts ["group:ops"]),
      ("dst", .texts ["*:22"])]]),
    ("autoApprovers", .record [("exitNode", .texts ["group:ops"]),
      ("routes", .record [("10.0.0.0/8", .texts ["group:ops"])])]),
    ("tailnet", .record [("dns", .record [("nameservers", .texts ["1.1.1.1"])])]) ]

/-- Changes to it, with grants in the other form and options at some depth. -/
def developmentOverlay : List (String × Value) :=
  [ ("groups", .record [("web", .texts ["cid"]), ("dev", .texts ["dan"])]),
    ("ssh", .null),
    ("autoApprovers", .record [("exitNode", .texts ["group:dev", "group:ops"]),
      ("routes", .list [.record [("cidr", .text "10.0.0.0/8"),
        ("approvers", .texts ["group:dev"])]])]),
    ("tailnet", .record [("dns", .record [("magicDns", .bool false)])]) ]

theorem read_merge_developmentOverlay :
    ∃ below above, read (recordEntries basePolicy) "office" none = .ok below ∧
      read (recordEntries developmentOverlay) "office" none = .ok above ∧
      (record basePolicy).Plain ∧ (record developmentOverlay).Plain ∧
      (∀ item ∈ exitNodeItems (recordEntries basePolicy), ∃ s, item = .text s) ∧
      (∀ item ∈ exitNodeItems (recordEntries developmentOverlay), ∃ s, item = .text s) ∧
      ∃ merged result,
        Overlay.merge (recordEntries basePolicy) (recordEntries developmentOverlay) =
          .ok merged ∧
        read merged "office" (some "dev") = .ok result ∧
        Overlaid (recordEntries developmentOverlay) result below above ∧
        KeepsUnmentioned (recordEntries developmentOverlay) result below ∧
        result.environment = some "dev" := by
  obtain ⟨below, hBelow⟩ : ∃ below, read (recordEntries basePolicy) "office" none = .ok below :=
    exists_eq_ok_iff.mpr (by decide +kernel)
  obtain ⟨above, hAbove⟩ :
      ∃ above, read (recordEntries developmentOverlay) "office" none = .ok above :=
    exists_eq_ok_iff.mpr (by decide +kernel)
  have hBase : (record basePolicy).Plain := by
    simp [basePolicy, Table.keys, Value.text]
  have hOverlay : (record developmentOverlay).Plain := by
    simp [developmentOverlay, Table.keys, Value.text, Value.null, Value.bool]
  have hBaseTexts : ∀ item ∈ exitNodeItems (recordEntries basePolicy), ∃ s, item = .text s :=
    List.forall_mem_singleton.mpr ⟨_, rfl⟩
  have hOverlayTexts :
      ∀ item ∈ exitNodeItems (recordEntries developmentOverlay), ∃ s, item = .text s :=
    List.forall_mem_cons.mpr ⟨⟨_, rfl⟩, List.forall_mem_singleton.mpr ⟨_, rfl⟩⟩
  exact ⟨below, above, hBelow, hAbove, hBase, hOverlay, hBaseTexts, hOverlayTexts,
    read_merge hBase hOverlay hBaseTexts hOverlayTexts hBelow hAbove (some "dev")⟩

/-- A mapping that contains itself. -/
def circular : Mapping := [(.text "account", .loop 0 .map)]

/-- A mapping that contains itself can be merged with itself to no depth. -/
theorem mergeEntries_circular (depth : Nat) :
    Overlay.mergeEntries depth circular circular = .error .endless := by
  induction depth with
  | zero => rfl
  | succ depth ih =>
      have hEntry : Overlay.mergeValue (Overlay.mergeEntries depth)
          (Table.get? (Value.entriesAlone circular) (.text "account")) (.map circular) =
            .error .endless := by
        change (Overlay.mergeEntries depth circular circular).map Value.map = _
        rw [ih]
        rfl
      have hAlone : Value.entriesAlone circular = [(.text "account", .map circular)] := rfl
      rw [Overlay.mergeEntries, hAlone, List.foldlM_cons]
      simp only [hEntry]
      rfl

/-- Contacts that are shown as what they are, one of which is all of them. -/
def circularPolicy : Mapping := recordEntries [("tailnet", .record [("contacts", .map circular)])]

/-- Contacts like these are accepted, but they cannot be put on top of themselves, however deep
merging may go. -/
theorem merge_circularPolicy :
    (∃ source, read circularPolicy "office" none = .ok source ∧
      source.tailnet.contacts = [("account", "\x7b'account': \x7b...\x7d\x7d")]) ∧
    exitNodeItems circularPolicy = [] ∧
    Overlay.merge circularPolicy circularPolicy = .error .endless ∧
    ∀ depth, Overlay.mergeEntries depth circular circular = .error .endless := by
  refine ⟨?_, rfl, rfl, mergeEntries_circular⟩
  have hContacts : (read circularPolicy "office" none >>= fun source =>
      pure source.tailnet.contacts) =
        Except.ok [("account", "\x7b'account': \x7b...\x7d\x7d")] := by decide +kernel
  obtain ⟨source, hSource, hFound⟩ := bind_eq_ok_iff.mp hContacts
  exact ⟨source, hSource, pure_eq_ok_iff.mp hFound⟩

end Source

end Tailnet
