import Tailnet.Proofs.Address.RoundTrip
import Tailnet.Proofs.Catalog.Lookup
import Tailnet.Proofs.Policy.Building

/-!
Rendering of sources. What a document is written as can be told from its source alone: declarations
in their order, rules token by token, and grants united by network.
-/

namespace Tailnet

open Text

/-- Tokens without white space around them, each at its first mention. -/
def firstMentions (tokens : List String) : List String := (tokens.map trim).eraseDups

/-- Declared tags or groups as data: under its mark and name, each has its tokens. -/
def declarationsRendering (kind : DeclarationKind) (declarations : List (String × List String)) :
    Value :=
  .record (declarations.map fun d =>
    (kind.mark ++ nameOf kind d.1, .texts (firstMentions d.2)))

/-- Declared hosts as data. -/
def hostsRendering (hosts : List (String × String)) : Value :=
  .record (hosts.map fun d => (trim d.1, .text (trim d.2)))

/-- A declared access rule as data. -/
def AccessSpec.rendering (spec : AccessSpec) : Value :=
  .record
    [ ("action", .text (trim spec.action)),
      ("src", .texts (spec.sources.map trim)),
      ("dst", .texts (spec.destinations.map trim)) ]

/-- A declared shell rule as data. -/
def ShellSpec.rendering (spec : ShellSpec) : Value :=
  .record <|
    [ ("action", .text (trim spec.action)),
      ("src", .texts (spec.sources.map trim)),
      ("dst", .texts (spec.destinations.map trim)),
      ("users", .texts (spec.users.map trim)) ] ++
      spec.checkPeriod.toList.map fun period => ("checkPeriod", .text period)

/-- Grants united by network: each network once, with all approvers that were granted it. -/
def unitedGrants (grants : List (Network × List String)) : List (Network × List String) :=
  (grants.map Prod.fst).eraseDups.map fun network =>
    (network, firstMentions ((grants.filter fun g => g.1 = network).flatMap Prod.snd))

/-- Granted networks as data. -/
def routesRendering (grants : List (Network × List String)) : Value :=
  .record ((unitedGrants grants).map fun g => (g.1.text, .texts g.2))

/-- The sections of a source, given the networks of its grants. Without groups there is none for
them. -/
def Source.sections (source : Source) (grants : List (Network × List String)) :
    List (String × Value) :=
  (if source.groups = [] then []
    else [("groups", declarationsRendering .group source.groups)]) ++
  [ ("tagOwners", declarationsRendering .tag source.tagOwners),
    ("hosts", hostsRendering source.hosts),
    ("acls", .list (source.acls.map AccessSpec.rendering)),
    ("ssh", .list (source.ssh.map ShellSpec.rendering)),
    ("autoApprovers", .record
      [ ("exitNode", .texts (firstMentions source.exitNode)),
        ("routes", routesRendering grants) ]) ]

/-- A source as data, given the networks of its grants. -/
def Source.rendering (source : Source) (grants : List (Network × List String)) : Value :=
  .record (source.sections grants)

section Grants

theorem eraseDups_map_of_injOn {α β : Type} [BEq α] [LawfulBEq α] [BEq β] [LawfulBEq β] {f : α → β}
    {items : List α} (h : ∀ a ∈ items, ∀ b ∈ items, f a = f b → a = b) :
    (items.map f).eraseDups = items.eraseDups.map f := by
  induction items using List.reverseRecOn with
  | nil => rfl
  | append_singleton items a ih =>
      classical
      have hFront : ∀ b ∈ items, ∀ c ∈ items, f b = f c → b = c :=
        fun b hb c hc => h b (List.mem_append_left _ hb) c (List.mem_append_left _ hc)
      have hMem : f a ∈ items.map f ↔ a ∈ items := by
        constructor
        · intro hIn
          obtain ⟨b, hb, hEq⟩ := List.mem_map.mp hIn
          rw [← h b (List.mem_append_left _ hb) a (by simp) hEq]
          exact hb
        · exact fun hIn => List.mem_map_of_mem hIn
      rw [List.map_append, List.map_singleton, eraseDups_append_singleton,
        eraseDups_append_singleton, ih hFront]
      by_cases hIn : a ∈ items
      · rw [if_pos hIn, if_pos (hMem.mpr hIn)]
      · rw [if_neg hIn, if_neg (fun hText => hIn (hMem.mp hText)), List.map_append,
          List.map_singleton]

/-- Networks that were read are told apart by their texts. -/
theorem Network.eq_of_text_eq {s t : String} {network other : Network}
    (hNetwork : Network.read s = .ok network) (hOther : Network.read t = .ok other)
    (hText : network.text = other.text) : network = other := by
  have hRead := read_text_of_read hNetwork
  rw [hText, read_text_of_read hOther] at hRead
  cases hRead
  rfl

theorem RouteSpec.grant?_eq_ok_iff {spec : RouteSpec} {result : Network × List String} :
    spec.grant? = .ok result ↔
      Network.read (trim spec.network) = .ok result.1 ∧ result.2 = spec.approvers := by
  simp only [grant?, Approvals.readNetwork, bind_eq_ok_iff, mapError_eq_ok_iff, pure_eq_ok_iff]
  constructor
  · rintro ⟨network, hNetwork, rfl⟩
    exact ⟨hNetwork, rfl⟩
  · rintro ⟨hNetwork, hApprovers⟩
    exact ⟨result.1, hNetwork, by rw [← hApprovers]⟩

/-- The network of each grant is that of one of the routes. -/
theorem exists_read_of_grants {routes : List RouteSpec} {grants : List (Network × List String)}
    (h : routes.mapM RouteSpec.grant? = .ok grants) :
    ∀ g ∈ grants, ∃ s, Network.read s = .ok g.1 := by
  intro g hg
  have hAll := mapM_eq_ok_iff.mp h
  obtain ⟨i, hi, rfl⟩ := List.getElem_of_mem hg
  have hLength : i < routes.length := hAll.length_eq ▸ hi
  exact ⟨_, (RouteSpec.grant?_eq_ok_iff.mp (hAll.get hLength hi)).1⟩

namespace Approvals

variable {grants : List (Network × List String)}

theorem text_injOn (hRead : ∀ g ∈ grants, ∃ s, Network.read s = .ok g.1) :
    ∀ a ∈ grants.map Prod.fst, ∀ b ∈ grants.map Prod.fst, a.text = b.text → a = b := by
  intro a ha b hb hText
  obtain ⟨g, hg, rfl⟩ := List.mem_map.mp ha
  obtain ⟨g', hg', rfl⟩ := List.mem_map.mp hb
  obtain ⟨s, hs⟩ := hRead g hg
  obtain ⟨t, ht⟩ := hRead g' hg'
  exact Network.eq_of_text_eq hs ht hText

theorem eraseDups_map_text (hRead : ∀ g ∈ grants, ∃ s, Network.read s = .ok g.1) :
    (grants.map fun g => g.1.text).eraseDups =
      (grants.map Prod.fst).eraseDups.map Network.text := by
  rw [← eraseDups_map_of_injOn (text_injOn hRead), List.map_map]
  rfl

theorem approversOf_text (hRead : ∀ g ∈ grants, ∃ s, Network.read s = .ok g.1)
    {network : Network} (hNetwork : network ∈ grants.map Prod.fst) :
    approversOf grants network.text =
      ((grants.filter fun g => g.1 = network).flatMap Prod.snd).map trim := by
  rw [approversOf, List.map_flatMap]
  congr 1
  apply List.filter_congr
  intro g hg
  rw [decide_eq_decide]
  exact ⟨text_injOn hRead _ (List.mem_map_of_mem hg) _ hNetwork, fun hEq => hEq ▸ rfl⟩

/-- The bindings that are built: the approvers of each network under its text. -/
def builtRoutes (approvals : Approvals) : List (String × List Principal) :=
  approvals.routes.map fun (network, bound) => (network, bound.values)

/-- Each granted network has one binding, with all approvers that were granted it. -/
theorem builtRoutes_granted (exitNode : List String)
    (hRead : ∀ g ∈ grants, ∃ s, Network.read s = .ok g.1) :
    (granted exitNode grants).builtRoutes =
      (unitedGrants grants).map fun g => (g.1.text, g.2.map Principal.ofToken) := by
  simp only [builtRoutes, granted, Table.tabulate, eraseDups_map_text hRead, unitedGrants,
    List.map_map]
  apply List.map_congr_left
  intro network hNetwork
  simp only [Function.comp_apply, firstMentions,
    approversOf_text hRead (List.mem_eraseDups.mp hNetwork), Table.values, List.map_map,
    Function.comp_def]

theorem routes_toValue_granted {exitNode : List String}
    (hRead : ∀ g ∈ grants, ∃ s, Network.read s = .ok g.1) :
    (granted exitNode grants).routes.map (fun (network, bound) =>
      (network, Value.texts (bound.values.map Principal.raw))) =
      (unitedGrants grants).map fun g => (g.1.text, .texts g.2) := by
  have hBuilt := congrArg
    (List.map fun route => (route.1, Value.texts (route.2.map Principal.raw)))
    (builtRoutes_granted exitNode hRead)
  simpa only [builtRoutes, List.map_map, Function.comp_def, Principal.raw_ofToken,
    List.map_id'] using hBuilt

end Approvals

end Grants

section Sections

theorem AccessSpec.toValue_rule (spec : AccessSpec) : spec.rule.toValue = spec.rendering := by
  simp [rule, AccessRule.toValue, AccessRule.read, rendering, Function.comp_def]

theorem ShellSpec.toValue_rule (spec : ShellSpec) : spec.rule.toValue = spec.rendering := by
  cases hPeriod : spec.checkPeriod with
  | none =>
      simp [rule, ShellRule.toValue, ShellRule.read, rendering, hPeriod, Function.comp_def,
        Value.optionalText, Value.isNull, Value.null]
  | some period =>
      simp [rule, ShellRule.toValue, ShellRule.read, rendering, hPeriod, Function.comp_def,
        Value.optionalText, Value.isNull, Value.text]

theorem entriesValue_entryOf (kind : DeclarationKind)
    (declarations : List (String × List String)) :
    Document.entriesValue kind.mark (Table.values (declarations.map (Catalog.entryOf kind))) =
      declarationsRendering kind declarations := by
  simp only [Document.entriesValue, declarationsRendering, Table.values, List.map_map]
  congr 1
  apply List.map_congr_left
  intro d _
  simp only [Function.comp_apply, Catalog.entryOf, map_raw_principalsOf, firstMentions]

theorem nameOf_host (written : String) : nameOf .host written = trim written := by
  unfold nameOf
  rfl

theorem hostsRendering_eq (hosts : List (String × String)) :
    Value.record ((Table.values (hosts.map Catalog.hostEntryOf)).map fun host =>
      (host.name, .text host.address)) = hostsRendering hosts := by
  simp only [hostsRendering, Table.values, List.map_map]
  congr 1
  apply List.map_congr_left
  intro d _
  simp only [Function.comp_apply, Catalog.hostEntryOf, nameOf_host]

theorem Approvals.toValue_granted (exitNode : List String)
    {grants : List (Network × List String)}
    (hRead : ∀ g ∈ grants, ∃ s, Network.read s = .ok g.1) :
    (granted exitNode grants).toValue = .record
      [ ("exitNode", .texts (firstMentions exitNode)), ("routes", routesRendering grants) ] := by
  have hExit : (granted exitNode grants).exitNode.values.map Principal.raw =
      firstMentions exitNode := by
    simp [granted, firstMentions, Function.comp_def]
  rw [toValue, hExit, routes_toValue_granted hRead, routesRendering]

end Sections

theorem toValue_build {source : Source} {grants : List (Network × List String)}
    (hGrants : source.routes.mapM RouteSpec.grant? = .ok grants) :
    (Document.build (.declared source.groups source.tagOwners source.hosts) source.ruleSet
      (.granted source.exitNode grants) source.halves).toValue = source.rendering grants := by
  have hAcls : (source.acls.map AccessSpec.rule).map AccessRule.toValue =
      source.acls.map AccessSpec.rendering := by
    rw [List.map_map]
    exact List.map_congr_left fun spec _ => AccessSpec.toValue_rule spec
  have hSsh : (source.ssh.map ShellSpec.rule).map ShellRule.toValue =
      source.ssh.map ShellSpec.rendering := by
    rw [List.map_map]
    exact List.map_congr_left fun spec _ => ShellSpec.toValue_rule spec
  have hRoutes := Approvals.toValue_granted source.exitNode (exists_read_of_grants hGrants)
  have hGroups : (source.groups.map (Catalog.entryOf .group)).isEmpty = true ↔
      source.groups = [] := by simp
  rw [Document.toValue, Source.rendering, Source.sections, Document.build]
  simp only [Catalog.close, Catalog.groups_declared, Catalog.tags_declared, Catalog.hosts_declared,
    Source.ruleSet_eq, hAcls, hSsh, hRoutes, hGroups, hostsRendering_eq]
  rw [← entriesValue_entryOf .group, ← entriesValue_entryOf .tag]
  rfl

/-- A document is written as its source is rendered. -/
theorem toValue_eq_rendering {source : Source} {document : Document}
    (h : source.document = .ok document) :
    ∃ grants, List.Forall₂ (fun (spec : RouteSpec) (g : Network × List String) =>
        Network.read (trim spec.network) = .ok g.1 ∧ g.2 = spec.approvers) source.routes grants ∧
      document.toValue = source.rendering grants := by
  obtain ⟨-, grants, hGrants, rfl⟩ := Source.document_eq_ok_iff.mp h
  refine ⟨grants, ?_, toValue_build hGrants⟩
  exact (mapM_eq_ok_iff.mp hGrants).imp fun _ _ => RouteSpec.grant?_eq_ok_iff.mp

theorem toValue_officeSource :
    ∃ document, officeSource.document = .ok document ∧
      ∃ grants, List.Forall₂ (fun (spec : RouteSpec) (g : Network × List String) =>
          Network.read (trim spec.network) = .ok g.1 ∧ g.2 = spec.approvers)
          officeSource.routes grants ∧
        document.toValue = officeSource.rendering grants := by
  obtain ⟨compilation, text, hCompile, hText⟩ := exists_output_officeSource
  obtain ⟨document, hDocument, -⟩ := Source.compile_output_iff.mp ⟨hCompile, hText⟩
  exact ⟨document, hDocument, toValue_eq_rendering hDocument⟩

end Tailnet
