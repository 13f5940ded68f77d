import Tailnet.Proofs.Policy.Rendering

/-!
Normal sources. A source without superfluous white space, with every name under its mark, every
token once and every network once has the same document as the source from which it was cleaned
up.
-/

namespace Tailnet

open Text

/-- Declared tags or groups under their marks, with each token once. -/
def normalDeclarations (kind : DeclarationKind) (declarations : List (String × List String)) :
    List (String × List String) :=
  declarations.map fun d => (kind.mark ++ nameOf kind d.1, firstMentions d.2)

/-- Declared hosts without white space. -/
def normalHosts (hosts : List (String × String)) : List (String × String) :=
  hosts.map fun d => (trim d.1, trim d.2)

/-- An access rule without white space around its tokens. -/
def AccessSpec.normal (spec : AccessSpec) : AccessSpec :=
  ⟨trim spec.action, spec.sources.map trim, spec.destinations.map trim⟩

/-- A shell rule without white space around its tokens. -/
def ShellSpec.normal (spec : ShellSpec) : ShellSpec :=
  ⟨trim spec.action, spec.sources.map trim, spec.destinations.map trim, spec.users.map trim,
    spec.checkPeriod⟩

/-- A source in its normal form, given the networks of its grants. The policy knows neither its name
nor the options of the tailnet. -/
def Source.normal (source : Source) (grants : List (Network × List String)) (name : String)
    (environment : Option String) : Source where
  name := name
  groups := normalDeclarations .group source.groups
  tagOwners := normalDeclarations .tag source.tagOwners
  hosts := normalHosts source.hosts
  acls := source.acls.map AccessSpec.normal
  ssh := source.ssh.map ShellSpec.normal
  exitNode := firstMentions source.exitNode
  routes := (unitedGrants grants).map fun g => ⟨g.1.text, g.2⟩
  tailnet := usualOptions
  environment := environment
  halves := source.halves

section Tokens

theorem map_trim_of_trimmed {tokens : List String} (h : ∀ token ∈ tokens, trim token = token) :
    tokens.map trim = tokens := by
  conv_rhs => rw [← List.map_id tokens]
  exact List.map_congr_left h

theorem trim_of_mem_firstMentions {tokens : List String} {token : String}
    (h : token ∈ firstMentions tokens) : trim token = token := by
  obtain ⟨written, -, rfl⟩ := List.mem_map.mp (List.mem_eraseDups.mp h)
  exact trim_trim written

theorem firstMentions_of_nodup {tokens : List String} (hNodup : tokens.Nodup)
    (hTrimmed : ∀ token ∈ tokens, trim token = token) : firstMentions tokens = tokens := by
  rw [firstMentions, map_trim_of_trimmed hTrimmed, eraseDups_of_nodup hNodup]

/-- The first mentions among first mentions are these. -/
@[simp] theorem firstMentions_firstMentions (tokens : List String) :
    firstMentions (firstMentions tokens) = firstMentions tokens :=
  firstMentions_of_nodup (nodup_eraseDups _) fun _ => trim_of_mem_firstMentions

theorem principalsOf_firstMentions (tokens : List String) :
    principalsOf (firstMentions tokens) = principalsOf tokens := by
  have hAgain := firstMentions_firstMentions tokens
  rw [principalsOf_eq, principalsOf_eq, ← firstMentions, hAgain, firstMentions]

end Tokens

section Declarations

/-- The names of declarations are told from their normal forms. -/
theorem map_name_normalDeclarations {kind : DeclarationKind}
    {declarations : List (String × List String)}
    (h : ∀ d ∈ declarations, Admissible (nameOf kind d.1)) :
    ((normalDeclarations kind declarations).map fun d => nameOf kind d.1) =
      declarations.map fun d => nameOf kind d.1 := by
  rw [normalDeclarations, List.map_map]
  exact List.map_congr_left fun d hd => nameOf_mark_append (h d hd)

theorem map_entryOf_normalDeclarations {kind : DeclarationKind}
    {declarations : List (String × List String)}
    (h : ∀ d ∈ declarations, Admissible (nameOf kind d.1)) :
    (normalDeclarations kind declarations).map (Catalog.entryOf kind) =
      declarations.map (Catalog.entryOf kind) := by
  rw [normalDeclarations, List.map_map]
  apply List.map_congr_left
  intro d hd
  simp only [Function.comp_apply, Catalog.entryOf, nameOf_mark_append (h d hd),
    principalsOf_firstMentions]

theorem nameOf_host_trim (written : String) :
    nameOf .host (trim written) = nameOf .host written := by
  rw [nameOf_host, nameOf_host, trim_trim]

theorem map_name_normalHosts (hosts : List (String × String)) :
    ((normalHosts hosts).map fun d => nameOf .host d.1) =
      hosts.map fun d => nameOf .host d.1 := by
  rw [normalHosts, List.map_map]
  exact List.map_congr_left fun d _ => nameOf_host_trim d.1

theorem map_hostEntryOf_normalHosts (hosts : List (String × String)) :
    (normalHosts hosts).map Catalog.hostEntryOf = hosts.map Catalog.hostEntryOf := by
  rw [normalHosts, List.map_map]
  apply List.map_congr_left
  intro d _
  simp only [Function.comp_apply, Catalog.hostEntryOf, nameOf_host_trim, trim_trim]

theorem AddressRange.read?_trim (s : String) : read? (trim s) = read? s := by
  rw [read?, read?, trim_trim]

namespace Catalog

theorem claimsOf_eq_map {δ : Type} (kind : DeclarationKind) (declarations : List (String × δ)) :
    claimsOf kind declarations = (declarations.map fun d => nameOf kind d.1).map (·, kind) := by
  simp [claimsOf, Function.comp_def]

variable {groups tags : Table String (List String)} {hosts : Table String String}

theorem Declarable.admissible_declarations (h : Declarable groups tags hosts) :
    (∀ d ∈ groups, Admissible (nameOf .group d.1)) ∧
    (∀ d ∈ tags, Admissible (nameOf .tag d.1)) := by
  have hNames := h.admissible
  simp only [declaredNames, List.forall_mem_append, List.forall_mem_map] at hNames
  exact hNames.1

theorem declaredNames_normal (h : Declarable groups tags hosts) :
    declaredNames (normalDeclarations .group groups) (normalDeclarations .tag tags)
      (normalHosts hosts) = declaredNames groups tags hosts := by
  obtain ⟨hGroups, hTags⟩ := h.admissible_declarations
  rw [declaredNames, map_name_normalDeclarations hGroups, map_name_normalDeclarations hTags,
    map_name_normalHosts, declaredNames]

/-- What can be declared can be declared in its normal form. -/
theorem Declarable.normal (h : Declarable groups tags hosts) :
    Declarable (normalDeclarations .group groups) (normalDeclarations .tag tags)
      (normalHosts hosts) := by
  refine ⟨?_, ?_, ?_⟩
  · rw [declaredNames_normal h]
    exact h.admissible
  · rw [declaredNames_normal h]
    exact h.distinct
  · intro d hd
    obtain ⟨written, hWritten, rfl⟩ := List.mem_map.mp hd
    rw [AddressRange.read?_trim]
    exact h.addresses written hWritten

/-- Declarations in their normal form make the same catalog. -/
theorem declared_normal (h : Declarable groups tags hosts) :
    declared (normalDeclarations .group groups) (normalDeclarations .tag tags)
      (normalHosts hosts) = declared groups tags hosts := by
  obtain ⟨hGroups, hTags⟩ := h.admissible_declarations
  simp only [declared, withGroups, withTags, withHosts, claimsOf_eq_map,
    map_name_normalDeclarations hGroups, map_name_normalDeclarations hTags, map_name_normalHosts,
    map_entryOf_normalDeclarations hGroups, map_entryOf_normalDeclarations hTags,
    map_hostEntryOf_normalHosts]

end Catalog

end Declarations

section Rules

theorem AccessSpec.rule_normal (spec : AccessSpec) : spec.normal.rule = spec.rule := by
  simp [rule, normal, AccessRule.read, Function.comp_def]

theorem ShellSpec.rule_normal (spec : ShellSpec) : spec.normal.rule = spec.rule := by
  simp [rule, normal, ShellRule.read, Function.comp_def]

theorem Source.ruleSet_normal (source : Source) (grants : List (Network × List String))
    (name : String) (environment : Option String) :
    (source.normal grants name environment).ruleSet = source.ruleSet := by
  have hAcls : (source.acls.map AccessSpec.normal).map AccessSpec.rule =
      source.acls.map AccessSpec.rule := by
    rw [List.map_map]
    exact List.map_congr_left fun spec _ => AccessSpec.rule_normal spec
  have hSsh : (source.ssh.map ShellSpec.normal).map ShellSpec.rule =
      source.ssh.map ShellSpec.rule := by
    rw [List.map_map]
    exact List.map_congr_left fun spec _ => ShellSpec.rule_normal spec
  rw [ruleSet_eq, ruleSet_eq, normal, hAcls, hSsh]

end Rules

section Grants

variable {grants : List (Network × List String)}

theorem map_text_unitedGrants (hRead : ∀ g ∈ grants, ∃ s, Network.read s = .ok g.1) :
    ((unitedGrants grants).map fun g => g.1.text) = (grants.map fun g => g.1.text).eraseDups := by
  rw [Approvals.eraseDups_map_text hRead, unitedGrants, List.map_map]
  rfl

/-- Among united grants a network is granted only once. -/
theorem approversOf_unitedGrants (hRead : ∀ g ∈ grants, ∃ s, Network.read s = .ok g.1)
    {network : Network} (hNetwork : network ∈ grants.map Prod.fst) :
    Approvals.approversOf (unitedGrants grants) network.text =
      firstMentions ((grants.filter fun g => g.1 = network).flatMap Prod.snd) := by
  have hOnly : ((grants.map Prod.fst).eraseDups.filter fun n => n.text = network.text) =
      [network] := by
    have hSame : ((grants.map Prod.fst).eraseDups.filter fun n => n.text = network.text) =
        (grants.map Prod.fst).eraseDups.filter (· == network) := by
      apply List.filter_congr
      intro n hn
      rw [Bool.eq_iff_iff, decide_eq_true_eq, beq_iff_eq]
      exact ⟨Approvals.text_injOn hRead n (List.mem_eraseDups.mp hn) network hNetwork,
        fun hEq => hEq ▸ rfl⟩
    rw [hSame, List.filter_beq, List.count_eq_one_of_mem (nodup_eraseDups _)
      (List.mem_eraseDups.mpr hNetwork), List.replicate_one]
  rw [Approvals.approversOf, unitedGrants, List.filter_map]
  simp only [Function.comp_def, hOnly, List.map_singleton, List.flatMap_singleton]
  exact map_trim_of_trimmed fun _ => trim_of_mem_firstMentions

/-- United grants approve the same principals for the same networks. -/
theorem granted_normal (exitNode : List String)
    (hRead : ∀ g ∈ grants, ∃ s, Network.read s = .ok g.1) :
    Approvals.granted (firstMentions exitNode) (unitedGrants grants) =
      .granted exitNode grants := by
  have hExit : ((firstMentions exitNode).map trim).eraseDups = (exitNode.map trim).eraseDups :=
    firstMentions_firstMentions exitNode
  have hNetworks : ((unitedGrants grants).map fun g => g.1.text).eraseDups =
      (grants.map fun g => g.1.text).eraseDups := by
    rw [map_text_unitedGrants hRead, eraseDups_of_nodup (nodup_eraseDups _)]
  rw [Approvals.granted, hExit, hNetworks, Approvals.granted]
  congr 1
  apply List.map_congr_left
  intro text hText
  rw [Approvals.eraseDups_map_text hRead] at hText
  obtain ⟨network, hNetwork, rfl⟩ := List.mem_map.mp hText
  rw [List.mem_eraseDups] at hNetwork
  dsimp only
  rw [approversOf_unitedGrants hRead hNetwork, Approvals.approversOf_text hRead hNetwork,
    firstMentions, eraseDups_of_nodup (nodup_eraseDups _)]

/-- The united grants are what the routes of the normal source grant. -/
theorem grants_normal (hRead : ∀ g ∈ grants, ∃ s, Network.read s = .ok g.1) :
    ((unitedGrants grants).map fun g => (⟨g.1.text, g.2⟩ : RouteSpec)).mapM RouteSpec.grant? =
      .ok (unitedGrants grants) := by
  rw [mapM_eq_ok_iff, List.forall₂_map_left_iff, List.forall₂_same]
  rintro ⟨network, approvers⟩ hIn
  obtain ⟨n, hn, hEq⟩ := List.mem_map.mp hIn
  obtain ⟨rfl, -⟩ := Prod.mk.inj hEq
  obtain ⟨g, hg, rfl⟩ := List.mem_map.mp (List.mem_eraseDups.mp hn)
  obtain ⟨s, hs⟩ := hRead g hg
  rw [RouteSpec.grant?_eq_ok_iff, Network.trim_text]
  exact ⟨Network.read_text_of_read hs, rfl⟩

end Grants

/-- A source has the document of its normal form. -/
theorem Source.document_normal {source : Source} {document : Document}
    {grants : List (Network × List String)} (h : source.document = .ok document)
    (hGrants : source.routes.mapM RouteSpec.grant? = .ok grants) (name : String)
    (environment : Option String) :
    (source.normal grants name environment).document = .ok document := by
  obtain ⟨hDeclarable, found, hFound, rfl⟩ := document_eq_ok_iff.mp h
  obtain rfl : grants = found := by
    rw [hGrants] at hFound
    cases hFound
    rfl
  have hRead := exists_read_of_grants hGrants
  refine document_eq_ok_iff.mpr
    ⟨hDeclarable.normal, unitedGrants grants, grants_normal hRead, ?_⟩
  rw [ruleSet_normal]
  simp only [normal, Catalog.declared_normal hDeclarable, granted_normal _ hRead]

end Tailnet
