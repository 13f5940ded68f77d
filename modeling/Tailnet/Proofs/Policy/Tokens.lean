import Tailnet.Proofs.Policy.Building
import Tailnet.Proofs.Value

/-!
The tokens of a policy. Every principal of a document stands in the policy that it is written as,
and every token of the policy is one of theirs.
-/

namespace Tailnet

open Text

/-- The principals an access rule speaks of. -/
def AccessRule.principals (rule : AccessRule) : List Principal :=
  rule.sources ++ rule.destinations.map Destination.target

/-- The principals a shell rule speaks of. -/
def ShellRule.principals (rule : ShellRule) : List Principal :=
  rule.sources ++ rule.destinations

/-- Those who may approve exit nodes or routes. -/
def Approvals.principals (approvals : Approvals) : List Principal :=
  approvals.exitNode.values ++ approvals.routes.values.flatMap Table.values

namespace Document

/-- The principals that members, owners, rules and grants are made of. -/
def principals (document : Document) : List Principal :=
  document.catalog.groups.values.flatMap Entry.principals ++
    document.catalog.tags.values.flatMap Entry.principals ++
    document.access.flatMap AccessRule.principals ++
    document.shell.flatMap ShellRule.principals ++
    document.approvals.principals

end Document

/-- The tokens of principals in a policy as data: members of groups, owners of tags, sources and
targets of access rules, sources and destinations of shell rules, and approvers. -/
def policyTokens (policy : Value) : List String :=
  (policy.part "groups").entryValues.flatMap Value.textItems ++
    (policy.part "tagOwners").entryValues.flatMap Value.textItems ++
    ((policy.part "acls").listItems.flatMap fun rule =>
      (rule.part "src").textItems ++
        (rule.part "dst").textItems.map fun token => (Destination.read token).target.raw) ++
    ((policy.part "ssh").listItems.flatMap fun rule =>
      (rule.part "src").textItems ++ (rule.part "dst").textItems) ++
    (((policy.part "autoApprovers").part "exitNode").textItems ++
      ((policy.part "autoApprovers").part "routes").entryValues.flatMap Value.textItems)

section References

theorem map_principal_referencesAt (location : Path) (principals : List Principal) :
    (referencesAt location principals).map Reference.principal = principals := by
  simp [referencesAt, Function.comp_def, List.zipIdx_map_fst]

theorem AccessRule.map_principal_references (rule : AccessRule) (index : Nat) :
    (rule.references index).map Reference.principal = rule.principals := by
  simp only [references, List.map_append, map_principal_referencesAt, principals]

theorem ShellRule.map_principal_references (rule : ShellRule) (index : Nat) :
    (rule.references index).map Reference.principal = rule.principals := by
  simp only [references, List.map_append, map_principal_referencesAt, principals]

/-- Positions only tell where things stand. -/
theorem map_flatMap_zipIdx {α β γ : Type} {f : α × Nat → List β} {g : β → γ} {h : α → List γ}
    (hItem : ∀ a i, (f (a, i)).map g = h a) (items : List α) (start : Nat) :
    ((items.zipIdx start).flatMap f).map g = items.flatMap h := by
  induction items generalizing start with
  | nil => rfl
  | cons item rest ih =>
      rw [List.zipIdx_cons, List.flatMap_cons, List.map_append, hItem, ih, List.flatMap_cons]

theorem Approvals.map_principal_references (approvals : Approvals) :
    approvals.references.map Reference.principal = approvals.principals := by
  simp only [references, List.map_append, map_principal_referencesAt, principals, List.map_flatMap,
    Table.values, List.flatMap_map]

theorem Source.map_principal_references (source : Source) (approvals : Approvals) :
    (source.ruleSet.references ++ approvals.references).map Reference.principal =
      (source.acls.map AccessSpec.rule).flatMap AccessRule.principals ++
        (source.ssh.map ShellSpec.rule).flatMap ShellRule.principals ++ approvals.principals := by
  rw [ruleSet_eq, List.map_append, List.map_append, Approvals.map_principal_references,
    map_flatMap_zipIdx AccessRule.map_principal_references,
    map_flatMap_zipIdx ShellRule.map_principal_references]

end References

section Reading

theorem Principal.read_raw_read (token : String) : read (read token).raw = read token := by
  rw [raw_read, read_trim]

theorem trim_of_mem_map_trim {tokens : List String} {token : String}
    (h : token ∈ tokens.map trim) : trim token = token := by
  obtain ⟨written, -, rfl⟩ := List.mem_map.mp h
  exact trim_trim written

theorem Principal.read_raw_of_mem {tokens : List String} {p : Principal}
    (hTrimmed : ∀ token ∈ tokens, trim token = token)
    (h : p ∈ tokens.eraseDups.map Principal.ofToken) : read p.raw = p := by
  obtain ⟨token, hToken, rfl⟩ := List.mem_map.mp h
  rw [raw_ofToken, read_of_trimmed (hTrimmed token (List.mem_eraseDups.mp hToken))]

theorem read_raw_of_mem_entries {kind : DeclarationKind}
    {declarations : List (String × List String)} {p : Principal}
    (h : p ∈ (Table.values (declarations.map (Catalog.entryOf kind))).flatMap Entry.principals) :
    Principal.read p.raw = p := by
  obtain ⟨entry, hEntry, hIn⟩ := List.mem_flatMap.mp h
  rw [Table.values, List.map_map] at hEntry
  obtain ⟨declaration, -, rfl⟩ := List.mem_map.mp hEntry
  simp only [Function.comp_apply, Catalog.entryOf, principalsOf_eq] at hIn
  exact Principal.read_raw_of_mem (fun _ => trim_of_mem_map_trim) hIn

theorem AccessSpec.read_raw_of_mem {spec : AccessSpec} {p : Principal}
    (h : p ∈ spec.rule.principals) : Principal.read p.raw = p := by
  rcases List.mem_append.mp h with hSource | hTarget
  · obtain ⟨token, -, rfl⟩ := List.mem_map.mp hSource
    exact Principal.read_raw_read token
  · obtain ⟨destination, hDestination, rfl⟩ := List.mem_map.mp hTarget
    obtain ⟨token, -, rfl⟩ := List.mem_map.mp hDestination
    obtain ⟨target, hTarget⟩ := Destination.exists_target_eq_read token
    rw [hTarget]
    exact Principal.read_raw_read target

theorem ShellSpec.read_raw_of_mem {spec : ShellSpec} {p : Principal}
    (h : p ∈ spec.rule.principals) : Principal.read p.raw = p := by
  rcases List.mem_append.mp h with hSource | hDestination
  · obtain ⟨token, -, rfl⟩ := List.mem_map.mp hSource
    exact Principal.read_raw_read token
  · obtain ⟨token, -, rfl⟩ := List.mem_map.mp hDestination
    exact Principal.read_raw_read token

theorem Approvals.read_raw_of_mem_granted {exitNode : List String}
    {grants : List (Network × List String)} {p : Principal}
    (h : p ∈ (granted exitNode grants).principals) : Principal.read p.raw = p := by
  rcases List.mem_append.mp h with hExit | hRoute
  · rw [granted, Table.values_tabulate] at hExit
    exact Principal.read_raw_of_mem (fun _ => trim_of_mem_map_trim) hExit
  · obtain ⟨approvers, hApprovers, hIn⟩ := List.mem_flatMap.mp hRoute
    rw [granted, Table.values_tabulate] at hApprovers
    obtain ⟨network, -, rfl⟩ := List.mem_map.mp hApprovers
    rw [Table.values_tabulate] at hIn
    refine Principal.read_raw_of_mem ?_ hIn
    intro token hToken
    obtain ⟨grant, -, hMem⟩ := List.mem_flatMap.mp hToken
    exact trim_of_mem_map_trim hMem

/-- A document whose principals and destinations are those of their own tokens. -/
structure Document.IsRead (document : Document) : Prop where
  principals : ∀ p ∈ document.principals, Principal.read p.raw = p
  destinations : ∀ rule ∈ document.access, ∀ d ∈ rule.destinations,
    Destination.read d.raw = d

/-- Everything in the document of a source was read from a token. -/
theorem Source.isRead_of_document {source : Source} {document : Document}
    (h : source.document = .ok document) : document.IsRead := by
  obtain ⟨-, grants, -, rfl⟩ := document_eq_ok_iff.mp h
  constructor
  · intro p hp
    simp only [Document.principals, Document.build, Catalog.close, ruleSet_eq,
      List.mem_append] at hp
    rcases hp with (((hGroup | hTag) | hAccess) | hShell) | hApprover
    · exact read_raw_of_mem_entries hGroup
    · exact read_raw_of_mem_entries hTag
    · obtain ⟨rule, hRule, hIn⟩ := List.mem_flatMap.mp hAccess
      obtain ⟨spec, -, rfl⟩ := List.mem_map.mp hRule
      exact AccessSpec.read_raw_of_mem hIn
    · obtain ⟨rule, hRule, hIn⟩ := List.mem_flatMap.mp hShell
      obtain ⟨spec, -, rfl⟩ := List.mem_map.mp hRule
      exact ShellSpec.read_raw_of_mem hIn
    · exact Approvals.read_raw_of_mem_granted hApprover
  · intro rule hRule d hd
    simp only [Document.build, ruleSet_eq] at hRule
    obtain ⟨spec, -, rfl⟩ := List.mem_map.mp hRule
    obtain ⟨token, -, rfl⟩ := List.mem_map.mp hd
    rw [Destination.raw_read, Destination.read_trim]

end Reading

section Parts

namespace Document

theorem entryValues_entriesValue (mark : String) (entries : List Entry) :
    (entriesValue mark entries).entryValues.flatMap Value.textItems =
      (entries.flatMap Entry.principals).map Principal.raw := by
  simp [entriesValue, List.flatMap_map, List.map_flatMap]

/-- Without groups there is no section for them, and no token in it. -/
theorem entryValues_groups_toValue (document : Document) :
    (document.toValue.part "groups").entryValues.flatMap Value.textItems =
      (document.catalog.groups.values.flatMap Entry.principals).map Principal.raw := by
  rw [toValue]
  split
  case isTrue hEmpty =>
    rw [List.isEmpty_iff] at hEmpty
    simp [Value.part_record_cons, hEmpty, Table.values]
  case isFalse hSome =>
    rw [List.singleton_append, Value.part_record_cons, if_pos rfl, entryValues_entriesValue]

/-- The sections that every document has. -/
theorem parts_toValue (document : Document) :
    document.toValue.part "tagOwners" = entriesValue tagMark document.catalog.tags.values ∧
    document.toValue.part "hosts" =
      .record (document.catalog.hosts.values.map fun h => (h.name, .text h.address)) ∧
    document.toValue.part "acls" = .list (document.access.map AccessRule.toValue) ∧
    document.toValue.part "ssh" = .list (document.shell.map ShellRule.toValue) ∧
    document.toValue.part "autoApprovers" = document.approvals.toValue := by
  rw [toValue]
  split <;> simp [Value.part_record_cons]

theorem tokens_accessRule {rule : AccessRule}
    (hRead : ∀ d ∈ rule.destinations, Destination.read d.raw = d) :
    ((rule.toValue.part "src").textItems ++
      (rule.toValue.part "dst").textItems.map fun token => (Destination.read token).target.raw) =
      rule.principals.map Principal.raw := by
  have hTargets : (rule.destinations.map Destination.raw).map
      (fun token => (Destination.read token).target.raw) =
      (rule.destinations.map Destination.target).map Principal.raw := by
    rw [List.map_map, List.map_map]
    apply List.map_congr_left
    intro d hd
    rw [Function.comp_apply, Function.comp_apply, hRead d hd]
  simp [AccessRule.toValue, Value.part_record_cons, AccessRule.principals, ← hTargets]

theorem tokens_shellRule (rule : ShellRule) :
    (rule.toValue.part "src").textItems ++ (rule.toValue.part "dst").textItems =
      rule.principals.map Principal.raw := by
  simp [ShellRule.toValue, Value.part_record_cons, ShellRule.principals]

theorem tokens_approvals (approvals : Approvals) :
    (approvals.toValue.part "exitNode").textItems ++
      (approvals.toValue.part "routes").entryValues.flatMap Value.textItems =
      approvals.principals.map Principal.raw := by
  simp [Approvals.toValue, Value.part_record_cons, Approvals.principals, List.flatMap_map,
    List.map_flatMap, Table.values]

/-- The tokens of a document's policy are those of its principals. -/
theorem policyTokens_toValue {document : Document} (h : document.IsRead) :
    policyTokens document.toValue = document.principals.map Principal.raw := by
  obtain ⟨hTags, -, hAcls, hSsh, hApprovers⟩ := parts_toValue document
  have hAccess : (document.access.map AccessRule.toValue).flatMap (fun rule =>
      (rule.part "src").textItems ++
        (rule.part "dst").textItems.map fun token => (Destination.read token).target.raw) =
      (document.access.flatMap AccessRule.principals).map Principal.raw := by
    rw [List.flatMap_map, List.map_flatMap]
    exact List.flatMap_congr fun rule hRule => tokens_accessRule (h.destinations rule hRule)
  have hShell : (document.shell.map ShellRule.toValue).flatMap (fun rule =>
      (rule.part "src").textItems ++ (rule.part "dst").textItems) =
      (document.shell.flatMap ShellRule.principals).map Principal.raw := by
    rw [List.flatMap_map, List.map_flatMap]
    exact List.flatMap_congr fun rule _ => tokens_shellRule rule
  rw [policyTokens, entryValues_groups_toValue, hTags, entryValues_entriesValue, hAcls, hSsh,
    hApprovers, Value.listItems_list, Value.listItems_list, hAccess, hShell, tokens_approvals]
  simp only [principals, List.map_append]

end Document

end Parts

end Tailnet
