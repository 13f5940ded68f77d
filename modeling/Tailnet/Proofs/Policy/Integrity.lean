import Tailnet.Proofs.Catalog.Lookup
import Tailnet.Proofs.Policy.Tokens

/-!
Referential integrity of compiled policies: tags, groups and hosts of which a policy speaks are
declared in it. A look-up removes a mark that is still there behind the mark of the token, so a
token whose mark is doubled passes for the one whose mark is not.
-/

namespace Tailnet

open Text

/-- What a token in a policy has to refer to there, by its kind. -/
structure Resolves (policy : Value) (token : String) : Prop where
  tag : startsWith tagMark token = true →
    ∃ owners ≠ [], (policy.part "tagOwners").field? token = some (.texts owners)
  group : startsWith groupMark token = true →
    ∃ members, (policy.part "groups").field? token = some (.texts members)
  autogroup : startsWith autogroupMark token = true →
    ∃ name ∈ knownAutogroups, token = autogroupMark ++ name
  host : (Principal.read token).kind = .host →
    ∃ address, (policy.part "hosts").field? token = some (.text address)
  address : (Principal.read token).kind = .address → (AddressRange.read? token).isSome = true

/-- Whether a token begins twice with the mark of a tag or of a group. -/
def isDoublyMarked (token : String) : Bool :=
  [tagMark, groupMark].any fun mark => startsWith (mark ++ mark) token

section Validity

namespace Catalog

theorem finding?_eq_ok_none_of_checkReference {catalog : Catalog} {reference : Reference}
    (h : catalog.checkReference reference = .ok []) :
    catalog.finding? reference.principal = .ok none := by
  obtain ⟨found, hFound, hNone⟩ := bind_eq_ok_iff.mp h
  cases found with
  | none => exact hFound
  | some finding => cases hNone

theorem finding?_eq_ok_none_of_checkOwner {catalog : Catalog} {reference : Reference}
    (h : catalog.checkOwner reference = .ok []) :
    catalog.finding? reference.principal = .ok none := by
  unfold checkOwner at h
  split at h
  · exact finding?_eq_ok_none_of_checkReference h
  · cases h

theorem map_principal_ownerReferences (catalog : Catalog) :
    catalog.ownerReferences.map Reference.principal =
      catalog.tags.values.flatMap Entry.principals := by
  simp only [ownerReferences, List.map_flatMap, map_principal_referencesAt]

theorem map_principal_memberReferences (catalog : Catalog) :
    catalog.memberReferences.map Reference.principal =
      catalog.groups.values.flatMap Entry.principals := by
  simp only [memberReferences, List.map_flatMap, map_principal_referencesAt]

end Catalog

/-- If a document is not violated, nothing is wrong with any of its principals, wherever they
stand. -/
theorem Source.finding?_eq_ok_none {source : Source} {document : Document}
    (hDocument : source.document = .ok document) (hValid : document.violations = .ok []) :
    ∀ p ∈ document.principals, document.catalog.finding? p = .ok none := by
  have hReferences : document.references.map Reference.principal =
      document.access.flatMap AccessRule.principals ++
        document.shell.flatMap ShellRule.principals ++ document.approvals.principals := by
    obtain ⟨-, grants, -, rfl⟩ := document_eq_ok_iff.mp hDocument
    simp only [Document.build, map_principal_references]
    rw [ruleSet_eq]
  simp only [Document.violations, bind_eq_ok_iff, pure_eq_ok_iff, List.append_eq_nil_iff] at hValid
  obtain ⟨owners, hOwners, members, hMembers, others, hOthers, hNone⟩ := hValid
  obtain ⟨⟨⟨⟨⟨hNoOwner, hNoMember⟩, hNoOther⟩, -⟩, -⟩, -⟩ := hNone
  have hChecked : ∀ references : List Reference,
      (∀ r ∈ references, document.catalog.finding? r.principal = .ok none) →
      ∀ p ∈ references.map Reference.principal, document.catalog.finding? p = .ok none := by
    intro references hAll p hp
    obtain ⟨r, hr, rfl⟩ := List.mem_map.mp hp
    exact hAll r hr
  have hOwner := hChecked _ fun r hr => Catalog.finding?_eq_ok_none_of_checkOwner
    (eq_ok_nil_of_mapM_flatten hOwners hNoOwner r hr)
  have hMember := hChecked _ fun r hr => Catalog.finding?_eq_ok_none_of_checkReference
    (eq_ok_nil_of_mapM_flatten hMembers hNoMember r hr)
  have hOther := hChecked _ fun r hr => Catalog.finding?_eq_ok_none_of_checkReference
    (eq_ok_nil_of_mapM_flatten hOthers hNoOther r hr)
  rw [Catalog.map_principal_ownerReferences] at hOwner
  rw [Catalog.map_principal_memberReferences] at hMember
  rw [hReferences] at hOther
  intro p hp
  simp only [Document.principals, List.append_assoc, List.mem_append] at hp hOther
  rcases hp with hGroup | hTag | hRest
  · exact hMember p hGroup
  · exact hOwner p hTag
  · exact hOther p hRest

end Validity

section Marks

/-- The kinds of declarations that are referred to with a mark, and what such principals are. -/
def DeclarationKind.marked? : DeclarationKind → Option PrincipalKind
  | tag => some .tag
  | group => some .group
  | host => none

theorem DeclarationKind.mark?_of_marked? {kind : DeclarationKind} {principalKind : PrincipalKind}
    (h : kind.marked? = some principalKind) : principalKind.mark? = some kind.mark := by
  cases kind <;> cases h <;> rfl

theorem isDoublyMarked_iff {token : String} :
    isDoublyMarked token = true ↔
      ∃ kind principalKind, DeclarationKind.marked? kind = some principalKind ∧
        ∃ rest, token = kind.mark ++ (kind.mark ++ rest) := by
  simp only [isDoublyMarked, List.any_eq_true, startsWith_iff, String.append_assoc]
  constructor
  · rintro ⟨mark, hMark, rest, rfl⟩
    rcases List.mem_cons.mp hMark with rfl | hMark
    · exact ⟨.tag, .tag, rfl, rest, rfl⟩
    · rw [List.mem_singleton.mp hMark]
      exact ⟨.group, .group, rfl, rest, rfl⟩
  · rintro ⟨kind, principalKind, hKind, rest, rfl⟩
    refine ⟨kind.mark, ?_, rest, rfl⟩
    cases kind <;> cases hKind <;> simp [DeclarationKind.mark]

end Marks

section Sections

namespace Document

theorem field?_entriesValue_iff {mark token : String} {entries : List Entry} {value : Value}
    (hNames : (entries.map Entry.name).Nodup) :
    (entriesValue mark entries).field? token = some value ↔
      ∃ entry ∈ entries, token = mark ++ entry.name ∧
        value = .texts (entry.principals.map Principal.raw) := by
  have hKeys : (Table.keys (entries.map fun entry =>
      (mark ++ entry.name, Value.texts (entry.principals.map Principal.raw)))).Nodup := by
    simpa [Table.keys, Function.comp_def] using hNames.map (append_right_injective mark)
  rw [entriesValue, Value.field?_record]
  constructor
  · intro h
    obtain ⟨entry, hEntry, hPair⟩ := List.mem_map.mp (Table.mem_of_get?_eq_some h)
    cases hPair
    exact ⟨entry, hEntry, rfl, rfl⟩
  · rintro ⟨entry, hEntry, rfl, rfl⟩
    exact Table.get?_eq_some_of_mem hKeys (List.mem_map.mpr ⟨entry, hEntry, rfl⟩)

/-- The section for groups, if there is one, holds them all. -/
theorem field?_groups_toValue (document : Document) (token : String) :
    (document.toValue.part "groups").field? token =
      (entriesValue groupMark document.catalog.groups.values).field? token := by
  rw [toValue]
  split
  case isTrue hEmpty =>
    rw [List.isEmpty_iff] at hEmpty
    simp [Value.part_record_cons, hEmpty, Table.values, entriesValue, Value.field?_record]
    rfl
  case isFalse hSome =>
    rw [List.singleton_append, Value.part_record_cons, if_pos rfl]

end Document

end Sections

section Resolution

variable {source : Source} {document : Document}

namespace Source

theorem nodup_names (h : source.document = .ok document) (kind : DeclarationKind) :
    (document.catalog.namesOf kind).Nodup := by
  obtain ⟨hDeclarable, grants, -, rfl⟩ := document_eq_ok_iff.mp h
  exact Catalog.nodup_namesOf hDeclarable kind

theorem isName_of_mem_names (h : source.document = .ok document) {kind : DeclarationKind}
    {name : String} (hName : name ∈ document.catalog.namesOf kind) :
    isName name.toList = true := by
  obtain ⟨hDeclarable, grants, -, rfl⟩ := document_eq_ok_iff.mp h
  exact (Catalog.admissible_of_mem_namesOf hDeclarable hName).1

theorem map_name_entries (h : source.document = .ok document) :
    document.catalog.tags.values.map Entry.name = document.catalog.namesOf .tag ∧
    document.catalog.groups.values.map Entry.name = document.catalog.namesOf .group ∧
    document.catalog.hosts.values.map HostEntry.name = document.catalog.namesOf .host := by
  obtain ⟨-, grants, -, rfl⟩ := document_eq_ok_iff.mp h
  exact Catalog.map_name_declared source.groups source.tagOwners source.hosts

theorem field?_tagOwners_iff (h : source.document = .ok document) {token : String}
    {value : Value} :
    (document.toValue.part "tagOwners").field? token = some value ↔
      ∃ entry ∈ document.catalog.tags.values, token = tagMark ++ entry.name ∧
        value = .texts (entry.principals.map Principal.raw) := by
  rw [(Document.parts_toValue document).1]
  apply Document.field?_entriesValue_iff
  rw [(map_name_entries h).1]
  exact nodup_names h .tag

theorem field?_groups_iff (h : source.document = .ok document) {token : String} {value : Value} :
    (document.toValue.part "groups").field? token = some value ↔
      ∃ entry ∈ document.catalog.groups.values, token = groupMark ++ entry.name ∧
        value = .texts (entry.principals.map Principal.raw) := by
  rw [Document.field?_groups_toValue]
  apply Document.field?_entriesValue_iff
  rw [(map_name_entries h).2.1]
  exact nodup_names h .group

theorem field?_hosts (h : source.document = .ok document) {host : HostEntry}
    (hHost : host ∈ document.catalog.hosts.values) :
    (document.toValue.part "hosts").field? host.name = some (.text host.address) := by
  rw [(Document.parts_toValue document).2.1]
  apply Value.field?_record_of_mem
  · have hNames : (document.catalog.hosts.values.map HostEntry.name).Nodup := by
      rw [(map_name_entries h).2.2]
      exact nodup_names h .host
    simpa [Table.keys, Function.comp_def] using hNames
  · exact List.mem_map.mpr ⟨host, hHost, rfl⟩

end Source

/-- What resolves has no doubled mark, for no declared name begins with a mark. -/
theorem Resolves.isDoublyMarked_eq_false (h : source.document = .ok document) {token : String}
    (hResolves : Resolves document.toValue token) : isDoublyMarked token = false := by
  rw [← Bool.not_eq_true, isDoublyMarked_iff]
  rintro ⟨kind, principalKind, hKind, rest, rfl⟩
  have hNone {name : String} (hName : name ∈ document.catalog.namesOf kind)
      (hMarked : kind.mark ++ (kind.mark ++ rest) = kind.mark ++ name) : False := by
    have hEq : name = kind.mark ++ rest := append_right_injective kind.mark hMarked.symm
    have hMark : kind.mark ≠ "" := by cases kind <;> cases hKind <;> decide
    have hStarts := startsWith_mark_of_isName hMark (Source.isName_of_mem_names h hName)
    rw [startsWith_iff.mpr ⟨rest, hEq⟩] at hStarts
    cases hStarts
  obtain ⟨hTags, hGroups, -⟩ := Source.map_name_entries h
  cases kind with
  | tag =>
      obtain ⟨owners, -, hOwners⟩ := hResolves.tag (startsWith_iff.mpr ⟨_, rfl⟩)
      obtain ⟨entry, hEntry, hMarked, -⟩ := (Source.field?_tagOwners_iff h).mp hOwners
      exact hNone (hTags ▸ List.mem_map_of_mem hEntry) hMarked
  | group =>
      obtain ⟨members, hMembers⟩ := hResolves.group (startsWith_iff.mpr ⟨_, rfl⟩)
      obtain ⟨entry, hEntry, hMarked, -⟩ := (Source.field?_groups_iff h).mp hMembers
      exact hNone (hGroups ▸ List.mem_map_of_mem hEntry) hMarked
  | host => cases hKind

/-- Whether a token resolves depends on its kind alone. -/
theorem Resolves.of_principal {policy : Value} (p : Principal) (hRead : Principal.read p.raw = p)
    (hTag : p.kind = .tag →
      ∃ owners ≠ [], (policy.part "tagOwners").field? p.raw = some (.texts owners))
    (hGroup : p.kind = .group →
      ∃ members, (policy.part "groups").field? p.raw = some (.texts members))
    (hAutogroup : p.kind = .autogroup → p.name ∈ knownAutogroups)
    (hHost : p.kind = .host →
      ∃ address, (policy.part "hosts").field? p.raw = some (.text address))
    (hAddress : p.kind = .address → (AddressRange.read? p.raw).isSome = true) :
    Resolves policy p.raw := by
  have hTrimmed : trim p.raw = p.raw := by
    rw [← Principal.raw_read p.raw, hRead]
  have hOfToken : Principal.ofToken p.raw = p := by
    rw [← Principal.read_of_trimmed hTrimmed, hRead]
  have hKind {kind : PrincipalKind} {mark : String} (hMark : kind.mark? = some mark)
      (hStarts : startsWith mark p.raw = true) : p.kind = kind := by
    rw [← (Principal.kind_ofToken_eq_iff hMark).mpr hStarts, hOfToken]
  refine ⟨fun h => hTag (hKind rfl h), fun h => hGroup (hKind rfl h), ?_, ?_, ?_⟩
  · intro h
    have hAuto : p.kind = .autogroup := hKind rfl h
    refine ⟨p.name, hAutogroup hAuto, ?_⟩
    have hMark : (Principal.ofToken p.raw).kind.mark? = some autogroupMark := by
      rw [hOfToken, hAuto]
      rfl
    have hToken := Principal.eq_mark_append_name hMark
    rwa [hOfToken] at hToken
  · rw [hRead]
    exact hHost
  · rw [hRead]
    exact hAddress

attribute [local irreducible] Principal.read

/-- The mark of a kind before an admitted name is read as a principal of that kind. -/
theorem read_mark_append (kind : DeclarationKind) {principalKind : PrincipalKind}
    (hKind : kind.marked? = some principalKind) {name : String}
    (hName : isName name.toList = true) :
    Principal.read (kind.mark ++ name) = ⟨principalKind, name, kind.mark ++ name⟩ := by
  rw [Principal.read_of_trimmed (trim_eq_self_iff.mpr (isTrimmed_mark_append hName))]
  exact Principal.ofToken_mark_append (DeclarationKind.mark?_of_marked? hKind) name

theorem resolves_tag (h : source.document = .ok document) {entry : Entry}
    (hEntry : entry ∈ document.catalog.tags.values) (hOwners : entry.principals ≠ []) :
    Resolves document.toValue (tagMark ++ entry.name) := by
  have hName : entry.name ∈ document.catalog.namesOf .tag := by
    rw [← (Source.map_name_entries h).1]
    exact List.mem_map_of_mem hEntry
  have hRead : Principal.read (tagMark ++ entry.name) =
      ⟨.tag, entry.name, tagMark ++ entry.name⟩ :=
    read_mark_append .tag rfl (Source.isName_of_mem_names h hName)
  apply Resolves.of_principal ⟨.tag, entry.name, tagMark ++ entry.name⟩ hRead
  · intro _
    refine ⟨entry.principals.map Principal.raw, ?_, ?_⟩
    · rwa [Ne, List.map_eq_nil_iff]
    · exact (Source.field?_tagOwners_iff h).mpr ⟨entry, hEntry, rfl, rfl⟩
  all_goals
    intro hOther
    cases hOther

theorem resolves_group (h : source.document = .ok document) {entry : Entry}
    (hEntry : entry ∈ document.catalog.groups.values) :
    Resolves document.toValue (groupMark ++ entry.name) := by
  have hName : entry.name ∈ document.catalog.namesOf .group := by
    rw [← (Source.map_name_entries h).2.1]
    exact List.mem_map_of_mem hEntry
  have hRead : Principal.read (groupMark ++ entry.name) =
      ⟨.group, entry.name, groupMark ++ entry.name⟩ :=
    read_mark_append .group rfl (Source.isName_of_mem_names h hName)
  apply Resolves.of_principal ⟨.group, entry.name, groupMark ++ entry.name⟩ hRead
  case hGroup =>
    intro _
    exact ⟨_, (Source.field?_groups_iff h).mpr ⟨entry, hEntry, rfl, rfl⟩⟩
  all_goals
    intro hOther
    cases hOther

/-- What a look-up by the name behind a mark can show: it is the token itself that resolves, or
else the token has its mark twice and resolves without the first. -/
structure PassesFor (policy : Value) (token : String) : Prop where
  resolves_iff : Resolves policy token ↔ isDoublyMarked token = false
  single : isDoublyMarked token = true →
    ∃ mark ∈ [tagMark, groupMark], ∃ single, token = mark ++ single ∧ Resolves policy single

theorem Resolves.passesFor (h : source.document = .ok document) {token : String}
    (hResolves : Resolves document.toValue token) : PassesFor document.toValue token := by
  have hSingle := hResolves.isDoublyMarked_eq_false h
  refine ⟨⟨fun _ => hSingle, fun _ => hResolves⟩, ?_⟩
  intro hDoubly
  rw [hSingle] at hDoubly
  cases hDoubly

theorem passesFor_of_unmarked (h : source.document = .ok document) (kind : DeclarationKind)
    {principalKind : PrincipalKind} (hKind : kind.marked? = some principalKind) {name : String}
    (hResolves : Resolves document.toValue (kind.mark ++ unmarked kind name)) :
    PassesFor document.toValue (kind.mark ++ name) := by
  have hMark : kind.mark ∈ [tagMark, groupMark] := by
    cases kind <;> cases hKind <;> simp [DeclarationKind.mark]
  by_cases hStarts : startsWith kind.mark name = true
  · obtain ⟨rest, rfl⟩ := startsWith_iff.mp hStarts
    rw [unmarked_mark_append] at hResolves
    have hDoubly : isDoublyMarked (kind.mark ++ (kind.mark ++ rest)) = true :=
      isDoublyMarked_iff.mpr ⟨kind, principalKind, hKind, rest, rfl⟩
    refine ⟨⟨fun hBoth => hBoth.isDoublyMarked_eq_false h, ?_⟩, ?_⟩
    · intro hFalse
      rw [hDoubly] at hFalse
      cases hFalse
    · intro _
      exact ⟨kind.mark, hMark, kind.mark ++ rest, rfl, hResolves⟩
  · rw [unmarked_of_startsWith_eq_false (Bool.eq_false_iff.mpr hStarts)] at hResolves
    exact hResolves.passesFor h

/-- A principal with which nothing is wrong passes for one that resolves. -/
theorem passesFor_of_finding? (h : source.document = .ok document) {p : Principal}
    (hRead : Principal.read p.raw = p) (hFinding : document.catalog.finding? p = .ok none) :
    PassesFor document.toValue p.raw := by
  have hOfToken : Principal.ofToken p.raw = p := by
    have hTrimmed : trim p.raw = p.raw := by rw [← Principal.raw_read p.raw, hRead]
    rw [← Principal.read_of_trimmed hTrimmed, hRead]
  have hToken (mark : String) (hMark : p.kind.mark? = some mark) : p.raw = mark ++ p.name := by
    rw [← hOfToken] at hMark
    have hEq := Principal.eq_mark_append_name hMark
    rwa [hOfToken] at hEq
  have hPlain (hNone : p.kind.mark? = none) : p.name = p.raw := by
    rw [← hOfToken] at hNone
    have hEq := Principal.name_ofToken_of_mark?_eq_none hNone
    rwa [hOfToken] at hEq
  obtain ⟨hDeclarable, grants, -, rfl⟩ := Source.document_eq_ok_iff.mp h
  have hDeclared := Catalog.finding?_close _ p ▸ hFinding
  by_cases hTag : p.kind = .tag
  · obtain ⟨entry, hEntry, hName, hOwners⟩ := Catalog.exists_tag_of_finding? hTag hDeclared
    have hResolves := resolves_tag h hEntry hOwners
    rw [hName] at hResolves
    rw [hToken tagMark (by rw [hTag]; rfl)]
    exact passesFor_of_unmarked h .tag rfl hResolves
  by_cases hGroup : p.kind = .group
  · obtain ⟨entry, hEntry, hName⟩ := Catalog.exists_group_of_finding? hDeclarable hGroup hDeclared
    have hResolves := resolves_group h hEntry
    rw [hName] at hResolves
    rw [hToken groupMark (by rw [hGroup]; rfl)]
    exact passesFor_of_unmarked h .group rfl hResolves
  -- The other kinds are looked up by the token itself.
  apply Resolves.passesFor h
  apply Resolves.of_principal p hRead
  · exact fun hKind => absurd hKind hTag
  · exact fun hKind => absurd hKind hGroup
  · exact fun hKind => Catalog.mem_knownAutogroups_of_finding? hKind hFinding
  · intro hKind
    obtain ⟨host, hEntry, hName⟩ := Catalog.exists_host_of_finding? hDeclarable hKind hDeclared
    rw [hPlain (by rw [hKind]; rfl)] at hName
    exact ⟨host.address, hName ▸ Source.field?_hosts h hEntry⟩
  · exact fun hKind => Catalog.isSome_read?_of_finding? hKind hFinding

/-- In the policy that a source is compiled to, a token resolves exactly if its mark is not doubled,
and a token whose mark is doubled resolves without the first. -/
theorem resolves_iff_of_compile {lint : Bool} {indent : Option Int} {compilation : Compilation}
    {text : String} (hCompile : source.compile lint indent = .ok compilation)
    (hOutput : compilation.output = some text) :
    compilation.document.serialize indent = .ok text ∧
    ∀ token ∈ policyTokens compilation.document.toValue,
      (Resolves compilation.document.toValue token ↔ isDoublyMarked token = false) ∧
      (isDoublyMarked token = true → ∃ mark ∈ [tagMark, groupMark], ∃ single,
        token = mark ++ single ∧ Resolves compilation.document.toValue single) := by
  obtain ⟨document, hDocument, hValid, hText, rfl⟩ :=
    Source.compile_output_iff.mp ⟨hCompile, hOutput⟩
  refine ⟨hText, ?_⟩
  intro token hToken
  have hRead := Source.isRead_of_document hDocument
  rw [Document.policyTokens_toValue hRead] at hToken
  obtain ⟨p, hp, rfl⟩ := List.mem_map.mp hToken
  have hPasses := passesFor_of_finding? hDocument (hRead.principals p hp)
    (Source.finding?_eq_ok_none hDocument hValid p hp)
  exact ⟨hPasses.resolves_iff, hPasses.single⟩

/-- The policy of the office's source is an instance. -/
theorem resolves_iff_officeSource :
    ∃ compilation text, officeSource.compile true (some 2) = .ok compilation ∧
      compilation.output = some text ∧ compilation.document.serialize (some 2) = .ok text ∧
      ∀ token ∈ policyTokens compilation.document.toValue,
        (Resolves compilation.document.toValue token ↔ isDoublyMarked token = false) ∧
        (isDoublyMarked token = true → ∃ mark ∈ [tagMark, groupMark], ∃ single,
          token = mark ++ single ∧ Resolves compilation.document.toValue single) := by
  obtain ⟨compilation, text, hCompile, hText⟩ := exists_output_officeSource
  exact ⟨compilation, text, hCompile, hText, resolves_iff_of_compile hCompile hText⟩

end Resolution

/-- A source in which the mark of a tag is doubled. -/
def doubledTagSource : Source :=
  { officeSource with
    name := "policy"
    groups := []
    tagOwners := [("tag:server", ["admin"])]
    hosts := []
    acls := [⟨"accept", ["tag:tag:server"], ["tag:server:22"]⟩]
    ssh := []
    exitNode := []
    routes := [] }

/-- The source is compiled to a policy in which the doubly marked tag does not resolve. -/
theorem exists_unresolved_token :
    ∃ compilation text, doubledTagSource.compile true (some 2) = .ok compilation ∧
      compilation.output = some text ∧
      "tag:tag:server" ∈ policyTokens compilation.document.toValue ∧
      ¬ Resolves compilation.document.toValue "tag:tag:server" := by
  have hRun : (doubledTagSource.compile true (some 2)).toOption.any (fun c =>
      c.output.isSome && (policyTokens c.document.toValue).contains "tag:tag:server") = true := by
    decide +kernel
  cases hCompile : doubledTagSource.compile true (some 2) with
  | error cause =>
      rw [hCompile] at hRun
      cases hRun
  | ok compilation =>
      rw [hCompile] at hRun
      obtain ⟨hSome, hToken⟩ := (Bool.and_eq_true _ _).mp hRun
      obtain ⟨text, hText⟩ := Option.isSome_iff_exists.mp hSome
      obtain ⟨document, hDocument, -, -, rfl⟩ := Source.compile_output_iff.mp ⟨hCompile, hText⟩
      refine ⟨_, text, rfl, hText, List.contains_iff_mem.mp hToken, ?_⟩
      intro hResolves
      have hSingle := hResolves.isDoublyMarked_eq_false hDocument
      revert hSingle
      decide

end Tailnet
