import Tailnet.Proofs.Policy.Normal
import Tailnet.Proofs.Reading

/-!
Compilation of compiled policies. A policy as data is read as the normal form of the source that it
was compiled from, so it is compiled to the same document and to the same texts.
-/

namespace Tailnet

open Text

section Textual

theorem AccessSpec.isTextual_rendering (spec : AccessSpec) : spec.rendering.isTextual = true := by
  simp [rendering]

theorem ShellSpec.isTextual_rendering (spec : ShellSpec) : spec.rendering.isTextual = true := by
  cases hPeriod : spec.checkPeriod <;> simp [rendering, hPeriod]

theorem isTextual_declarationsRendering (kind : DeclarationKind)
    (declarations : List (String × List String)) :
    (declarationsRendering kind declarations).isTextual = true := by
  exact Value.isTextual_record_map fun _ _ => Value.isTextual_texts _

theorem isTextual_hostsRendering (hosts : List (String × String)) :
    (hostsRendering hosts).isTextual = true := by
  exact Value.isTextual_record_map fun _ _ => rfl

theorem isTextual_routesRendering (grants : List (Network × List String)) :
    (routesRendering grants).isTextual = true := by
  exact Value.isTextual_record_map fun _ _ => Value.isTextual_texts _

/-- A policy is made of texts alone. -/
theorem Source.isTextual_rendering (source : Source) (grants : List (Network × List String)) :
    (source.rendering grants).isTextual = true := by
  have hAcls := AccessSpec.isTextual_rendering
  have hSsh := ShellSpec.isTextual_rendering
  have hDeclarations := isTextual_declarationsRendering
  rw [rendering, sections]
  split <;> simp [hAcls, hSsh, hDeclarations, isTextual_hostsRendering, isTextual_routesRendering]

end Textual

section Reading

theorem declarationsRendering_eq (kind : DeclarationKind)
    (declarations : List (String × List String)) :
    declarationsRendering kind declarations =
      .record ((normalDeclarations kind declarations).map fun d => (d.1, .texts d.2)) := by
  rw [declarationsRendering, normalDeclarations, List.map_map]
  rfl

theorem hostsRendering_eq_record (hosts : List (String × String)) :
    hostsRendering hosts = .record ((normalHosts hosts).map fun d => (d.1, .text d.2)) := by
  rw [hostsRendering, normalHosts, List.map_map]
  rfl

/-- Different names are different behind the same mark. -/
theorem nodup_keys_normalDeclarations {kind : DeclarationKind}
    {declarations : List (String × List String)}
    (h : (declarations.map fun d => nameOf kind d.1).Nodup) :
    (Table.keys (normalDeclarations kind declarations)).Nodup := by
  have hMarked := h.map (append_right_injective kind.mark)
  rw [List.map_map] at hMarked
  rw [normalDeclarations, Table.keys, List.map_map]
  exact hMarked

theorem nodup_keys_normalHosts {hosts : List (String × String)}
    (h : (hosts.map fun d => nameOf .host d.1).Nodup) :
    (Table.keys (normalHosts hosts)).Nodup := by
  have hKeys : Table.keys (normalHosts hosts) = hosts.map fun d => nameOf .host d.1 := by
    rw [normalHosts, Table.keys, List.map_map]
    exact List.map_congr_left fun d _ => (nameOf_host d.1).symm
  rwa [hKeys]

namespace Source

variable {source : Source} {grants : List (Network × List String)}

theorem textLists_declarationsRendering {fields : List (String × Value)} (place : String)
    {kind : DeclarationKind} {declarations : List (String × List String)}
    (hPart : Table.get? fields place = some (declarationsRendering kind declarations))
    (hNames : (declarations.map fun d => nameOf kind d.1).Nodup) :
    (mapping (recordEntries fields) place >>= textLists place) =
      .ok (normalDeclarations kind declarations) := by
  have hTextual := isTextual_declarationsRendering kind declarations
  rw [declarationsRendering_eq] at hPart hTextual
  rw [mapping_recordEntries hPart hTextual, ok_bind]
  exact textLists_recordEntries place (nodup_keys_normalDeclarations hNames)

/-- Under its name each section is found, and nothing under the other names of a source. -/
theorem get?_sections (source : Source) (grants : List (Network × List String)) :
    let sections := source.sections grants
    Table.get? sections "groups" =
      (if source.groups = [] then none else some (declarationsRendering .group source.groups)) ∧
    Table.get? sections "tagOwners" = some (declarationsRendering .tag source.tagOwners) ∧
    Table.get? sections "hosts" = some (hostsRendering source.hosts) ∧
    Table.get? sections "acls" = some (.list (source.acls.map AccessSpec.rendering)) ∧
    Table.get? sections "ssh" = some (.list (source.ssh.map ShellSpec.rendering)) ∧
    Table.get? sections "autoApprovers" = some (.record
      [ ("exitNode", .texts (firstMentions source.exitNode)),
        ("routes", routesRendering grants) ]) ∧
    Table.get? sections "name" = none ∧ Table.get? sections "tailnet" = none := by
  rw [sections]
  split <;> simp [Table.get?_cons, Table.get?, *]

theorem textLists_groups (grants : List (Network × List String))
    (hNames : (source.groups.map fun d => nameOf .group d.1).Nodup) :
    (mapping (recordEntries (source.sections grants)) "groups" >>= textLists "groups") =
      .ok (normalDeclarations .group source.groups) := by
  have hGet := (get?_sections source grants).1
  by_cases hEmpty : source.groups = []
  · rw [if_pos hEmpty] at hGet
    rw [mapping_recordEntries_of_none hGet, hEmpty]
    rfl
  · rw [if_neg hEmpty] at hGet
    exact textLists_declarationsRendering "groups" hGet hNames

theorem textTable_hosts (grants : List (Network × List String))
    (hNames : (source.hosts.map fun d => nameOf .host d.1).Nodup) :
    (mapping (recordEntries (source.sections grants)) "hosts" >>= textTable) =
      .ok (normalHosts source.hosts) := by
  have hGet := (get?_sections source grants).2.2.1
  have hTextual := isTextual_hostsRendering source.hosts
  rw [hostsRendering_eq_record] at hGet hTextual
  rw [mapping_recordEntries hGet hTextual, ok_bind]
  exact textTable_recordEntries (nodup_keys_normalHosts hNames)

theorem accessSpecs_acls (source : Source) (grants : List (Network × List String)) :
    (items (recordEntries (source.sections grants)) "acls" >>= fun rules =>
      rules.zipIdx.mapM fun (rule, i) => accessSpec rule i) =
      .ok (source.acls.map AccessSpec.normal) := by
  obtain ⟨-, -, -, hGet, -⟩ := get?_sections source grants
  have hRendering : source.acls.map AccessSpec.rendering =
      (source.acls.map AccessSpec.normal).map fun spec => .record
        [ ("action", .text spec.action),
          ("src", .texts spec.sources),
          ("dst", .texts spec.destinations) ] := by
    rw [List.map_map]
    rfl
  rw [items_recordEntries hGet (List.forall_mem_map.mpr fun spec _ => spec.isTextual_rendering),
    ok_bind, hRendering]
  exact mapM_zipIdx_eq_ok_map 0 fun spec _ i => accessSpec_record spec i

theorem shellSpecs_ssh (source : Source) (grants : List (Network × List String)) :
    (items (recordEntries (source.sections grants)) "ssh" >>= fun rules =>
      rules.zipIdx.mapM fun (rule, i) => shellSpec rule i) =
      .ok (source.ssh.map ShellSpec.normal) := by
  obtain ⟨-, -, -, -, hGet, -⟩ := get?_sections source grants
  have hRendering : source.ssh.map ShellSpec.rendering =
      (source.ssh.map ShellSpec.normal).map fun spec => .record <|
        [ ("action", .text spec.action),
          ("src", .texts spec.sources),
          ("dst", .texts spec.destinations),
          ("users", .texts spec.users) ] ++
          spec.checkPeriod.toList.map fun period => ("checkPeriod", .text period) := by
    rw [List.map_map]
    rfl
  rw [items_recordEntries hGet (List.forall_mem_map.mpr fun spec _ => spec.isTextual_rendering),
    ok_bind, hRendering]
  exact mapM_zipIdx_eq_ok_map 0 fun spec _ i => shellSpec_record spec i

/-- Without a section for the tailnet all options are the usual ones. -/
theorem tailnetOptions_nil : tailnetOptions [] = .ok usualOptions := by
  have hMapping (name : String) : mapping [] name = .ok [] := rfl
  have hDns : dnsOptions [] = .ok {} := rfl
  have hKeys : keyOptions [] = .ok {} := rfl
  have hContacts : textTable [] = .ok [] := rfl
  have hUnknown : unknownContacts [] = [] := by simp [unknownContacts, Table.keys]
  unfold tailnetOptions
  simp only [hMapping, ok_bind, hDns, hKeys, hContacts, hUnknown]
  rfl

/-- The rendering of a source is read as the source's normal form. -/
theorem read_sections (hDeclarable : Catalog.Declarable source.groups source.tagOwners source.hosts)
    {name : String} (hName : name ≠ "") (environment : Option String) :
    read (recordEntries (source.sections grants)) name environment source.halves =
      .ok (source.normal grants name environment) := by
  obtain ⟨-, hTags, -, -, -, hApprovers, hNoName, hNoTailnet⟩ := get?_sections source grants
  have hDistinct := List.nodup_append.mp hDeclarable.distinct
  have hDistinct' := List.nodup_append.mp hDistinct.1
  obtain ⟨groups, hGroups, hGroupLists⟩ :=
    bind_eq_ok_iff.mp (textLists_groups grants hDistinct'.1)
  obtain ⟨tags, hTags, hTagLists⟩ :=
    bind_eq_ok_iff.mp (textLists_declarationsRendering "tagOwners" hTags hDistinct'.2.1)
  obtain ⟨hosts, hHosts, hHostTable⟩ := bind_eq_ok_iff.mp (textTable_hosts grants hDistinct.2.1)
  obtain ⟨acls, hAcls, hAccessSpecs⟩ := bind_eq_ok_iff.mp (accessSpecs_acls source grants)
  obtain ⟨ssh, hSsh, hShellSpecs⟩ := bind_eq_ok_iff.mp (shellSpecs_ssh source grants)
  have hApproverFields := mapping_recordEntries hApprovers
    (by simp [isTextual_routesRendering])
  have hTailnet := mapping_recordEntries_of_none hNoTailnet
  have hNameless : field? (recordEntries (source.sections grants)) "name" = none := by
    rw [field?_recordEntries, hNoName]
  have hRoutes : routeSpecs (some (routesRendering grants)) =
      .ok ((unitedGrants grants).map fun g => ⟨g.1.text, g.2⟩) := by
    rw [← routeSpecs_record, routesRendering, List.map_map]
    rfl
  unfold read
  rw [hApproverFields, hNameless, hGroups, hTags, hHosts, hAcls, hSsh, hTailnet]
  simp only [ok_bind, hGroupLists, hTagLists, hHostTable, hAccessSpecs, hShellSpecs,
    tailnetOptions_nil, field?_recordEntries, Table.get?_cons]
  simp [hRoutes, texts_texts, ok_bind, hName]
  rfl

end Source

end Reading

/-- A policy without violations is a fixed point: read again under any name, it is compiled to the
same document, without violations, and for every indentation to the same text. -/
theorem compile_toValue {source : Source} {lint : Bool} {indent : Option Int}
    {compilation : Compilation} {text : String}
    (hCompile : source.compile lint indent = .ok compilation)
    (hOutput : compilation.output = some text) {name : String} (hName : name ≠ "")
    (environment : Option String) :
    ∃ data again, compilation.document.toValue = .map data ∧
      Source.read data name environment source.halves = .ok again ∧
      ∀ lint' indent', ∃ written,
        source.compile lint' indent' = .ok ⟨source.name, compilation.document,
          ⟨[], if lint' then compilation.document.unused else []⟩, some written⟩ ∧
        again.compile lint' indent' = .ok ⟨name, compilation.document,
          ⟨[], if lint' then compilation.document.unused else []⟩, some written⟩ := by
  obtain ⟨document, hDocument, hValid, hText, rfl⟩ :=
    Source.compile_output_iff.mp ⟨hCompile, hOutput⟩
  obtain ⟨hDeclarable, grants, hGrants, hBuild⟩ := Source.document_eq_ok_iff.mp hDocument
  have hRendering : document.toValue = source.rendering grants := by
    rw [hBuild]
    exact toValue_build hGrants
  have hAgain := Source.document_normal hDocument hGrants name environment
  refine ⟨_, _, hRendering, Source.read_sections hDeclarable hName environment, ?_⟩
  intro lint' indent'
  have hTextual : document.toValue.isTextual = true := by
    rw [hRendering]
    exact Source.isTextual_rendering source grants
  have hWhole := (Document.exists_serialize_iff hTextual indent).mp ⟨text, hText⟩
  obtain ⟨written, hWritten⟩ := (Document.exists_serialize_iff hTextual indent').mpr hWhole
  exact ⟨written,
    (Source.compile_output_iff.mpr ⟨document, hDocument, hValid, hWritten, rfl⟩).1,
    (Source.compile_output_iff.mpr ⟨document, hAgain, hValid, hWritten, rfl⟩).1⟩

theorem compile_toValue_officeSource :
    ∃ compilation text, officeSource.compile true (some 2) = .ok compilation ∧
      compilation.output = some text ∧ "policy" ≠ "" ∧
      ∃ data again, compilation.document.toValue = .map data ∧
        Source.read data "policy" none officeSource.halves = .ok again ∧
        ∀ lint' indent', ∃ written,
          officeSource.compile lint' indent' = .ok ⟨officeSource.name, compilation.document,
            ⟨[], if lint' then compilation.document.unused else []⟩, some written⟩ ∧
          again.compile lint' indent' = .ok ⟨"policy", compilation.document,
            ⟨[], if lint' then compilation.document.unused else []⟩, some written⟩ := by
  obtain ⟨compilation, text, hCompile, hText⟩ := exists_output_officeSource
  exact ⟨compilation, text, hCompile, hText, by decide,
    compile_toValue hCompile hText (by decide) none⟩

end Tailnet
