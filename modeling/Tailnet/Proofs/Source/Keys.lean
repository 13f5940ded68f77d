import Tailnet.Policy.Compilation
import Tailnet.Proofs.Catalog.Refusal
import Tailnet.Proofs.Overlay.Declarations
import Tailnet.Proofs.Source.Sections

/-!
The keys of declarations in data, and what becomes of them. Keys are told apart by their texts only,
so of keys with one text all but the last are lost. Whatever else names a thing twice is refused.
-/

namespace Tailnet

/-- The section in which things of a kind are declared. -/
def DeclarationKind.sectionName : DeclarationKind → String
  | tag => "tagOwners"
  | group => "groups"
  | host => "hosts"

namespace Source

/-- The keys that data writes in the section of a kind. -/
def keysIn (data : Mapping) (kind : DeclarationKind) : List Scalar :=
  match field? data kind.sectionName with
  | some (.map entries) => Table.keys entries
  | _ => []

/-- The declarations of a source in the order in which they are made. -/
def declarations (source : Source) : List Declaration :=
  Catalog.declarationsOf source.groups source.tagOwners source.hosts

/-- What is written for the names of a kind. -/
def keysOf (source : Source) : DeclarationKind → List String
  | .tag => source.tagOwners.keys
  | .group => source.groups.keys
  | .host => source.hosts.keys

/-- What becomes of the keys that data writes for declarations, whose texts are given. -/
structure KeepsKeys (data : Mapping) (source : Source) (texts : DeclarationKind → List String) :
    Prop where
  written : ∀ kind,
    List.Forall₂ (fun key text => textOf (.scalar key) = .ok text) (keysIn data kind) (texts kind)
  /-- A declaration is made for each text, at its first mention. -/
  declared : ∀ kind,
    (source.declarations.filter fun d => d.kind = kind).map Declaration.key =
      (texts kind).eraseDups
  /-- There is an entry for each text. -/
  entries : ∀ document, source.document = .ok document → ∀ kind,
    document.catalog.namesOf kind = (texts kind).eraseDups.map (nameOf kind)
  /-- There is an entry for each key exactly if the texts of the keys all differ. -/
  one_each_iff : ∀ document, source.document = .ok document → ∀ kind,
    document.catalog.namesOf kind = (texts kind).map (nameOf kind) ↔ (texts kind).Nodup
  /-- Two different texts for one name are always refused. -/
  refused : ∀ kind, ∀ first ∈ texts kind, ∀ second ∈ texts kind, first ≠ second →
    nameOf kind first = nameOf kind second → ∃ cause, source.document = .error (.catalog cause)
  /-- They are refused as a duplicate exactly if nothing is refused before. -/
  duplicate_iff : ∀ kind name,
    source.document = .error (.catalog (.duplicate kind name)) ↔
      ∃ before d after, source.declarations = before ++ d :: after ∧
        (∃ catalog, Catalog.registerAll before = .ok catalog) ∧
        d.kind = kind ∧ d.name = name ∧ d.Repeats before

section Texts

variable {data : Mapping}

/-- A table is read under the texts of the keys, each at its first mention. -/
theorem exists_texts_of_tableOf {β : Type} {read : String → Value → Except SourceError β}
    {entries : Mapping} {table : Table String β} (h : tableOf read entries = .ok table) :
    ∃ texts, List.Forall₂ (fun key text => textOf (.scalar key) = .ok text)
        (Table.keys entries) texts ∧ table.keys = texts.eraseDups := by
  obtain ⟨pairs, hPairs, hTable⟩ := bind_eq_ok_iff.mp h
  obtain rfl := pure_eq_ok_iff.mp hTable
  refine ⟨pairs.map Prod.fst, ?_, Table.keys_ofPairs pairs⟩
  rw [Table.keys, List.forall₂_map_left_iff, List.forall₂_map_right_iff]
  refine (mapM_eq_ok_iff.mp hPairs).imp fun entry pair hEntry => ?_
  obtain ⟨text, hText, hPair⟩ := bind_eq_ok_iff.mp hEntry
  obtain ⟨value, -, hPair⟩ := bind_eq_ok_iff.mp hPair
  obtain rfl := pure_eq_ok_iff.mp hPair
  exact hText

theorem keysIn_of_mapping {kind : DeclarationKind} {entries : Mapping}
    (h : mapping data kind.sectionName = .ok entries) :
    keysIn data kind = Table.keys entries := by
  unfold mapping at h
  unfold keysIn
  split at h
  case h_1 hNone | h_2 hNone =>
    cases h
    rw [hNone]
    rfl
  case h_3 given hGiven =>
    cases h
    rw [hGiven, Value.keys_entriesAlone]
  case h_4 => cases h

theorem exists_texts_of_section {β : Type} {read : String → Value → Except SourceError β}
    {kind : DeclarationKind} {table : Table String β}
    (h : mapping data kind.sectionName >>= tableOf read = .ok table) :
    ∃ texts, List.Forall₂ (fun key text => textOf (.scalar key) = .ok text)
        (keysIn data kind) texts ∧ table.keys = texts.eraseDups := by
  obtain ⟨entries, hEntries, hTable⟩ := bind_eq_ok_iff.mp h
  rw [keysIn_of_mapping hEntries]
  exact exists_texts_of_tableOf hTable

end Texts

section Names

variable {source : Source}

theorem map_key_declarations (source : Source) (kind : DeclarationKind) :
    (source.declarations.filter fun d => d.kind = kind).map Declaration.key =
      source.keysOf kind := by
  cases kind <;> simp [declarations, Catalog.declarationsOf, List.filter_append, List.filter_map,
    Function.comp_def, Declaration.kind, Declaration.key, keysOf, Table.keys]

/-- A document fails for a declaration exactly if its catalog does. -/
theorem document_eq_error_iff {cause : CatalogError} :
    source.document = .error (.catalog cause) ↔
      Catalog.registerAll source.declarations = .error cause := by
  rw [document, Catalog.ofDeclarations_eq_registerAll, bind_eq_error_iff, mapError_eq_error_iff]
  constructor
  · rintro (⟨original, hOriginal, hCause⟩ | ⟨catalog, -, hRest⟩)
    · cases hCause
      exact hOriginal
    · rcases bind_eq_error_iff.mp hRest with hRoute | ⟨approvals, -, hBuilt⟩
      · obtain ⟨original, -, hCause⟩ := mapError_eq_error_iff.mp hRoute
        cases hCause
      · cases hBuilt
  · exact fun hCause => .inl ⟨cause, hCause, rfl⟩

/-- Declarations that are all made have the names of the keys, each once among its kind. -/
theorem namesOf_of_registerAll {catalog : Catalog}
    (h : Catalog.registerAll source.declarations = .ok catalog) (kind : DeclarationKind) :
    catalog.namesOf kind = (source.keysOf kind).map (nameOf kind) ∧
      (catalog.namesOf kind).Nodup := by
  rw [declarations, ← Catalog.ofDeclarations_eq_registerAll,
    Catalog.ofDeclarations_eq_ok_iff] at h
  obtain ⟨hDeclarable, rfl⟩ := h
  refine ⟨?_, Catalog.nodup_namesOf hDeclarable kind⟩
  rw [Catalog.namesOf_declared]
  cases kind <;> simp [keysOf, Table.keys]

theorem namesOf_document {document : Document} (h : source.document = .ok document)
    (kind : DeclarationKind) :
    document.catalog.namesOf kind = (source.keysOf kind).map (nameOf kind) ∧
      (document.catalog.namesOf kind).Nodup := by
  obtain ⟨catalog, hCatalog, h⟩ := bind_eq_ok_iff.mp h
  obtain ⟨approvals, -, h⟩ := bind_eq_ok_iff.mp h
  obtain rfl := pure_eq_ok_iff.mp h
  rw [mapError_eq_ok_iff, Catalog.ofDeclarations_eq_registerAll] at hCatalog
  have hNames := namesOf_of_registerAll hCatalog kind
  cases kind <;> exact hNames

end Names

/-- Whatever data is read as a source, an entry is made for each text of a key, so for each key
exactly if their texts all differ. Two texts for one name are never both entered. -/
theorem keepsKeys_of_read {data : Mapping} {name : String} {environment : Option String}
    {source : Source} (h : read data name environment = .ok source) :
    ∃ texts, KeepsKeys data source texts := by
  have hRead := read_eq_ok_iff.mp h
  have hSections (kind : DeclarationKind) :
      ∃ texts, List.Forall₂ (fun key text => textOf (.scalar key) = .ok text)
        (keysIn data kind) texts ∧ source.keysOf kind = texts.eraseDups := by
    cases kind with
    | tag =>
        have hTags := hRead.tagOwners
        rw [textLists_eq_tableOf] at hTags
        exact exists_texts_of_section hTags
    | group =>
        have hGroups := hRead.groups
        rw [textLists_eq_tableOf] at hGroups
        exact exists_texts_of_section hGroups
    | host => exact exists_texts_of_section hRead.hosts
  choose texts hWritten hKeys using hSections
  refine ⟨texts, ?_⟩
  have hNames {document : Document} (hDocument : source.document = .ok document)
      (kind : DeclarationKind) :
      document.catalog.namesOf kind = (texts kind).eraseDups.map (nameOf kind) := by
    rw [(namesOf_document hDocument kind).1, hKeys]
  constructor
  case written => exact hWritten
  case declared => exact fun kind => (map_key_declarations source kind).trans (hKeys kind)
  case entries => exact fun document hDocument => hNames hDocument
  case one_each_iff =>
    intro document hDocument kind
    constructor
    · intro hEach
      have hDistinct := (namesOf_document hDocument kind).2
      rw [hEach] at hDistinct
      exact hDistinct.of_map _
    · intro hDistinct
      rw [hNames hDocument, eraseDups_of_nodup hDistinct]
  case refused =>
    intro kind first hFirst second hSecond hNe hSame
    cases hAll : Catalog.registerAll source.declarations with
    | error cause => exact ⟨cause, document_eq_error_iff.mpr hAll⟩
    | ok catalog =>
        obtain ⟨hEntries, hDistinct⟩ := namesOf_of_registerAll hAll kind
        rw [hEntries, hKeys] at hDistinct
        have hBoth := List.inj_on_of_nodup_map hDistinct
        exact absurd (hBoth (List.mem_eraseDups.mpr hFirst) (List.mem_eraseDups.mpr hSecond) hSame)
          hNe
  case duplicate_iff =>
    intro kind name
    rw [document_eq_error_iff, Catalog.registerAll_eq_duplicate_iff]

/-- Hosts under the keys one, a number, and the text of one. -/
def twiceWrittenHosts : Mapping :=
  recordEntries
    [("hosts", .map [(.int 1, .text "10.0.0.1"), (.text "1", .text "10.0.0.2")])]

/-- The number and its text name one host. It is entered without complaint, with the address that
was written last. -/
theorem exists_lost_host :
    ∃ source document, read twiceWrittenHosts "policy" none = .ok source ∧
      keysIn twiceWrittenHosts .host = [.int 1, .text "1"] ∧
      source.document = .ok document ∧
      document.catalog.hosts.values = [⟨"1", "10.0.0.2"⟩] := by
  obtain ⟨source, hRead, hSource⟩ := exists_ok_of_check (read twiceWrittenHosts "policy" none)
    (fun source => source.document.toOption.any fun document =>
      document.catalog.hosts.values == [⟨"1", "10.0.0.2"⟩]) (by decide +kernel)
  cases hDocument : source.document with
  | error cause =>
      rw [hDocument] at hSource
      cases hSource
  | ok document =>
      rw [hDocument] at hSource
      exact ⟨source, document, hRead, rfl, hDocument, beq_iff_eq.mp hSource⟩

/-- Two keys of a group, with its mark and without it but with white space. -/
def twiceNamedGroups : Mapping :=
  recordEntries [("groups", .record [("group:ops", .list []), (" ops", .list [])])]

theorem keepsKeys_twiceNamedGroups :
    ∃ source texts, read twiceNamedGroups "policy" none = .ok source ∧
      KeepsKeys twiceNamedGroups source texts ∧
      source.document = .error (.catalog (.duplicate .group "ops")) := by
  obtain ⟨source, hRead, hSource⟩ := exists_ok_of_check (read twiceNamedGroups "policy" none)
    (fun source => source.groups == [("group:ops", []), (" ops", [])] && source.tagOwners == [] &&
      source.hosts == []) (by decide +kernel)
  obtain ⟨texts, hKeeps⟩ := keepsKeys_of_read hRead
  refine ⟨source, texts, hRead, hKeeps, (hKeeps.duplicate_iff .group "ops").mpr ?_⟩
  have hDeclarations : source.declarations = [.group "group:ops" [], .group " ops" []] := by
    simp only [Bool.and_eq_true, beq_iff_eq] at hSource
    obtain ⟨⟨hGroups, hTags⟩, hHosts⟩ := hSource
    rw [declarations, hGroups, hTags, hHosts]
    rfl
  have hFirst : nameOf .group "group:ops" = "ops" := by
    rw [nameOf]
    decide
  have hSecond : nameOf .group " ops" = "ops" := by
    rw [nameOf]
    decide
  have hBefore : ∃ catalog, Catalog.registerAll [.group "group:ops" []] = .ok catalog :=
    ⟨_, by rfl⟩
  exact ⟨[.group "group:ops" []], .group " ops" [], [], hDeclarations, hBefore, rfl, hSecond, rfl,
    _, List.mem_singleton_self _, rfl, hFirst.trans hSecond.symm⟩

end Source

end Tailnet
