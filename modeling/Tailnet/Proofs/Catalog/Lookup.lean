import Tailnet.Policy.Validation
import Tailnet.Proofs.Catalog.Registration

/-!
Look-ups in a catalog of declarations. A name is claimed for a kind exactly if an entry of that kind
was made under it. References are looked up by the name behind their mark, from which a mark would
be removed again.
-/

namespace Tailnet

open Text

namespace Catalog

/-- The names under which entries of a kind were made. -/
def namesOf (catalog : Catalog) : DeclarationKind → List String
  | .tag => catalog.tags.keys
  | .group => catalog.groups.keys
  | .host => catalog.hosts.keys

variable {groups tags : Table String (List String)} {hosts : Table String String}

theorem keys_entryOf (kind : DeclarationKind) (declarations : List (String × List String)) :
    Table.keys (declarations.map (entryOf kind)) = declarations.map fun d => nameOf kind d.1 := by
  simp [Table.keys, entryOf, Function.comp_def]

theorem keys_hostEntryOf (declarations : List (String × String)) :
    Table.keys (declarations.map hostEntryOf) = declarations.map fun d => nameOf .host d.1 := by
  simp [Table.keys, hostEntryOf, Function.comp_def]

theorem tags_declared : (declared groups tags hosts).tags = tags.map (entryOf .tag) := by
  simp [declared, withHosts, withTags, withGroups, empty]

theorem groups_declared : (declared groups tags hosts).groups = groups.map (entryOf .group) := by
  simp [declared, withHosts, withTags, withGroups, empty]

theorem hosts_declared : (declared groups tags hosts).hosts = hosts.map hostEntryOf := by
  simp [declared, withHosts, withTags, withGroups, empty]

theorem claims_declared :
    (declared groups tags hosts).claims =
      claimsOf .group groups ++ claimsOf .tag tags ++ claimsOf .host hosts := by
  simp [declared, withGroups, withTags, withHosts, empty]

theorem keys_claims_declared :
    (declared groups tags hosts).claims.keys = declaredNames groups tags hosts := by
  simp [claims_declared, keys_append, keys_claimsOf, declaredNames]

theorem namesOf_declared (kind : DeclarationKind) :
    (declared groups tags hosts).namesOf kind =
      match kind with
      | .tag => tags.map fun d => nameOf .tag d.1
      | .group => groups.map fun d => nameOf .group d.1
      | .host => hosts.map fun d => nameOf .host d.1 := by
  cases kind with
  | tag => rw [namesOf, tags_declared, keys_entryOf]
  | group => rw [namesOf, groups_declared, keys_entryOf]
  | host => rw [namesOf, hosts_declared, keys_hostEntryOf]

theorem mem_claimsOf_iff {δ : Type} {kind other : DeclarationKind}
    {declarations : List (String × δ)} {name : String} :
    (name, other) ∈ claimsOf kind declarations ↔
      kind = other ∧ name ∈ declarations.map fun d => nameOf kind d.1 := by
  simp only [claimsOf, List.mem_map, Prod.mk.injEq]
  constructor
  · rintro ⟨d, hd, hName, hKind⟩
    exact ⟨hKind, d, hd, hName⟩
  · rintro ⟨hKind, d, hd, hName⟩
    exact ⟨d, hd, hName, hKind⟩

/-- A name is claimed for a kind exactly if an entry of that kind was made under it. -/
theorem declares_declared_iff (h : Declarable groups tags hosts) {kind : DeclarationKind}
    {name : String} :
    (declared groups tags hosts).declares kind name = true ↔
      unmarked kind name ∈ (declared groups tags hosts).namesOf kind := by
  have hKeys : (declared groups tags hosts).claims.keys.Nodup := by
    rw [keys_claims_declared]
    exact h.distinct
  have hClaim : (declared groups tags hosts).claims.get? (unmarked kind name) = some kind ↔
      (unmarked kind name, kind) ∈ (declared groups tags hosts).claims :=
    ⟨Table.mem_of_get?_eq_some, Table.get?_eq_some_of_mem hKeys⟩
  rw [declares, beq_iff_eq, hClaim, claims_declared, List.mem_append, List.mem_append,
    mem_claimsOf_iff, mem_claimsOf_iff, mem_claimsOf_iff, namesOf_declared]
  cases kind <;> simp

/-- Every name of an entry is admitted. -/
theorem admissible_of_mem_namesOf (h : Declarable groups tags hosts) {kind : DeclarationKind}
    {name : String} (hName : name ∈ (declared groups tags hosts).namesOf kind) :
    Admissible name := by
  apply h.admissible
  rw [namesOf_declared] at hName
  simp only [declaredNames, List.mem_append]
  cases kind with
  | tag => exact .inl (.inr hName)
  | group => exact .inl (.inl hName)
  | host => exact .inr hName

theorem nodup_namesOf (h : Declarable groups tags hosts) (kind : DeclarationKind) :
    ((declared groups tags hosts).namesOf kind).Nodup := by
  have hFront := (List.nodup_append.mp h.distinct).1
  rw [namesOf_declared]
  cases kind with
  | tag => exact (List.nodup_append.mp hFront).2.1
  | group => exact (List.nodup_append.mp hFront).1
  | host => exact (List.nodup_append.mp h.distinct).2.1

/-- Entries are made under their own names. -/
theorem map_name_declared (groups tags : Table String (List String)) (hosts : Table String String) :
    let catalog := declared groups tags hosts
    catalog.tags.values.map Entry.name = catalog.namesOf .tag ∧
    catalog.groups.values.map Entry.name = catalog.namesOf .group ∧
    catalog.hosts.values.map HostEntry.name = catalog.namesOf .host := by
  simp [namesOf_declared, tags_declared, groups_declared, hosts_declared, Table.values, entryOf,
    hostEntryOf, Function.comp_def]

/-- The owners of a tag are those of its entry. -/
theorem exists_entry_of_ownersOf? {tag : String} {owners : List Principal}
    (h : (declared groups tags hosts).ownersOf? tag = some owners) :
    ∃ entry ∈ (declared groups tags hosts).tags.values,
      entry.name = unmarked .tag tag ∧ entry.principals = owners := by
  obtain ⟨entry, hEntry, rfl⟩ := Option.map_eq_some_iff.mp h
  have hMem := Table.mem_of_get?_eq_some hEntry
  refine ⟨entry, List.mem_map_of_mem hMem, ?_, rfl⟩
  rw [tags_declared] at hMem
  obtain ⟨d, -, hd⟩ := List.mem_map.mp hMem
  obtain ⟨hName, rfl⟩ := Prod.mk.inj hd
  exact hName

theorem finding?_close (catalog : Catalog) (p : Principal) :
    catalog.close.finding? p = catalog.finding? p := by
  unfold finding?
  rfl

/-- A tag with which nothing is wrong has an entry with owners. -/
theorem exists_tag_of_finding? {p : Principal} (hKind : p.kind = .tag)
    (h : (declared groups tags hosts).finding? p = .ok none) :
    ∃ entry ∈ (declared groups tags hosts).tags.values,
      entry.name = unmarked .tag p.name ∧ entry.principals ≠ [] := by
  unfold finding? at h
  rw [hKind] at h
  dsimp only at h
  split at h
  case isTrue =>
    split at h
    case h_1 => cases h
    case h_2 owners hOwners =>
      obtain ⟨entry, hEntry, hName, rfl⟩ := exists_entry_of_ownersOf? hOwners
      refine ⟨entry, hEntry, hName, ?_⟩
      intro hEmpty
      rw [hEmpty] at h
      cases h
  case isFalse => cases h

/-- A group with which nothing is wrong has an entry. -/
theorem exists_group_of_finding? (hDeclarable : Declarable groups tags hosts) {p : Principal}
    (hKind : p.kind = .group) (h : (declared groups tags hosts).finding? p = .ok none) :
    ∃ entry ∈ (declared groups tags hosts).groups.values, entry.name = unmarked .group p.name := by
  unfold finding? at h
  rw [hKind] at h
  dsimp only at h
  split at h
  case isTrue hDeclares =>
    have hName := (declares_declared_iff hDeclarable).mp hDeclares
    rw [← (map_name_declared groups tags hosts).2.1] at hName
    exact List.mem_map.mp hName
  case isFalse => cases h

/-- A host with which nothing is wrong has an entry. -/
theorem exists_host_of_finding? (hDeclarable : Declarable groups tags hosts) {p : Principal}
    (hKind : p.kind = .host) (h : (declared groups tags hosts).finding? p = .ok none) :
    ∃ host ∈ (declared groups tags hosts).hosts.values, host.name = p.name := by
  unfold finding? at h
  rw [hKind] at h
  dsimp only at h
  split at h
  case isTrue hDeclares =>
    have hName := (declares_declared_iff hDeclarable).mp hDeclares
    rw [← (map_name_declared groups tags hosts).2.2] at hName
    exact List.mem_map.mp hName
  case isFalse => cases h

theorem mem_knownAutogroups_of_finding? {catalog : Catalog} {p : Principal}
    (hKind : p.kind = .autogroup) (h : catalog.finding? p = .ok none) :
    p.name ∈ knownAutogroups := by
  unfold finding? at h
  rw [hKind] at h
  dsimp only at h
  split at h
  case isTrue hKnown => exact hKnown
  case isFalse => cases h

theorem isSome_read?_of_finding? {catalog : Catalog} {p : Principal}
    (hKind : p.kind = .address) (h : catalog.finding? p = .ok none) :
    (AddressRange.read? p.raw).isSome = true := by
  unfold finding? at h
  rw [hKind] at h
  dsimp only at h
  split at h
  case isTrue hAddress => exact hAddress
  case isFalse => cases h

end Catalog

end Tailnet
