import Tailnet.Proofs.Catalog.Addressing
import Tailnet.Proofs.Policy.Normal

/-!
What holds of every catalog that comes about by registrations. The claims and the registries are two
records of the same declarations: a name is claimed for a kind exactly if it has an entry of that
kind and of no other. Hence every tag that is claimed has its owners, and a document on such a
catalog can always be validated.
-/

namespace Tailnet

namespace Catalog

/-- All names with an entry, each with the kind of its entry. -/
def registered (catalog : Catalog) : List (String × DeclarationKind) :=
  (catalog.tags.keys.map fun name => (name, .tag)) ++
    (catalog.groups.keys.map fun name => (name, .group)) ++
      catalog.hosts.keys.map fun name => (name, .host)

theorem mem_registered_iff {catalog : Catalog} {name : String} {kind : DeclarationKind} :
    (name, kind) ∈ catalog.registered ↔ name ∈ catalog.namesOf kind := by
  cases kind <;> simp [registered, namesOf]

theorem map_fst_registered (catalog : Catalog) :
    catalog.registered.map Prod.fst =
      catalog.namesOf .tag ++ catalog.namesOf .group ++ catalog.namesOf .host := by
  simp [registered, namesOf, Function.comp_def]

/-- What the two records of a catalog have in common, and what holds of its entries. -/
structure Recorded (catalog : Catalog) : Prop where
  claims_perm : catalog.claims.Perm catalog.registered
  nodup_claims : catalog.claims.keys.Nodup
  principals_distinct : ∀ entry ∈ catalog.tags.values ++ catalog.groups.values,
    (entry.principals.map Principal.raw).Nodup
  addresses_read : ∀ host ∈ catalog.hosts.values, (AddressRange.read? host.address).isSome = true

theorem recorded_empty : empty.Recorded where
  claims_perm := .nil
  nodup_claims := List.nodup_nil
  principals_distinct := List.forall_mem_nil _
  addresses_read := List.forall_mem_nil _

section Registration

variable {catalog next : Catalog} {written : String}

/-- An open catalog in which every claimed name has an entry. -/
theorem accepting_of_claim (h : catalog.Reached) {kind : DeclarationKind}
    {result : Catalog × String} (hClaim : catalog.claim kind written = .ok result) :
    catalog.Accepting :=
  h.coherent.accepting (isOpen_of_claim hClaim)

theorem eq_withTags_of_registerTag (h : catalog.Reached) {owners : List String} {entry : Entry}
    (hStep : catalog.registerTag written owners = .ok (next, entry)) :
    nameOf .tag written ∉ catalog.claims.keys ∧ next = catalog.withTags [(written, owners)] := by
  obtain ⟨claimed, hClaim, -⟩ := bind_eq_ok_iff.mp hStep
  exact ((@registerTag_eq_ok_iff catalog (accepting_of_claim h hClaim) (written, owners) next).mp
    (bind_eq_ok_iff.mpr ⟨_, hStep, rfl⟩)).2

theorem eq_withGroups_of_registerGroup (h : catalog.Reached) {members : List String} {entry : Entry}
    (hStep : catalog.registerGroup written members = .ok (next, entry)) :
    nameOf .group written ∉ catalog.claims.keys ∧
      next = catalog.withGroups [(written, members)] := by
  obtain ⟨claimed, hClaim, -⟩ := bind_eq_ok_iff.mp hStep
  exact ((@registerGroup_eq_ok_iff catalog (accepting_of_claim h hClaim) (written, members)
    next).mp (bind_eq_ok_iff.mpr ⟨_, hStep, rfl⟩)).2

theorem eq_withHosts_of_registerHost (h : catalog.Reached) {address : String} {entry : HostEntry}
    (hStep : catalog.registerHost written address = .ok (next, entry)) :
    (AddressRange.read? address).isSome = true ∧ nameOf .host written ∉ catalog.claims.keys ∧
      next = catalog.withHosts [(written, address)] := by
  obtain ⟨read, -, hRest⟩ := bind_eq_ok_iff.mp hStep
  obtain ⟨claimed, hClaim, -⟩ := bind_eq_ok_iff.mp hRest
  obtain ⟨⟨-, hAddress⟩, hNew⟩ :=
    (@registerHost_eq_ok_iff catalog (accepting_of_claim h hClaim) (written, address) next).mp
      (bind_eq_ok_iff.mpr ⟨_, hStep, rfl⟩)
  exact ⟨hAddress, hNew⟩

/-- One more name of a kind is one more registered name. -/
theorem registered_perm {name : String} {kind : DeclarationKind}
    (h : ∀ other,
      next.namesOf other = catalog.namesOf other ++ if other = kind then [name] else []) :
    next.registered.Perm (catalog.registered ++ [(name, kind)]) := by
  have hTags : next.tags.keys = _ := h .tag
  have hGroups : next.groups.keys = _ := h .group
  have hHosts : next.hosts.keys = _ := h .host
  rw [List.perm_iff_count]
  intro entry
  rw [registered, hTags, hGroups, hHosts]
  cases kind <;>
    simp only [registered, namesOf, reduceCtorEq, reduceIte, List.map_append, List.map_cons,
      List.map_nil, List.append_nil, List.count_append] <;>
    omega

/-- One more entry with its claim keeps the two records alike. -/
theorem Recorded.claims_append (h : catalog.Recorded) {name : String} {kind : DeclarationKind}
    (hFree : name ∉ catalog.claims.keys) (hClaims : next.claims = catalog.claims ++ [(name, kind)])
    (hNames : ∀ other,
      next.namesOf other = catalog.namesOf other ++ if other = kind then [name] else []) :
    next.claims.Perm next.registered ∧ next.claims.keys.Nodup := by
  rw [hClaims]
  constructor
  · exact (h.claims_perm.append_right _).trans (registered_perm hNames).symm
  · rw [← Table.insert_of_notMem hFree]
    exact Table.nodup_keys_insert h.nodup_claims name kind

theorem nodup_map_raw_principalsOf (tokens : List String) :
    ((principalsOf tokens).map Principal.raw).Nodup := by
  rw [map_raw_principalsOf]
  exact nodup_eraseDups _

theorem recorded_withTags (h : catalog.Recorded) {d : String × List String}
    (hFree : nameOf .tag d.1 ∉ catalog.claims.keys) : (catalog.withTags [d]).Recorded := by
  have hNames (other : DeclarationKind) : (catalog.withTags [d]).namesOf other =
      catalog.namesOf other ++ if other = .tag then [nameOf .tag d.1] else [] := by
    cases other <;> simp [namesOf, withTags, entryOf, Table.keys]
  obtain ⟨hPerm, hNodup⟩ := h.claims_append hFree rfl hNames
  refine ⟨hPerm, hNodup, ?_, h.addresses_read⟩
  intro entry hEntry
  simp only [withTags, entryOf, Table.values, List.map_append, List.map_cons, List.map_nil,
    List.append_assoc, List.mem_append, List.mem_singleton] at hEntry
  rcases hEntry with hOld | rfl | hOld
  · exact h.principals_distinct entry (List.mem_append_left _ hOld)
  · exact nodup_map_raw_principalsOf d.2
  · exact h.principals_distinct entry (List.mem_append_right _ hOld)

theorem recorded_withGroups (h : catalog.Recorded) {d : String × List String}
    (hFree : nameOf .group d.1 ∉ catalog.claims.keys) : (catalog.withGroups [d]).Recorded := by
  have hNames (other : DeclarationKind) : (catalog.withGroups [d]).namesOf other =
      catalog.namesOf other ++ if other = .group then [nameOf .group d.1] else [] := by
    cases other <;> simp [namesOf, withGroups, entryOf, Table.keys]
  obtain ⟨hPerm, hNodup⟩ := h.claims_append hFree rfl hNames
  refine ⟨hPerm, hNodup, ?_, h.addresses_read⟩
  intro entry hEntry
  simp only [withGroups, entryOf, Table.values, List.map_append, List.map_cons, List.map_nil,
    List.mem_append, List.mem_singleton] at hEntry
  rcases hEntry with hOld | hOld | rfl
  · exact h.principals_distinct entry (List.mem_append_left _ hOld)
  · exact h.principals_distinct entry (List.mem_append_right _ hOld)
  · exact nodup_map_raw_principalsOf d.2

theorem recorded_withHosts (h : catalog.Recorded) {d : String × String}
    (hFree : nameOf .host d.1 ∉ catalog.claims.keys)
    (hAddress : (AddressRange.read? d.2).isSome = true) : (catalog.withHosts [d]).Recorded := by
  have hNames (other : DeclarationKind) : (catalog.withHosts [d]).namesOf other =
      catalog.namesOf other ++ if other = .host then [nameOf .host d.1] else [] := by
    cases other <;> simp [namesOf, withHosts, hostEntryOf, Table.keys]
  obtain ⟨hPerm, hNodup⟩ := h.claims_append hFree rfl hNames
  refine ⟨hPerm, hNodup, h.principals_distinct, ?_⟩
  intro host hHost
  simp only [withHosts, hostEntryOf, Table.values, List.map_append, List.map_cons, List.map_nil,
    List.mem_append, List.mem_singleton] at hHost
  rcases hHost with hOld | rfl
  · exact h.addresses_read host hOld
  · rw [AddressRange.read?_trim]
    exact hAddress

theorem Reached.recorded (h : catalog.Reached) : catalog.Recorded := by
  induction h with
  | empty => exact recorded_empty
  | tag written owners before step ih =>
      obtain ⟨hFree, rfl⟩ := eq_withTags_of_registerTag before step
      exact recorded_withTags ih hFree
  | group written members before step ih =>
      obtain ⟨hFree, rfl⟩ := eq_withGroups_of_registerGroup before step
      exact recorded_withGroups ih hFree
  | host written address before step ih =>
      obtain ⟨hAddress, hFree, rfl⟩ := eq_withHosts_of_registerHost before step
      exact recorded_withHosts ih hFree hAddress
  | close before ih =>
      exact ⟨ih.claims_perm, ih.nodup_claims, ih.principals_distinct, ih.addresses_read⟩

end Registration

/-- A catalog whose claims and registries agree: a name is claimed for a kind exactly if it is a key
of that kind's registry and of no other, and no name is a key of two. There are as many claims as
entries; each entry stands under its own name, which is admitted, and has each principal once; every
host has an address. -/
structure Consistent (catalog : Catalog) : Prop where
  claimed_iff : ∀ name kind, catalog.claims.get? name = some kind ↔
    name ∈ catalog.namesOf kind ∧ ∀ other ≠ kind, name ∉ catalog.namesOf other
  kind_unique : ∀ name kind other, name ∈ catalog.namesOf kind → name ∈ catalog.namesOf other →
    other = kind
  size_eq : catalog.size =
    catalog.tags.length + catalog.groups.length + catalog.hosts.length
  nodup_names : ∀ kind, (catalog.namesOf kind).Nodup
  entryNames_eq : ∀ kind, catalog.entryNames kind = catalog.namesOf kind
  admissible : ∀ kind, ∀ name ∈ catalog.namesOf kind, Admissible name
  principals_distinct : ∀ entry ∈ catalog.tags.values ++ catalog.groups.values,
    (entry.principals.map Principal.raw).Nodup
  addresses_read : ∀ host ∈ catalog.hosts.values, (AddressRange.read? host.address).isSome = true

variable {catalog : Catalog}

/-- Whatever was registered, and whether or not the catalog was closed, it is consistent. -/
theorem Reached.consistent (h : catalog.Reached) : catalog.Consistent := by
  have hCoherent := h.coherent
  have hRecorded := h.recorded
  have hKeys : (catalog.namesOf .tag ++ catalog.namesOf .group ++ catalog.namesOf .host).Nodup := by
    rw [← map_fst_registered]
    exact (hRecorded.claims_perm.map Prod.fst).nodup_iff.mp hRecorded.nodup_claims
  have hFront := (List.nodup_append.mp hKeys).1
  -- A name has only one claim, and every entry has one.
  have hUnique (name : String) (kind other : DeclarationKind)
      (hName : name ∈ catalog.namesOf kind) (hOther : name ∈ catalog.namesOf other) :
      other = kind := by
    have hClaim := hCoherent.claimed kind name hName
    rw [hCoherent.claimed other name hOther] at hClaim
    exact Option.some.inj hClaim
  refine ⟨?_, hUnique, ?_, ?_, hCoherent.entryNames_eq, hCoherent.admissible,
    hRecorded.principals_distinct, hRecorded.addresses_read⟩
  case refine_1 =>
    intro name kind
    constructor
    · intro hClaim
      have hName : name ∈ catalog.namesOf kind := mem_registered_iff.mp
        (hRecorded.claims_perm.mem_iff.mp (Table.mem_of_get?_eq_some hClaim))
      exact ⟨hName, fun other hOther hIn => hOther (hUnique name kind other hName hIn)⟩
    · rintro ⟨hName, -⟩
      exact hCoherent.claimed kind name hName
  case refine_2 =>
    have hLength := hRecorded.claims_perm.length_eq
    simpa [registered, Table.keys, size, Nat.add_assoc] using hLength
  case refine_3 =>
    intro kind
    cases kind with
    | tag => exact (List.nodup_append.mp hFront).1
    | group => exact (List.nodup_append.mp hFront).2.1
    | host => exact (List.nodup_append.mp hKeys).2.1

namespace Consistent

/-- A tag is claimed, with or without its mark, exactly if it has owners. -/
theorem declares_tag_iff (h : catalog.Consistent) (tag : String) :
    catalog.declares .tag tag = true ↔ ∃ owners, catalog.ownersOf? tag = some owners := by
  rw [declares, beq_iff_eq, h.claimed_iff]
  constructor
  · rintro ⟨hName, -⟩
    obtain ⟨entry, hFound⟩ := Option.ne_none_iff_exists'.mp
      fun hNone => Table.get?_eq_none_iff.mp hNone hName
    exact ⟨entry.principals, by rw [ownersOf?, hFound, Option.map_some]⟩
  · rintro ⟨owners, hOwners⟩
    obtain ⟨entry, hFound, -⟩ := Option.map_eq_some_iff.mp hOwners
    have hName : unmarked .tag tag ∈ catalog.namesOf .tag :=
      List.mem_map_of_mem (Table.mem_of_get?_eq_some hFound)
    exact ⟨hName, fun other hOther hIn => hOther (h.kind_unique _ _ _ hName hIn)⟩

/-- A reference to a principal can be looked up. -/
theorem exists_finding? (h : catalog.Consistent) (p : Principal) :
    ∃ found, catalog.finding? p = .ok found := by
  unfold finding?
  cases p.kind with
  | tag =>
      dsimp only
      split
      case isTrue hDeclares =>
        obtain ⟨owners, hOwners⟩ := (h.declares_tag_iff p.name).mp hDeclares
        rw [hOwners]
        exact ⟨_, rfl⟩
      case isFalse => exact ⟨_, rfl⟩
  | _ => exact ⟨_, rfl⟩

theorem exists_checkReference (h : catalog.Consistent) (reference : Reference) :
    ∃ found, catalog.checkReference reference = .ok found := by
  obtain ⟨found, hFound⟩ := h.exists_finding? reference.principal
  rw [checkReference, hFound]
  cases found <;> exact ⟨_, rfl⟩

theorem exists_checkOwner (h : catalog.Consistent) (reference : Reference) :
    ∃ found, catalog.checkOwner reference = .ok found := by
  unfold checkOwner
  split
  · exact h.exists_checkReference reference
  · exact ⟨_, rfl⟩

end Consistent

/-- A document on a catalog that comes about by registrations can be validated, whatever its rules
and grants are. -/
theorem Reached.exists_validate (h : catalog.Reached) (rules : RuleSet) (approvals : Approvals)
    (lint : Bool) :
    ∃ validation, (Document.build catalog rules approvals).validate lint = .ok validation := by
  have hClosed := h.close.consistent
  let document := Document.build catalog rules approvals
  obtain ⟨owners, hOwners⟩ := exists_mapM_of_forall fun reference
    (_ : reference ∈ catalog.close.ownerReferences) => hClosed.exists_checkOwner reference
  obtain ⟨members, hMembers⟩ := exists_mapM_of_forall fun reference
    (_ : reference ∈ catalog.close.memberReferences) => hClosed.exists_checkReference reference
  obtain ⟨others, hOthers⟩ := exists_mapM_of_forall fun reference
    (_ : reference ∈ document.references) => hClosed.exists_checkReference reference
  have hViolations : ∃ violations, document.violations = .ok violations := by
    unfold Document.violations
    simp only [exists_bind_eq_ok_iff]
    exact ⟨owners, hOwners, members, hMembers, others, hOthers, _, rfl⟩
  obtain ⟨violations, hViolations⟩ := hViolations
  exact ⟨_, bind_eq_ok_iff.mpr ⟨violations, hViolations, rfl⟩⟩

theorem reached_of_foldlM {δ α : Type} {register : Catalog → δ → Except CatalogError (Catalog × α)}
    (hStep : ∀ {catalog next : Catalog} {d : δ} {entry : α}, catalog.Reached →
      register catalog d = .ok (next, entry) → next.Reached)
    {declarations : List δ} {start result : Catalog} (h : start.Reached)
    (hResult : declarations.foldlM (fun c d => return (← register c d).1) start = .ok result) :
    result.Reached := by
  refine invariant_of_foldlM (fun state d next hState hNext => ?_) h hResult
  obtain ⟨⟨entered, entry⟩, hEntered, hPure⟩ := bind_eq_ok_iff.mp hNext
  obtain rfl := pure_eq_ok_iff.mp hPure
  exact hStep hState hEntered

/-- Declarations are entered by registrations. -/
theorem reached_of_ofDeclarations {groups tags : Table String (List String)}
    {hosts : Table String String} {catalog : Catalog}
    (h : ofDeclarations groups tags hosts = .ok catalog) : catalog.Reached := by
  obtain ⟨first, hFirst, hRest⟩ := bind_eq_ok_iff.mp h
  obtain ⟨second, hSecond, hThird⟩ := bind_eq_ok_iff.mp hRest
  have hGroups := reached_of_foldlM (fun before step => .group _ _ before step) .empty hFirst
  have hTags := reached_of_foldlM (fun before step => .tag _ _ before step) hGroups hSecond
  exact reached_of_foldlM (fun before step => .host _ _ before step) hTags hThird

end Catalog

end Tailnet
