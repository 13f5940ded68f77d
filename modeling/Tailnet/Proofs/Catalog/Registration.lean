import Tailnet.Catalog.Basic
import Tailnet.Proofs.Catalog.Name
import Tailnet.Proofs.Principal
import Tailnet.Proofs.Table

/-!
Registration of declarations. A catalog takes a list of declarations exactly if their names are
admitted and all different, and then it holds one entry for each, in their order.
-/

namespace Tailnet

open Text

/-- Principals are entered under their tokens, each at its first mention. -/
theorem principalsOf_eq (tokens : List String) :
    principalsOf tokens = ((tokens.map trim).eraseDups).map Principal.ofToken := by
  have hFold := Table.foldl_insertNew_tabulate Principal.ofToken trim [] tokens
  unfold principalsOf
  simp only [Principal.read, Principal.raw_ofToken]
  rw [show ([] : Table String Principal) = Table.tabulate Principal.ofToken [].eraseDups from rfl,
    hFold, Table.values_tabulate, List.nil_append]

/-- The tokens of the principals are the trimmed tokens, each at its first mention. -/
theorem map_raw_principalsOf (tokens : List String) :
    (principalsOf tokens).map Principal.raw = (tokens.map trim).eraseDups := by
  simp [principalsOf_eq, Function.comp_def]

namespace Catalog

theorem claim_eq_ok_iff {catalog : Catalog} {kind : DeclarationKind} {written : String}
    {result : Catalog × String} (hOpen : catalog.isSealed = false) :
    catalog.claim kind written = .ok result ↔
      Admissible (nameOf kind written) ∧ nameOf kind written ∉ catalog.claims.keys ∧
      result = ({ catalog with claims := catalog.claims ++ [(nameOf kind written, kind)] },
        nameOf kind written) := by
  unfold claim
  rw [hOpen, if_neg Bool.false_ne_true]
  cases hBare : bareName kind written with
  | error cause =>
      constructor
      · intro h
        cases h
      · rintro ⟨hAdmissible, -⟩
        rw [bareName_eq_ok_iff.mpr ⟨rfl, hAdmissible⟩] at hBare
        cases hBare
  | ok bare =>
      obtain ⟨rfl, hAdmissible⟩ := bareName_eq_ok_iff.mp hBare
      dsimp only
      cases hClaim : catalog.claims.get? (nameOf kind written) with
      | some existing =>
          have hTaken : nameOf kind written ∈ catalog.claims.keys :=
            List.mem_map_of_mem (Table.mem_of_get?_eq_some hClaim)
          dsimp only
          constructor
          · intro h
            split at h
            · cases h
            · cases h
          · rintro ⟨-, hFree, -⟩
            exact absurd hTaken hFree
      | none =>
          have hFree := Table.get?_eq_none_iff.mp hClaim
          rw [Table.insert_of_notMem hFree]
          constructor
          · intro h
            cases h
            exact ⟨hAdmissible, hFree, rfl⟩
          · rintro ⟨-, -, rfl⟩
            rfl

/-- A catalog that still takes declarations and in which every entry's name is claimed. -/
structure Accepting (catalog : Catalog) : Prop where
  isOpen : catalog.isSealed = false
  tags_claimed : catalog.tags.keys ⊆ catalog.claims.keys
  groups_claimed : catalog.groups.keys ⊆ catalog.claims.keys
  hosts_claimed : catalog.hosts.keys ⊆ catalog.claims.keys

/-- The entry of a declared tag or group. -/
def entryOf (kind : DeclarationKind) (declaration : String × List String) : String × Entry :=
  (nameOf kind declaration.1, ⟨nameOf kind declaration.1, principalsOf declaration.2⟩)

/-- The entry of a declared host. -/
def hostEntryOf (declaration : String × String) : String × HostEntry :=
  (nameOf .host declaration.1, ⟨nameOf .host declaration.1, trim declaration.2⟩)

/-- The claims that declarations of a kind make. -/
def claimsOf {δ : Type} (kind : DeclarationKind) (declarations : List (String × δ)) :
    Table String DeclarationKind :=
  declarations.map fun d => (nameOf kind d.1, kind)

/-- The catalog with the entries of further tags. -/
def withTags (catalog : Catalog) (tags : List (String × List String)) : Catalog :=
  { catalog with
    tags := catalog.tags ++ tags.map (entryOf .tag)
    claims := catalog.claims ++ claimsOf .tag tags }

/-- The catalog with the entries of further groups. -/
def withGroups (catalog : Catalog) (groups : List (String × List String)) : Catalog :=
  { catalog with
    groups := catalog.groups ++ groups.map (entryOf .group)
    claims := catalog.claims ++ claimsOf .group groups }

/-- The catalog with the entries of further hosts. -/
def withHosts (catalog : Catalog) (hosts : List (String × String)) : Catalog :=
  { catalog with
    hosts := catalog.hosts ++ hosts.map hostEntryOf
    claims := catalog.claims ++ claimsOf .host hosts }

theorem enterTag_claimed {catalog : Catalog} (h : catalog.Accepting)
    {declaration : String × List String}
    (hFree : nameOf .tag declaration.1 ∉ catalog.claims.keys) :
    (enterTag { catalog with claims := catalog.claims ++ [(nameOf .tag declaration.1, .tag)] }
      (nameOf .tag declaration.1) declaration.2).1 = catalog.withTags [declaration] := by
  have hFreeTag : nameOf .tag declaration.1 ∉ catalog.tags.keys :=
    fun hIn => hFree (h.tags_claimed hIn)
  simp only [enterTag, withTags, Table.insert_of_notMem hFreeTag, entryOf, claimsOf, List.map_cons,
    List.map_nil]

theorem enterGroup_claimed {catalog : Catalog} (h : catalog.Accepting)
    {declaration : String × List String}
    (hFree : nameOf .group declaration.1 ∉ catalog.claims.keys) :
    (enterGroup { catalog with claims := catalog.claims ++ [(nameOf .group declaration.1, .group)] }
      (nameOf .group declaration.1) declaration.2).1 = catalog.withGroups [declaration] := by
  have hFreeGroup : nameOf .group declaration.1 ∉ catalog.groups.keys :=
    fun hIn => hFree (h.groups_claimed hIn)
  simp only [enterGroup, withGroups, Table.insert_of_notMem hFreeGroup, entryOf, claimsOf,
    List.map_cons, List.map_nil]

theorem registerTag_eq_ok_iff {catalog : Catalog} (h : catalog.Accepting)
    {declaration : String × List String} {result : Catalog} :
    (do return (← catalog.registerTag declaration.1 declaration.2).1) = Except.ok result ↔
      Admissible (nameOf .tag declaration.1) ∧ nameOf .tag declaration.1 ∉ catalog.claims.keys ∧
      result = catalog.withTags [declaration] := by
  simp only [registerTag, bind_eq_ok_iff, pure_eq_ok_iff, claim_eq_ok_iff h.isOpen]
  constructor
  · rintro ⟨-, ⟨-, ⟨hAdmissible, hFree, rfl⟩, rfl⟩, rfl⟩
    exact ⟨hAdmissible, hFree, enterTag_claimed h hFree⟩
  · rintro ⟨hAdmissible, hFree, rfl⟩
    exact ⟨_, ⟨_, ⟨hAdmissible, hFree, rfl⟩, rfl⟩, enterTag_claimed h hFree⟩

theorem registerGroup_eq_ok_iff {catalog : Catalog} (h : catalog.Accepting)
    {declaration : String × List String} {result : Catalog} :
    (do return (← catalog.registerGroup declaration.1 declaration.2).1) = Except.ok result ↔
      Admissible (nameOf .group declaration.1) ∧
      nameOf .group declaration.1 ∉ catalog.claims.keys ∧
      result = catalog.withGroups [declaration] := by
  simp only [registerGroup, bind_eq_ok_iff, pure_eq_ok_iff, claim_eq_ok_iff h.isOpen]
  constructor
  · rintro ⟨-, ⟨-, ⟨hAdmissible, hFree, rfl⟩, rfl⟩, rfl⟩
    exact ⟨hAdmissible, hFree, enterGroup_claimed h hFree⟩
  · rintro ⟨hAdmissible, hFree, rfl⟩
    exact ⟨_, ⟨_, ⟨hAdmissible, hFree, rfl⟩, rfl⟩, enterGroup_claimed h hFree⟩

theorem hostAddress_eq_ok_iff {written address : String} :
    hostAddress written = .ok address ↔
      (AddressRange.read? written).isSome = true ∧ address = trim written := by
  unfold hostAddress
  cases AddressRange.read? written with
  | none => simp
  | some range => simp [eq_comm]

theorem registerHost_eq_ok_iff {catalog : Catalog} (h : catalog.Accepting)
    {declaration : String × String} {result : Catalog} :
    (do return (← catalog.registerHost declaration.1 declaration.2).1) = Except.ok result ↔
      (Admissible (nameOf .host declaration.1) ∧
        (AddressRange.read? declaration.2).isSome = true) ∧
      nameOf .host declaration.1 ∉ catalog.claims.keys ∧
      result = catalog.withHosts [declaration] := by
  have hEnter (hFree : nameOf .host declaration.1 ∉ catalog.claims.keys) :
      catalog.hosts.insert (nameOf .host declaration.1) (hostEntryOf declaration).2 =
        catalog.hosts ++ [hostEntryOf declaration] :=
    Table.insert_of_notMem (fun hIn => hFree (h.hosts_claimed hIn)) _
  simp only [registerHost, bind_eq_ok_iff, pure_eq_ok_iff, claim_eq_ok_iff h.isOpen,
    hostAddress_eq_ok_iff]
  constructor
  · rintro ⟨-, ⟨-, ⟨hAddress, rfl⟩, -, ⟨hAdmissible, hFree, rfl⟩, rfl⟩, rfl⟩
    exact ⟨⟨hAdmissible, hAddress⟩, hFree, congrArg (Catalog.mk _ _ · _ _) (hEnter hFree)⟩
  · rintro ⟨⟨hAdmissible, hAddress⟩, hFree, rfl⟩
    exact ⟨_, ⟨_, ⟨hAddress, rfl⟩, _, ⟨hAdmissible, hFree, rfl⟩, rfl⟩,
      congrArg (Catalog.mk _ _ · _ _) (hEnter hFree)⟩

/-- A way to extend catalogs by lists of declarations, each of which claims a name. -/
structure Extension (δ : Type) where
  name : δ → String
  extend : Catalog → List δ → Catalog
  extend_nil : ∀ c, extend c [] = c
  extend_cons : ∀ c d ds, extend (extend c [d]) ds = extend c (d :: ds)
  keys_claims : ∀ c ds, (extend c ds).claims.keys = c.claims.keys ++ ds.map name
  accepting : ∀ {c}, c.Accepting → ∀ d, (extend c [d]).Accepting

theorem keys_claimsOf {δ : Type} (kind : DeclarationKind) (declarations : List (String × δ)) :
    (claimsOf kind declarations).keys = declarations.map fun d => nameOf kind d.1 := by
  simp [claimsOf, Table.keys, Function.comp_def]

theorem keys_append {α : Type} (table more : Table String α) :
    Table.keys (table ++ more) = table.keys ++ more.keys := List.map_append

/-- Entries are added together with their claims, so no entry is left unclaimed. -/
theorem keys_append_subset {α : Type} {table more : Table String α}
    {claims : Table String DeclarationKind} {names : List String} (h : table.keys ⊆ claims.keys)
    (hMore : more.keys ⊆ names) : Table.keys (table ++ more) ⊆ claims.keys ++ names := by
  rw [keys_append]
  exact List.append_subset.mpr ⟨List.subset_append_of_subset_left _ h,
    List.subset_append_of_subset_right _ hMore⟩

def tagExtension : Extension (String × List String) where
  name d := nameOf .tag d.1
  extend := withTags
  extend_nil c := by simp [withTags, claimsOf]
  extend_cons c d ds := by simp [withTags, claimsOf]
  keys_claims c ds := by rw [withTags, keys_append, keys_claimsOf]
  accepting {c} h d := by
    have hClaims : (c.withTags [d]).claims.keys = c.claims.keys ++ [nameOf .tag d.1] := by
      rw [withTags, keys_append, keys_claimsOf, List.map_singleton]
    refine ⟨h.isOpen, ?_, ?_, ?_⟩ <;> rw [hClaims]
    · exact keys_append_subset h.tags_claimed (List.Subset.refl _)
    · exact List.subset_append_of_subset_left _ h.groups_claimed
    · exact List.subset_append_of_subset_left _ h.hosts_claimed

def groupExtension : Extension (String × List String) where
  name d := nameOf .group d.1
  extend := withGroups
  extend_nil c := by simp [withGroups, claimsOf]
  extend_cons c d ds := by simp [withGroups, claimsOf]
  keys_claims c ds := by rw [withGroups, keys_append, keys_claimsOf]
  accepting {c} h d := by
    have hClaims : (c.withGroups [d]).claims.keys = c.claims.keys ++ [nameOf .group d.1] := by
      rw [withGroups, keys_append, keys_claimsOf, List.map_singleton]
    refine ⟨h.isOpen, ?_, ?_, ?_⟩ <;> rw [hClaims]
    · exact List.subset_append_of_subset_left _ h.tags_claimed
    · exact keys_append_subset h.groups_claimed (List.Subset.refl _)
    · exact List.subset_append_of_subset_left _ h.hosts_claimed

def hostExtension : Extension (String × String) where
  name d := nameOf .host d.1
  extend := withHosts
  extend_nil c := by simp [withHosts, claimsOf]
  extend_cons c d ds := by simp [withHosts, claimsOf]
  keys_claims c ds := by rw [withHosts, keys_append, keys_claimsOf]
  accepting {c} h d := by
    have hClaims : (c.withHosts [d]).claims.keys = c.claims.keys ++ [nameOf .host d.1] := by
      rw [withHosts, keys_append, keys_claimsOf, List.map_singleton]
    refine ⟨h.isOpen, ?_, ?_, ?_⟩ <;> rw [hClaims]
    · exact List.subset_append_of_subset_left _ h.tags_claimed
    · exact List.subset_append_of_subset_left _ h.groups_claimed
    · exact keys_append_subset h.hosts_claimed (List.Subset.refl _)

namespace Extension

variable {δ : Type}

theorem accepting_extend (extension : Extension δ) {catalog : Catalog} (h : catalog.Accepting)
    (declarations : List δ) : (extension.extend catalog declarations).Accepting := by
  induction declarations generalizing catalog with
  | nil => rwa [extension.extend_nil]
  | cons declaration rest ih =>
      rw [← extension.extend_cons]
      exact ih (extension.accepting h declaration)

/-- A list of declarations is registered exactly if each of them is, given the names claimed by
those before it. -/
theorem foldlM_eq_ok_iff (extension : Extension δ)
    {register : Catalog → δ → Except CatalogError Catalog} {accepts : δ → Prop}
    (hStep : ∀ {c}, c.Accepting → ∀ {d result}, register c d = .ok result ↔
      accepts d ∧ extension.name d ∉ c.claims.keys ∧ result = extension.extend c [d])
    {catalog : Catalog} (h : catalog.Accepting) (hDistinct : catalog.claims.keys.Nodup)
    (declarations : List δ) (result : Catalog) :
    declarations.foldlM register catalog = .ok result ↔
      (∀ d ∈ declarations, accepts d) ∧
      (catalog.claims.keys ++ declarations.map extension.name).Nodup ∧
      result = extension.extend catalog declarations := by
  induction declarations generalizing catalog with
  | nil =>
      rw [List.foldlM_nil, pure_eq_ok_iff, extension.extend_nil]
      simp [hDistinct, eq_comm]
  | cons declaration rest ih =>
      rw [List.foldlM_cons, bind_eq_ok_iff]
      have hSplit : (catalog.claims.keys ++ (declaration :: rest).map extension.name).Nodup ↔
          extension.name declaration ∉ catalog.claims.keys ∧
          ((extension.extend catalog [declaration]).claims.keys ++
            rest.map extension.name).Nodup := by
        rw [extension.keys_claims, List.map_singleton, List.map_cons, List.append_cons]
        refine ⟨fun hAll => ⟨?_, hAll⟩, fun hAll => hAll.2⟩
        intro hIn
        have hFront := (List.nodup_append.mp hAll).1
        exact (List.nodup_append.mp hFront).2.2 _ hIn _ (by simp) rfl
      have hRest (hFree : extension.name declaration ∉ catalog.claims.keys) :
          (extension.extend catalog [declaration]).claims.keys.Nodup := by
        rw [extension.keys_claims, List.map_singleton, List.nodup_append]
        refine ⟨hDistinct, List.nodup_singleton _, ?_⟩
        intro name hName other hOther hEq
        rw [List.mem_singleton] at hOther
        exact hFree (hOther ▸ hEq ▸ hName)
      rw [hSplit, List.forall_mem_cons, ← extension.extend_cons catalog declaration rest]
      constructor
      · rintro ⟨next, hNext, hFold⟩
        obtain ⟨hAccepts, hFree, rfl⟩ := (hStep h).mp hNext
        obtain ⟨hOthers, hNodup, hResult⟩ :=
          (ih (extension.accepting h declaration) (hRest hFree)).mp hFold
        exact ⟨⟨hAccepts, hOthers⟩, ⟨hFree, hNodup⟩, hResult⟩
      · rintro ⟨⟨hAccepts, hOthers⟩, ⟨hFree, hNodup⟩, hResult⟩
        exact ⟨_, (hStep h).mpr ⟨hAccepts, hFree, rfl⟩,
          (ih (extension.accepting h declaration) (hRest hFree)).mpr ⟨hOthers, hNodup, hResult⟩⟩

end Extension

/-- The catalog that holds exactly the given declarations. -/
def declared (groups tags : Table String (List String)) (hosts : Table String String) : Catalog :=
  ((empty.withGroups groups).withTags tags).withHosts hosts

/-- All names that declarations claim, in the order in which they do. -/
def declaredNames (groups tags : Table String (List String)) (hosts : Table String String) :
    List String :=
  (groups.map fun d => nameOf .group d.1) ++ (tags.map fun d => nameOf .tag d.1) ++
    (hosts.map fun d => nameOf .host d.1)

/-- Declarations that can stand together: every name is admitted and claimed only once, and every
host has an address. -/
structure Declarable (groups tags : Table String (List String)) (hosts : Table String String) :
    Prop where
  admissible : ∀ name ∈ declaredNames groups tags hosts, Admissible name
  distinct : (declaredNames groups tags hosts).Nodup
  addresses : ∀ d ∈ hosts, (AddressRange.read? d.2).isSome = true

theorem accepting_empty : empty.Accepting :=
  ⟨rfl, List.Subset.refl _, List.Subset.refl _, List.Subset.refl _⟩

theorem keys_claims_withGroups (groups tags : Table String (List String)) :
    ((empty.withGroups groups).withTags tags).claims.keys =
      (groups.map fun d => nameOf .group d.1) ++ tags.map fun d => nameOf .tag d.1 := by
  rw [withTags, keys_append, keys_claimsOf, withGroups, keys_append, keys_claimsOf]
  rfl

/-- Declarations make a catalog exactly if they can stand together, and then just the one that
holds them. -/
theorem ofDeclarations_eq_ok_iff {groups tags : Table String (List String)}
    {hosts : Table String String} {catalog : Catalog} :
    ofDeclarations groups tags hosts = .ok catalog ↔
      Declarable groups tags hosts ∧ catalog = declared groups tags hosts := by
  have hGroups : (empty.withGroups groups).Accepting :=
    groupExtension.accepting_extend accepting_empty groups
  have hTags : ((empty.withGroups groups).withTags tags).Accepting :=
    tagExtension.accepting_extend hGroups tags
  have hClaims : (empty.withGroups groups).claims.keys = groups.map fun d => nameOf .group d.1 := by
    rw [withGroups, keys_append, keys_claimsOf]
    rfl
  have hFirst {c : Catalog} := groupExtension.foldlM_eq_ok_iff registerGroup_eq_ok_iff
    accepting_empty List.nodup_nil groups c
  have hSecond {c : Catalog} (hDistinct : (groups.map fun d => nameOf .group d.1).Nodup) :=
    tagExtension.foldlM_eq_ok_iff registerTag_eq_ok_iff hGroups (hClaims ▸ hDistinct) tags c
  have hThird {c : Catalog} (hDistinct : ((groups.map fun d => nameOf .group d.1) ++
      tags.map fun d => nameOf .tag d.1).Nodup) :=
    hostExtension.foldlM_eq_ok_iff registerHost_eq_ok_iff hTags
      (keys_claims_withGroups groups tags ▸ hDistinct) hosts c
  rw [ofDeclarations, bind_eq_ok_iff]
  constructor
  · rintro ⟨first, hFold, hRest⟩
    obtain ⟨second, hFold', hFold''⟩ := bind_eq_ok_iff.mp hRest
    obtain ⟨hGroupNames, hNodup, rfl⟩ := hFirst.mp hFold
    obtain ⟨hTagNames, hNodup', rfl⟩ := (hSecond hNodup).mp hFold'
    rw [hClaims] at hNodup'
    obtain ⟨hHosts, hNodup'', rfl⟩ := (hThird hNodup').mp hFold''
    rw [keys_claims_withGroups] at hNodup''
    refine ⟨⟨?_, hNodup'', fun d hd => (hHosts d hd).2⟩, rfl⟩
    simp only [declaredNames, List.forall_mem_append, List.forall_mem_map]
    exact ⟨⟨hGroupNames, hTagNames⟩, fun d hd => (hHosts d hd).1⟩
  · rintro ⟨⟨hNames, hDistinct, hAddresses⟩, rfl⟩
    have hDistinct' := (List.nodup_append.mp hDistinct).1
    have hDistinct'' := (List.nodup_append.mp hDistinct').1
    simp only [declaredNames, List.forall_mem_append, List.forall_mem_map] at hNames
    refine ⟨_, hFirst.mpr ⟨hNames.1.1, hDistinct'', rfl⟩, bind_eq_ok_iff.mpr
      ⟨_, (hSecond hDistinct'').mpr ⟨hNames.1.2, ?_, rfl⟩, (hThird hDistinct').mpr
        ⟨fun d hd => ⟨hNames.2 d hd, hAddresses d hd⟩, ?_, rfl⟩⟩⟩
    · rw [hClaims]
      exact hDistinct'
    · rw [keys_claims_withGroups]
      exact hDistinct

end Catalog

end Tailnet
