import Tailnet.Proofs.Catalog.Lookup

/-!
Declarations that are made one after the other. The first that is refused ends it, with its own
error. A declaration repeats another exactly if it has the kind and the name of one before it, and
only then is it refused as a duplicate.
-/

namespace Tailnet

open Text

/-- A declaration as it is written. -/
inductive Declaration where
  | group (key : String) (members : List String)
  | tag (key : String) (owners : List String)
  | host (key address : String)

namespace Declaration

def kind : Declaration → DeclarationKind
  | group .. => .group
  | tag .. => .tag
  | host .. => .host

/-- What is written for the name. -/
def key : Declaration → String
  | group key _ | tag key _ | host key _ => key

/-- The name that is declared. -/
def name (d : Declaration) : String := nameOf d.kind d.key

/-- Whether what is declared can be read. Only the address of a host may be no address. -/
def isReadable : Declaration → Bool
  | group .. | tag .. => true
  | host _ address => (AddressRange.read? address).isSome

/-- Check that what is declared can be read. -/
def check : Declaration → Except CatalogError Unit
  | group .. | tag .. => .ok ()
  | host _ address => (Catalog.hostAddress address).map fun _ => ()

theorem check_eq_ok_iff {d : Declaration} : d.check = .ok () ↔ d.isReadable = true := by
  cases d with
  | group | tag => exact iff_of_true rfl rfl
  | host key address =>
      rw [check, Catalog.hostAddress, isReadable]
      cases AddressRange.read? address <;> simp [Except.map]

theorem check_ne_duplicate (d : Declaration) {kind : DeclarationKind} {name : String} :
    d.check ≠ .error (.duplicate kind name) := by
  cases d with
  | group | tag => exact nofun
  | host key address =>
      rw [check, Catalog.hostAddress]
      cases AddressRange.read? address <;> simp [Except.map]

/-- A declaration that is refused since one before it has declared its name for the same kind. -/
structure Repeats (d : Declaration) (before : List Declaration) : Prop where
  isReadable : d.isReadable = true
  declared : ∃ earlier ∈ before, earlier.kind = d.kind ∧ earlier.name = d.name

end Declaration

namespace Catalog

/-- Make a declaration. -/
def register (catalog : Catalog) : Declaration → Except CatalogError Catalog
  | .group key members => do return (← catalog.registerGroup key members).1
  | .tag key owners => do return (← catalog.registerTag key owners).1
  | .host key address => do return (← catalog.registerHost key address).1

/-- Make declarations one after the other. -/
def registerAll (declarations : List Declaration) : Except CatalogError Catalog :=
  declarations.foldlM register empty

/-- The declarations of groups, tags and hosts in the order in which they are made. -/
def declarationsOf (groups tags : Table String (List String)) (hosts : Table String String) :
    List Declaration :=
  groups.map (fun d => .group d.1 d.2) ++ tags.map (fun d => .tag d.1 d.2) ++
    hosts.map fun d => .host d.1 d.2

theorem ofDeclarations_eq_registerAll (groups tags : Table String (List String))
    (hosts : Table String String) :
    ofDeclarations groups tags hosts = registerAll (declarationsOf groups tags hosts) := by
  simp [ofDeclarations, registerAll, declarationsOf, List.foldlM_append, List.foldlM_map, register]

/-- Enter what is declared under a claimed name. -/
def enter (catalog : Catalog) (name : String) : Declaration → Catalog
  | .group _ members => (catalog.enterGroup name members).1
  | .tag _ owners => (catalog.enterTag name owners).1
  | .host _ address =>
    { catalog with hosts := catalog.hosts.insert name ⟨name, trim address⟩ }

/-- An entry is no claim, and does not close the catalog. -/
theorem enter_claims (catalog : Catalog) (name : String) (d : Declaration) :
    (catalog.enter name d).claims = catalog.claims ∧
      (catalog.enter name d).isSealed = catalog.isSealed := by
  cases d <;> exact ⟨rfl, rfl⟩

/-- Every declaration is checked, then its name is claimed, and then it is entered. -/
theorem register_eq (catalog : Catalog) (d : Declaration) :
    catalog.register d = (do
      d.check
      let (claimed, name) ← catalog.claim d.kind d.key
      return claimed.enter name d) := by
  cases d with
  | group key members =>
      rw [register, registerGroup, bind_assoc]
      rfl
  | tag key owners =>
      rw [register, registerTag, bind_assoc]
      rfl
  | host key address =>
      rw [register, registerHost, bind_assoc, Declaration.check]
      cases hAddress : hostAddress address with
      | error cause => rfl
      | ok text =>
          obtain ⟨-, rfl⟩ := hostAddress_eq_ok_iff.mp hAddress
          rw [ok_bind, bind_assoc]
          rfl

section Steps

variable {catalog : Catalog} (hOpen : catalog.isSealed = false)

include hOpen

/-- A claim is refused as a duplicate exactly if the name is admitted and claimed for that kind. -/
theorem claim_eq_duplicate_iff {kind other : DeclarationKind} {written name : String} :
    catalog.claim kind written = .error (.duplicate other name) ↔
      kind = other ∧ nameOf kind written = name ∧ Admissible name ∧
        catalog.claims.get? name = some kind := by
  unfold claim
  rw [hOpen, if_neg Bool.false_ne_true]
  cases hBare : bareName kind written with
  | error cause =>
      simp
      rintro - rfl hAdmissible
      rw [bareName_eq_ok_iff.mpr ⟨rfl, hAdmissible⟩] at hBare
      cases hBare
  | ok bare =>
      obtain ⟨rfl, hAdmissible⟩ := bareName_eq_ok_iff.mp hBare
      cases hClaim : catalog.claims.get? (nameOf kind written) with
      | none => grind
      | some existing => grind

/-- A declaration is refused as a duplicate exactly if it can be read and its name, which is
admitted, is claimed for its kind. -/
theorem register_eq_duplicate_iff {d : Declaration} {kind : DeclarationKind} {name : String} :
    catalog.register d = .error (.duplicate kind name) ↔
      d.isReadable = true ∧ d.kind = kind ∧ d.name = name ∧ Admissible name ∧
        catalog.claims.get? name = some d.kind := by
  rw [register_eq, bind_eq_error_iff]
  constructor
  · rintro (hUnreadable | ⟨_, hChecked, hRest⟩)
    · exact absurd hUnreadable d.check_ne_duplicate
    · rcases bind_eq_error_iff.mp hRest with hClaim | ⟨claim, -, hEntered⟩
      · exact ⟨Declaration.check_eq_ok_iff.mp hChecked, (claim_eq_duplicate_iff hOpen).mp hClaim⟩
      · cases hEntered
  · rintro ⟨hReadable, hClaim⟩
    have hRefused := (claim_eq_duplicate_iff hOpen).mpr hClaim
    exact .inr ⟨(), Declaration.check_eq_ok_iff.mpr hReadable,
      bind_eq_error_iff.mpr (.inl hRefused)⟩

/-- What a declaration that is made does to the claims. -/
theorem claims_of_register {d : Declaration} {next : Catalog}
    (h : catalog.register d = .ok next) :
    next.isSealed = false ∧ Admissible d.name ∧ d.name ∉ catalog.claims.keys ∧
      next.claims = catalog.claims ++ [(d.name, d.kind)] := by
  rw [register_eq] at h
  obtain ⟨_, -, h⟩ := bind_eq_ok_iff.mp h
  obtain ⟨⟨claimed, name⟩, hClaim, h⟩ := bind_eq_ok_iff.mp h
  obtain ⟨hAdmissible, hFree, hClaimed⟩ := (claim_eq_ok_iff hOpen).mp hClaim
  obtain ⟨rfl, rfl⟩ := Prod.mk.inj hClaimed
  obtain rfl := pure_eq_ok_iff.mp h
  obtain ⟨hClaims, hSealed⟩ := enter_claims
    { catalog with claims := catalog.claims ++ [(nameOf d.kind d.key, d.kind)] }
    (nameOf d.kind d.key) d
  exact ⟨hSealed.trans hOpen, hAdmissible, hFree, hClaims⟩

end Steps

/-- A catalog that takes declarations and has the names of some claimed, each once. -/
structure ClaimedBy (catalog : Catalog) (declarations : List Declaration) : Prop where
  isOpen : catalog.isSealed = false
  claims : catalog.claims = declarations.map fun d => (d.name, d.kind)
  distinct : (declarations.map Declaration.name).Nodup
  admissible : ∀ d ∈ declarations, Admissible d.name

/-- What was made one after the other has its names claimed. The last declaration is taken off
first, since each is made on the catalog that those before it leave. -/
theorem claimedBy_of_registerAll {declarations : List Declaration} {catalog : Catalog}
    (h : registerAll declarations = .ok catalog) : catalog.ClaimedBy declarations := by
  induction declarations using List.reverseRecOn generalizing catalog with
  | nil =>
      cases h
      exact ⟨rfl, rfl, List.nodup_nil, List.forall_mem_nil _⟩
  | append_singleton declarations last ih =>
      rw [registerAll, List.foldlM_append] at h
      obtain ⟨before, hBefore, hLast⟩ := bind_eq_ok_iff.mp h
      have hClaimed := ih hBefore
      simp only [List.foldlM_cons, List.foldlM_nil, bind_pure] at hLast
      obtain ⟨hOpen, hAdmissible, hFree, hClaims⟩ := claims_of_register hClaimed.isOpen hLast
      have hKeys : before.claims.keys = declarations.map Declaration.name := by
        simp [hClaimed.claims, Table.keys, Function.comp_def]
      constructor
      case isOpen => exact hOpen
      case claims => rw [hClaims, hClaimed.claims, List.map_append, List.map_singleton]
      case distinct =>
        rw [hKeys] at hFree
        rw [List.map_append, List.map_singleton, ← List.concat_eq_append]
        exact hClaimed.distinct.concat hFree
      case admissible =>
        rw [List.forall_mem_append, List.forall_mem_singleton]
        exact ⟨hClaimed.admissible, hAdmissible⟩

/-- A name is claimed for a kind exactly if it was declared for it. -/
theorem ClaimedBy.get?_claims_iff {catalog : Catalog} {declarations : List Declaration}
    (h : catalog.ClaimedBy declarations) {name : String} {kind : DeclarationKind} :
    catalog.claims.get? name = some kind ↔ ∃ d ∈ declarations, d.kind = kind ∧ d.name = name := by
  have hKeys : catalog.claims.keys.Nodup := by
    rw [h.claims, Table.keys, List.map_map]
    exact h.distinct
  have hMem : catalog.claims.get? name = some kind ↔ (name, kind) ∈ catalog.claims :=
    ⟨Table.mem_of_get?_eq_some, Table.get?_eq_some_of_mem hKeys⟩
  rw [hMem, h.claims, List.mem_map]
  simp [and_comm]

/-- Declarations are refused because of a duplicate exactly if the first of them that is refused
repeats one before it. -/
theorem registerAll_eq_duplicate_iff {declarations : List Declaration} {kind : DeclarationKind}
    {name : String} :
    registerAll declarations = .error (.duplicate kind name) ↔
      ∃ before d after, declarations = before ++ d :: after ∧
        (∃ catalog, registerAll before = .ok catalog) ∧
        d.kind = kind ∧ d.name = name ∧ d.Repeats before := by
  rw [registerAll, foldlM_eq_error_iff]
  constructor
  · rintro ⟨before, d, after, catalog, rfl, hBefore, hRefused⟩
    have hClaimed := claimedBy_of_registerAll hBefore
    obtain ⟨hReadable, rfl, rfl, -, hClaim⟩ :=
      (register_eq_duplicate_iff hClaimed.isOpen).mp hRefused
    exact ⟨before, d, after, rfl, ⟨catalog, hBefore⟩, rfl, rfl, hReadable,
      hClaimed.get?_claims_iff.mp hClaim⟩
  · rintro ⟨before, d, after, rfl, ⟨catalog, hBefore⟩, rfl, rfl, hReadable, earlier, hIn, hSame⟩
    have hClaimed := claimedBy_of_registerAll hBefore
    have hAdmissible := hSame.2 ▸ hClaimed.admissible earlier hIn
    exact ⟨before, d, after, catalog, rfl, hBefore, (register_eq_duplicate_iff hClaimed.isOpen).mpr
      ⟨hReadable, rfl, rfl, hAdmissible, hClaimed.get?_claims_iff.mpr ⟨earlier, hIn, hSame⟩⟩⟩

end Catalog

end Tailnet
