import Tailnet.Address.Printer
import Tailnet.Catalog.Name
import Tailnet.Table

/-!
The catalog of declared tags, groups and hosts. A name is claimed for one kind
before its entry is made, so no name stands for two things. A sealed catalog
takes no more declarations.
-/

namespace Tailnet

/-- A declared tag and the principals that may assign it, or a declared group and its members. -/
structure Entry where
  name : String
  principals : List Principal
deriving DecidableEq, Repr

/-- A declared host and its address as written. -/
structure HostEntry where
  name : String
  address : String
deriving DecidableEq, Repr

/-- All declarations, the kind for which each name is claimed, and the seal. -/
structure Catalog where
  tags : Table String Entry
  groups : Table String Entry
  hosts : Table String HostEntry
  claims : Table String DeclarationKind
  isSealed : Bool
deriving Repr

/-- Why a declaration was refused. -/
inductive CatalogError where
  | sealed (kind : DeclarationKind) (written : String)
  | name (kind : DeclarationKind) (written : String) (cause : NameError)
  | duplicate (kind : DeclarationKind) (name : String)
  | ambiguous (name : String) (existing kind : DeclarationKind)
  | address (text : String)
deriving DecidableEq, Repr

namespace CatalogError

/-- The report of the error. A sealed catalog is a mistake in the order of operations and not a
problem of the policy, so it has none. -/
def report? : CatalogError → Option Report
  | sealed .. => none
  | name kind written cause => some (cause.report kind written)
  | duplicate kind bare =>
    some ⟨.duplicateIdentifier, .text (kind.mark ++ bare),
      kind.title ++ " '" ++ kind.mark ++ bare ++ "' is already registered", none⟩
  | ambiguous bare existing kind =>
    some ⟨.ambiguousIdentifier, .text bare,
      "Name '" ++ bare ++ "' is already registered as a " ++ existing.name ++
        "; cannot also register it as a " ++ kind.name, none⟩
  | address text =>
    some ⟨.invalidAddress, .text text, "Invalid IP address or prefix: '" ++ text ++ "'", none⟩

def message : CatalogError → String
  | sealed kind written =>
    "Cannot register " ++ kind.name ++ " '" ++ written ++ "': catalog is sealed"
  | error => (error.report?.map Report.text).getD ""

end CatalogError

/-- The principals of tokens, each token once, in the order of their first mention. -/
def principalsOf (tokens : List String) : List Principal :=
  (tokens.foldl
    (fun (seen : Table String Principal) token =>
      let p := Principal.read token
      seen.insertNew p.raw p)
    []).values

namespace Catalog

def empty : Catalog := ⟨[], [], [], [], false⟩

def size (catalog : Catalog) : Nat := catalog.claims.length

def claim (catalog : Catalog) (kind : DeclarationKind) (written : String) :
    Except CatalogError (Catalog × String) :=
  if catalog.isSealed then .error (.sealed kind written)
  else
    match bareName kind written with
    | .error cause => .error (.name kind written cause)
    | .ok bare =>
      match catalog.claims.get? bare with
      | some existing =>
        if existing = kind then .error (.duplicate kind bare)
        else .error (.ambiguous bare existing kind)
      | none => .ok ({ catalog with claims := catalog.claims.insert bare kind }, bare)

def enterTag (catalog : Catalog) (name : String) (owners : List String) : Catalog × Entry :=
  let entry : Entry := ⟨name, principalsOf owners⟩
  ({ catalog with tags := catalog.tags.insert name entry }, entry)

def enterGroup (catalog : Catalog) (name : String) (members : List String) : Catalog × Entry :=
  let entry : Entry := ⟨name, principalsOf members⟩
  ({ catalog with groups := catalog.groups.insert name entry }, entry)

/-- Declare a tag. It may have no owners, as long as no rule speaks of it. -/
def registerTag (catalog : Catalog) (written : String) (owners : List String) :
    Except CatalogError (Catalog × Entry) := do
  let (catalog, name) ← catalog.claim .tag written
  return catalog.enterTag name owners

def registerGroup (catalog : Catalog) (written : String) (members : List String) :
    Except CatalogError (Catalog × Entry) := do
  let (catalog, name) ← catalog.claim .group written
  return catalog.enterGroup name members

/-- The address of a host without the white space around it, if it is one. -/
def hostAddress (address : String) : Except CatalogError String :=
  match AddressRange.read? address with
  | some _ => .ok (Text.trim address)
  | none => .error (.address (Text.trim address))

/-- Declare a host. The address is checked first, so a faulty one leaves the name free. -/
def registerHost (catalog : Catalog) (written address : String) :
    Except CatalogError (Catalog × HostEntry) := do
  let address ← hostAddress address
  let (catalog, name) ← catalog.claim .host written
  let entry : HostEntry := ⟨name, address⟩
  return ({ catalog with hosts := catalog.hosts.insert name entry }, entry)

/-- Declare all groups, then all tags, then all hosts. -/
def ofDeclarations (groups tags : Table String (List String)) (hosts : Table String String) :
    Except CatalogError Catalog := do
  let catalog ← groups.foldlM (fun c d => return (← c.registerGroup d.1 d.2).1) empty
  let catalog ← tags.foldlM (fun c d => return (← c.registerTag d.1 d.2).1) catalog
  hosts.foldlM (fun c d => return (← c.registerHost d.1 d.2).1) catalog

/-- Whether a name, with or without its mark, is claimed for a kind. -/
def declares (catalog : Catalog) (kind : DeclarationKind) (name : String) : Bool :=
  catalog.claims.get? (unmarked kind name) == some kind

/-- The owners of a declared tag, named with or without its mark. -/
def ownersOf? (catalog : Catalog) (tag : String) : Option (List Principal) :=
  (catalog.tags.get? (unmarked .tag tag)).map Entry.principals

def unknownTag (tag : String) : Report :=
  let literal := tagMark ++ unmarked .tag tag
  ⟨.unknownIdentifier, .text literal, "Unknown tag '" ++ literal ++ "'", none⟩

def close (catalog : Catalog) : Catalog := { catalog with isSealed := true }

end Catalog

end Tailnet
