import Tailnet.Policy.Document

/-!
Validation of documents. Every violation is collected in one pass, so that an
author sees all problems at once: first those of the catalog, then unresolved
references, then the shape of access rules, shell rules and grants. Declarations
that nothing refers to are warned of.
-/

namespace Tailnet

/-- What can be wrong with a place in a document. -/
inductive Finding where
  | cannotOwn (raw : String)
  | malformedUser (raw : String)
  | unknownAutogroup (raw : String)
  | invalidAddress (raw : String)
  | unknownTag (raw : String)
  | unownedTag (raw : String)
  | unknownGroup (raw : String)
  /-- The host is not declared, though perhaps a tag or a group of its name. -/
  | unknownHost (raw name : String) (alsoTag alsoGroup : Bool)
  | accessAction (action : String)
  | noAccessSources
  | noAccessDestinations
  | badPorts (cause : PortError)
  | shellAction (action : String)
  | noShellSources
  | noShellDestinations
  | wildcardShellDestination
  | noUsers
  | emptyUser
  | misplacedCheckPeriod
  | cannotApprove (raw : String)
deriving DecidableEq

namespace Finding

def kind : Finding → ProblemKind
  | unknownAutogroup _ | unknownTag _ | unknownGroup _ | unknownHost .. => .unknownIdentifier
  | invalidAddress _ => .invalidAddress
  | unownedTag _ => .unownedTag
  | _ => .invalidRule

def message : Finding → String
  | cannotOwn raw =>
    "'" ++ raw ++ "' cannot own a tag; owners must be users, groups, tags, autogroups or admin"
  | malformedUser raw => "Malformed user '" ++ raw ++ "'"
  | unknownAutogroup raw => "Unknown autogroup '" ++ raw ++ "'"
  | invalidAddress raw => "Invalid IP address or prefix: '" ++ raw ++ "'"
  | unknownTag raw => "Unknown tag '" ++ raw ++ "'"
  | unownedTag raw => "Tag '" ++ raw ++ "' has no owners and can never be assigned"
  | unknownGroup raw => "Unknown group '" ++ raw ++ "'"
  | unknownHost raw name alsoTag alsoGroup =>
    "Unknown host '" ++ raw ++ "'" ++
      (if alsoTag then " (did you mean 'tag:" ++ name ++ "'?)" else "") ++
      (if alsoGroup then " (did you mean 'group:" ++ name ++ "'?)" else "")
  | accessAction action =>
    "Unsupported access action '" ++ action ++ "'. Must be one of: accept"
  | noAccessSources => "Access rule has no sources"
  | noAccessDestinations => "Access rule has no destinations"
  | badPorts cause => "Invalid destination ports: " ++ cause.message
  | shellAction action =>
    "Unsupported ssh action '" ++ action ++ "'. Must be one of: accept, check"
  | noShellSources => "SSH rule has no sources"
  | noShellDestinations => "SSH rule has no destinations"
  | wildcardShellDestination => "SSH destinations cannot be '*'"
  | noUsers => "SSH rule has no login users"
  | emptyUser => "Empty login user"
  | misplacedCheckPeriod => "checkPeriod is only valid for 'check' rules"
  | cannotApprove raw =>
    "'" ++ raw ++ "' cannot auto-approve; " ++
      "approvers must be tags, groups, users, autogroups or admin"

end Finding

/-- A finding, the token it is about and the token's place. -/
structure Violation where
  finding : Finding
  identifier : Value
  location : Path

namespace Violation

def report (v : Violation) : Report :=
  ⟨v.finding.kind, v.identifier, v.finding.message, some v.location⟩

def line (v : Violation) : Except Integer.NumeralError String := v.report.line

end Violation

/-- A declaration that nothing refers to. -/
structure Unused where
  kind : DeclarationKind
  name : String
deriving DecidableEq, Repr

def Unused.message (unused : Unused) : String :=
  unused.kind.title ++ " '" ++ unused.kind.mark ++ unused.name ++
    "' is defined but never referenced"

/-- The outcome of a validation. -/
structure Validation where
  violations : List Violation
  warnings : List Unused

def PrincipalKind.mayOwn : PrincipalKind → Bool
  | tag | group | user | autogroup | special => true
  | _ => false

/-- Whether a login has a name before its only at sign and a domain behind it. -/
def isLogin (login : String) : Bool :=
  match Text.cutFirst? '@' login.toList with
  | some (name, domain) => !name.isEmpty && !domain.isEmpty && !domain.contains '@'
  | none => false

namespace Catalog

/-- What is wrong with a reference to a principal. A tag that is claimed but has no entry is an
error that stops the validation. -/
def finding? (catalog : Catalog) (p : Principal) : Except Report (Option Finding) :=
  match p.kind with
  | .wildcard | .special => .ok none
  | .user => .ok (if isLogin p.raw then none else some (.malformedUser p.raw))
  | .autogroup =>
    .ok (if p.name ∈ knownAutogroups then none else some (.unknownAutogroup p.raw))
  | .address =>
    .ok (if (AddressRange.read? p.raw).isSome then none
      else some (.invalidAddress p.raw))
  | .tag =>
    if catalog.declares .tag p.name then
      match catalog.ownersOf? p.name with
      | none => .error (unknownTag p.name)
      | some owners => .ok (if owners.isEmpty then some (.unownedTag p.raw) else none)
    else .ok (some (.unknownTag p.raw))
  | .group =>
    .ok (if catalog.declares .group p.name then none else some (.unknownGroup p.raw))
  | .host =>
    .ok (if catalog.declares .host p.name then none
      else some (.unknownHost p.raw p.name (catalog.declares .tag p.name)
        (catalog.declares .group p.name)))

/-- The violations of a reference, of which there is at most one. -/
def checkReference (catalog : Catalog) (reference : Reference) :
    Except Report (List Violation) := do
  match ← catalog.finding? reference.principal with
  | some finding => return [⟨finding, .text reference.principal.raw, reference.location⟩]
  | none => return []

/-- The owners of all tags, and where each stands. -/
def ownerReferences (catalog : Catalog) : List Reference :=
  catalog.tags.values.flatMap fun tag =>
    referencesAt [.field "tagOwners", .entry (tagMark ++ tag.name)] tag.principals

/-- The members of all groups, and where each stands. -/
def memberReferences (catalog : Catalog) : List Reference :=
  catalog.groups.values.flatMap fun group =>
    referencesAt [.field "groups", .entry (groupMark ++ group.name)] group.principals

/-- The violations of an owner: it is of a kind that cannot own, or it cannot be resolved. -/
def checkOwner (catalog : Catalog) (reference : Reference) : Except Report (List Violation) :=
  if reference.principal.kind.mayOwn then catalog.checkReference reference
  else
    .ok [⟨.cannotOwn reference.principal.raw, .text reference.principal.raw, reference.location⟩]

end Catalog

/-- A violation about a whole rule, named by its place. -/
def aboutRule (location : Path) (finding : Finding) (field : String) : Violation :=
  ⟨finding, .text location.text, location ++ [.field field]⟩

def AccessRule.shape (rule : AccessRule) (index : Nat) : List Violation :=
  let location : Path := [.field "acls", .item index]
  (if rule.action = "accept" then []
    else [⟨.accessAction rule.action, .text rule.action, location ++ [.field "action"]⟩]) ++
  (if rule.sources.isEmpty then [aboutRule location .noAccessSources "src"] else []) ++
  (if rule.destinations.isEmpty then [aboutRule location .noAccessDestinations "dst"] else []) ++
  rule.destinations.zipIdx.filterMap fun (destination, i) =>
    destination.portError?.map fun cause =>
      ⟨.badPorts cause, .text destination.raw, location ++ [.field "dst", .item i]⟩

def ShellRule.shape (rule : ShellRule) (index : Nat) : List Violation :=
  let location : Path := [.field "ssh", .item index]
  (if rule.action = "accept" ∨ rule.action = "check" then []
    else [⟨.shellAction rule.action, .text rule.action, location ++ [.field "action"]⟩]) ++
  (if rule.sources.isEmpty then [aboutRule location .noShellSources "src"] else []) ++
  (if rule.destinations.isEmpty then [aboutRule location .noShellDestinations "dst"] else []) ++
  (rule.destinations.zipIdx.filterMap fun (p, i) =>
    if p.kind = .wildcard then
      some ⟨.wildcardShellDestination, .text p.raw, location ++ [.field "dst", .item i]⟩
    else none) ++
  (if rule.users.isEmpty then [aboutRule location .noUsers "users"] else []) ++
  (rule.users.zipIdx.filterMap fun (user, i) =>
    if user = "" then some ⟨.emptyUser, .text user, location ++ [.field "users", .item i]⟩
    else none) ++
  (if rule.checkPeriod.isNull ∨ rule.action = "check" then []
    else [⟨.misplacedCheckPeriod, rule.checkPeriod, location ++ [.field "checkPeriod"]⟩])

/-- The violation of an approver of a kind that cannot approve. -/
def approverShape? (reference : Reference) : Option Violation :=
  if reference.location.head? = some (.field "autoApprovers")
      ∧ !reference.principal.kind.mayOwn then
    some ⟨.cannotApprove reference.principal.raw, .text reference.principal.raw, reference.location⟩
  else none

namespace Document

/-- The principals through which declarations count as used. Owners of a kind that cannot own do
not count. -/
def uses (document : Document) : List Principal :=
  ((document.catalog.ownerReferences.filter fun r => r.principal.kind.mayOwn) ++
    document.catalog.memberReferences ++ document.references).map Reference.principal

def isUsed (uses : List Principal) (kind : PrincipalKind) (name : String) : Bool :=
  uses.any fun p => p.kind = kind && p.name = name

def unused (document : Document) : List Unused :=
  let uses := document.uses
  let among (kind : DeclarationKind) (as : PrincipalKind) (names : List String) : List Unused :=
    (names.filter fun name => !isUsed uses as name).map fun name => ⟨kind, name⟩
  among .tag .tag (document.catalog.tags.values.map Entry.name) ++
    among .group .group (document.catalog.groups.values.map Entry.name) ++
    among .host .host (document.catalog.hosts.values.map HostEntry.name)

def violations (document : Document) : Except Report (List Violation) := do
  let catalog := document.catalog
  let owners ← catalog.ownerReferences.mapM catalog.checkOwner
  let members ← catalog.memberReferences.mapM catalog.checkReference
  let references ← document.references.mapM catalog.checkReference
  return owners.flatten ++ members.flatten ++ references.flatten ++
    (document.access.zipIdx.flatMap fun (rule, i) => rule.shape i) ++
    (document.shell.zipIdx.flatMap fun (rule, i) => rule.shape i) ++
    document.references.filterMap approverShape?

/-- Validate a document; warnings are given if wanted. -/
def validate (document : Document) (lint : Bool) : Except Report Validation := do
  return ⟨← document.violations, if lint then document.unused else []⟩

end Document

namespace Validation

def isValid (validation : Validation) : Bool := validation.violations.isEmpty

def lines (validation : Validation) : Except Integer.NumeralError (List String) :=
  validation.violations.mapM Violation.line

def text (validation : Validation) : Except Integer.NumeralError String := do
  let lines ← validation.lines
  let head :=
    if validation.isValid then "✅ Valid policy"
    else "❌ Invalid policy (" ++ toString lines.length ++ " violations)"
  let violations := if lines.isEmpty then [] else "\nViolations:" :: lines.map ("  • " ++ ·)
  let warnings :=
    if validation.warnings.isEmpty then []
    else "\nWarnings:" :: validation.warnings.map fun warning => "  ⚠️  " ++ warning.message
  return Text.joinWith "\n" (head :: violations ++ warnings)

/-- The summary of violations: how many there are, and the first three. -/
def summary (validation : Validation) : Except Integer.NumeralError String := do
  let count := validation.violations.length
  let first ← (validation.violations.take 3).mapM Violation.line
  let more := if 3 < count then "; ... and " ++ toString (count - 3) ++ " more" else ""
  return "Policy has " ++ toString count ++ " violation(s): " ++ Text.joinWith "; " first ++ more

end Validation

end Tailnet
