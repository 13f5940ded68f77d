import Tailnet.Policy.Compilation
import Tailnet.Source.Reader

/-!
Sessions: a policy put together step by step. A session owns a catalog, rules
and grants, and the last document built from them. Arguments are free-form data
and are read as tokens when they are needed, so a step may fail half-way; what
it had done by then stays done.
-/

namespace Tailnet

/-- Why a step was refused. -/
inductive StepError where
  | catalog (cause : CatalogError)
  | route (cause : RouteError)
  | report (report : Report)
  | encoding (cause : EncodingError)
  | invalid (validation : Validation)
  | numeral (cause : Integer.NumeralError)
  /-- A word that names no kind of declaration, as a literal. -/
  | unknownKind (literal : String)
  /-- Tokens that are neither a list nor anything else with elements. -/
  | notTokens
  /-- An argument of the wrong type, which lacks an operation. -/
  | wrongType
  /-- Bytes where a text is needed. -/
  | undecoded
  /-- A key that is no scalar. -/
  | notAKey
  /-- There is no document yet. -/
  | noDocument

/-- The state of a session, with the characters that stand for surrogates in its texts. -/
structure Session where
  catalog : Catalog
  rules : RuleSet
  approvals : Approvals
  document : Option Document
  halves : Text.Halves

/-- The steps of a session. -/
inductive SessionStep where
  | registerTag (name owners : Value)
  | registerGroup (name members : Value)
  | registerHost (name address : Value)
  | declareAll (tagOwners groups hosts : Value)
  | newCatalog
  | exists (kind name : Value)
  | ownersOf (tag : Value)
  | seal
  | showCatalog
  | addAccess (action sources destinations : Value)
  | addShell (action sources destinations users checkPeriod : Value)
  | showRules
  | grantExitNode (tokens : Value)
  | grantRoute (network tokens : Value)
  | showApprovals
  | route (network : Value)
  | build (withRules withApprovals : Bool)
  | validate (lint : Bool)
  | requireValid
  | serialize (indent : Option Int)

/-- What a step answers. -/
inductive Answer where
  | nothing
  | truth (b : Bool)
  | text (s : String)
  | entry (kind : DeclarationKind) (entry : Entry)
  | host (entry : HostEntry)
  | catalog (catalog : Catalog)
  | principals (list : List Principal)
  | route (approvers : Option (List String))
  | accessRule (rule : AccessRule)
  | shellRule (rule : ShellRule)
  | rules (rules : RuleSet)
  | approvals (approvals : Approvals)
  | references (list : List Reference)
  | validation (validation : Validation)

namespace Session

def empty (halves : Text.Halves := .usual) : Session := ⟨.empty, .empty, .empty, none, halves⟩

/-- Tokens read from a value before reading stopped, and why it stopped early if it did. -/
structure Tokens where
  list : List String
  fault : Option StepError

def readTokens : List Value → Tokens
  | [] => ⟨[], none⟩
  | value :: rest =>
    match value.display with
    | .error cause => ⟨[], some (.numeral cause)⟩
    | .ok token =>
      let tokens := readTokens rest
      ⟨token :: tokens.list, tokens.fault⟩

def tokensOf (value : Value) : Tokens :=
  match value.elements? with
  | some elements => readTokens elements
  | none => ⟨[], some .notTokens⟩

/-- All tokens of a value, or the reason why there are not all. -/
def allTokens (value : Value) : Except StepError (List String) :=
  match tokensOf value with
  | ⟨list, none⟩ => .ok list
  | ⟨_, some fault⟩ => .error fault

def textOf (value : Value) : Except StepError String := value.display.mapError .numeral

/-- Claim the name of a tag or group and enter its tokens. If these cannot be read the name stays
claimed. -/
def register (session : Session) (kind : DeclarationKind) (name tokens : Value)
    (enter : Catalog → String → List String → Catalog × Entry) :
    Session × Except StepError Answer :=
  match textOf name with
  | .error fault => (session, .error fault)
  | .ok written =>
    match session.catalog.claim kind written with
    | .error cause => (session, .error (.catalog cause))
    | .ok (claimed, bare) =>
      match allTokens tokens with
      | .error fault => ({ session with catalog := claimed }, .error fault)
      | .ok list =>
        let (catalog, made) := enter claimed bare list
        ({ session with catalog }, .ok (.entry kind made))

def declareHost (catalog : Catalog) (name address : Value) :
    Except StepError (Catalog × HostEntry) := do
  let address ← textOf address
  let checked ← (Catalog.hostAddress address).mapError .catalog
  let written ← textOf name
  (catalog.registerHost written checked).mapError .catalog

def entriesOf (value : Value) : Except StepError Mapping :=
  if !value.isTruthy then .ok []
  else
    match value with
    | .map entries => .ok entries
    | _ => .error .wrongType

/-- Make a catalog from mappings, groups first and hosts last. -/
def declareMappings (tagOwners groups hosts : Value) : Except StepError Catalog := do
  let enterAll (kind : DeclarationKind) (enter : Catalog → String → List String → Catalog × Entry)
      (catalog : Catalog) (entries : Mapping) : Except StepError Catalog :=
    entries.foldlM
      (fun acc (key, tokens) => do
        let written ← textOf (.scalar key)
        let (claimed, bare) ← (acc.claim kind written).mapError .catalog
        return (enter claimed bare (← allTokens tokens)).1)
      catalog
  let catalog ← enterAll .group Catalog.enterGroup .empty (← entriesOf groups)
  let catalog ← enterAll .tag Catalog.enterTag catalog (← entriesOf tagOwners)
  (← entriesOf hosts).foldlM
    (fun acc (key, address) => return (← declareHost acc (.scalar key) address).1) catalog

def kindOf (value : Value) : Except StepError DeclarationKind :=
  match value with
  | .scalar (.text s) =>
    match DeclarationKind.ofName? s with
    | some kind => .ok kind
    | none => .error (.unknownKind (Text.quoted s))
  | other => do throw (.unknownKind (← other.literal.mapError .numeral))

/-- Whether a value names a declaration. Names of hosts are looked up as they are. -/
def lookUp (catalog : Catalog) (kind name : Value) : Except StepError Bool := do
  match ← kindOf kind, name with
  | kind, .scalar (.text s) => return catalog.declares kind s
  | .host, .scalar _ => return false
  | .host, _ => throw .notAKey
  | _, .scalar (.bytes _) => throw .undecoded
  | _, _ => throw .wrongType

def sortedOwners (catalog : Catalog) (tag : Value) : Except StepError (List Principal) :=
  match tag with
  | .scalar (.text s) =>
    match catalog.ownersOf? s with
    | some owners => .ok (owners.mergeSort fun a b => !decide (b.raw < a.raw))
    | none => .error (.report (Catalog.unknownTag s))
  | .scalar (.bytes _) => .error .undecoded
  | _ => .error .wrongType

def readAccess (action sources destinations : Value) : Except StepError AccessRule := do
  return .read (← textOf action) (← allTokens sources) (← allTokens destinations)

def readShell (action sources destinations users checkPeriod : Value) :
    Except StepError ShellRule := do
  return .read (← textOf action) (← allTokens sources) (← allTokens destinations)
    (← allTokens users) checkPeriod

def grantTokens (session : Session) (tokens : Value) (grant : List String → Approvals)
    (answer : Approvals → Answer) : Session × Except StepError Answer :=
  let read := tokensOf tokens
  let approvals := grant read.list
  ({ session with approvals },
    match read.fault with
    | none => .ok (answer approvals)
    | some fault => .error fault)

/-- Grant a route. The network is entered before its tokens are read. -/
def grantRoute (session : Session) (network tokens : Value) : Session × Except StepError Answer :=
  match textOf network with
  | .error fault => (session, .error fault)
  | .ok written =>
    match Approvals.readNetwork written with
    | .error cause => (session, .error (.route cause))
    | .ok found =>
      session.grantTokens tokens (session.approvals.grantRouteText found.text)
        fun _ => .text found.text

def validation (session : Session) (lint : Bool) : Except StepError Validation :=
  match session.document with
  | none => .error .noDocument
  | some document => (document.validate lint).mapError .report

/-- Keep a new catalog, if there is one. -/
def keepCatalog (session : Session) (answer : Catalog → Answer) :
    Except StepError Catalog → Session × Except StepError Answer
  | .ok catalog => ({ session with catalog }, .ok (answer catalog))
  | .error fault => (session, .error fault)

/-- The state after a step, and its answer. -/
def step (session : Session) : SessionStep → Session × Except StepError Answer
  | .registerTag name owners => session.register .tag name owners Catalog.enterTag
  | .registerGroup name members => session.register .group name members Catalog.enterGroup
  | .registerHost name address =>
    match declareHost session.catalog name address with
    | .ok (catalog, made) => ({ session with catalog }, .ok (.host made))
    | .error fault => (session, .error fault)
  | .declareAll tagOwners groups hosts =>
    session.keepCatalog .catalog (declareMappings tagOwners groups hosts)
  | .newCatalog => ({ session with catalog := .empty }, .ok .nothing)
  | .exists kind name => (session, (lookUp session.catalog kind name).map .truth)
  | .ownersOf tag => (session, (sortedOwners session.catalog tag).map .principals)
  | .seal => ({ session with catalog := session.catalog.close }, .ok .nothing)
  | .showCatalog => (session, .ok (.catalog session.catalog))
  | .addAccess action sources destinations =>
    match readAccess action sources destinations with
    | .ok rule => ({ session with rules := session.rules.addAccess rule }, .ok (.accessRule rule))
    | .error fault => (session, .error fault)
  | .addShell action sources destinations users checkPeriod =>
    match readShell action sources destinations users checkPeriod with
    | .ok rule => ({ session with rules := session.rules.addShell rule }, .ok (.shellRule rule))
    | .error fault => (session, .error fault)
  | .showRules => (session, .ok (.rules session.rules))
  | .grantExitNode tokens =>
    session.grantTokens tokens session.approvals.grantExitNode
      fun approvals => .principals approvals.exitNode.values
  | .grantRoute network tokens => session.grantRoute network tokens
  | .showApprovals => (session, .ok (.approvals session.approvals))
  | .route network =>
    let approvers? := match network with
      | .scalar (.text s) => session.approvals.route? s
      | _ => none
    (session, .ok (.route (approvers?.map fun list => list.map Principal.raw)))
  | .build withRules withApprovals =>
    let document := Document.build session.catalog
      (if withRules then session.rules else .empty)
      (if withApprovals then session.approvals else .empty) session.halves
    ({ session with catalog := session.catalog.close, document := some document },
      .ok (.references document.references))
  | .validate lint => (session, (session.validation lint).map .validation)
  | .requireValid =>
    (session,
      match session.validation true with
      | .error fault => .error fault
      | .ok validation => if validation.isValid then .ok .nothing else .error (.invalid validation))
  | .serialize indent =>
    (session,
      match session.document with
      | none => .error .noDocument
      | some document => ((document.serialize indent).mapError .encoding).map .text)

/-- The answers to a sequence of steps, with the state after each. -/
def run (session : Session) : List SessionStep → List (Session × Except StepError Answer)
  | [] => []
  | next :: rest =>
    let outcome := session.step next
    outcome :: run outcome.1 rest

end Session

end Tailnet
