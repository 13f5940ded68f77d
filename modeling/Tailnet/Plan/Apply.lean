import Tailnet.Plan.Basic

/-!
Applying a plan through a control plane. The calls are made in a fixed order:
policy, name service, keys, settings and contacts. The first call that fails
ends the run, and nothing is called for a plan with errors or in a dry run.
-/

namespace Tailnet

/-- A call to the control plane. -/
inductive Call where
  | setAcl (document : String)
  | setDnsPreferences (magicDns : Bool)
  | setSearchPaths (paths : List String)
  | setNameservers (servers : List String)
  | setSplitDns (routes : Table String (List String))
  | createKey (request : KeyRequest)
  | updateSettings (settings : Mapping)
  | updateContact (type email : String)

/-- A key that the control plane made. Its secret appears in no result. -/
structure IssuedKey where
  id : String
  expires : Value
  secret : Option Value

namespace Call

/-- What a call gives back: a key, if one was asked for. -/
def Reply : Call → Type
  | createKey _ => IssuedKey
  | _ => Unit

def name : Call → String
  | setAcl _ => "set_acl"
  | setDnsPreferences _ => "set_dns_preferences"
  | setSearchPaths _ => "set_search_paths"
  | setNameservers _ => "set_nameservers"
  | setSplitDns _ => "set_split_dns"
  | createKey _ => "create_key"
  | updateSettings _ => "update_settings"
  | updateContact .. => "update_contact"

/-- A mapping from domains to their servers as data. -/
def splitDnsValue (routes : Table String (List String)) : Value :=
  .record (routes.map fun (domain, servers) => (domain, .texts servers))

def arguments : Call → List Value
  | setAcl document => [.text document]
  | setDnsPreferences magicDns => [.bool magicDns]
  | setSearchPaths paths => [.texts paths]
  | setNameservers servers => [.texts servers]
  | setSplitDns routes => [splitDnsValue routes]
  | createKey request => [.text request.name, request.payload]
  | updateSettings settings => [.map settings]
  | updateContact type email => [.text type, .text email]

end Call

/-- The call that makes a change to the name service. -/
def DnsChange.call : DnsChange → Call
  | preferences magicDns => .setDnsPreferences magicDns
  | searchPaths paths => .setSearchPaths paths
  | nameservers servers => .setNameservers servers
  | splitDns routes => .setSplitDns routes

/-- A control plane with a state of its own. A call that fails says why. -/
structure ControlPlane (σ : Type) where
  perform : σ → (call : Call) → σ × Except String call.Reply

/-- The parts of an application, in order. -/
inductive Stage where
  | acl
  | dns
  | keys
  | settings
deriving DecidableEq, Repr

namespace Stage

def name : Stage → String
  | acl => "acl"
  | dns => "dns"
  | keys => "keys"
  | settings => "settings"

def title : Stage → String
  | acl => "Acl"
  | dns => "Dns"
  | keys => "Keys"
  | settings => "Settings"

end Stage

/-- What became of an application. -/
structure Outcome where
  name : String
  dryRun : Bool
  applied : Table String Nat
  outputs : Table String Value
  issued : Table String IssuedKey
  errors : List String
  warnings : List String

namespace Outcome

def start (name : String) (dryRun : Bool) (warnings : List String) : Outcome :=
  ⟨name, dryRun, [], [], [], [], warnings⟩

def succeeded (outcome : Outcome) : Bool := outcome.errors.isEmpty

def total (outcome : Outcome) : Nat := outcome.applied.values.foldl (· + ·) 0

def withOutput (outcome : Outcome) (name : String) (value : Value) : Outcome :=
  { outcome with outputs := outcome.outputs.insert name value }

/-- Note a key. The key for servers is also an output, without its secret. -/
def withKey (outcome : Outcome) (request : KeyRequest) (key : IssuedKey) : Outcome :=
  let noted := { outcome with issued := outcome.issued.insert request.name key }
  if request.name = serverKeyName then
    (noted.withOutput "reusableAuthKeyId" (.text key.id)).withOutput "reusableAuthKeyExpiry"
      key.expires
  else noted

def withFailure (outcome : Outcome) (title cause : String) : Outcome :=
  { outcome with errors := outcome.errors ++ [title ++ " failed: " ++ cause] }

/-- Note how many things a stage applied, or that it failed. -/
def closeStage (outcome : Outcome) (stage : Stage) (count : Nat) (failure : Option String) :
    Outcome :=
  match failure with
  | none => { outcome with applied := outcome.applied.insert stage.name count }
  | some cause => outcome.withFailure stage.title cause

/-- The outcome as data, with the time it took rounded to milliseconds. Secrets are not part of
it. -/
def toValue (outcome : Outcome) (seconds : Float) : Value :=
  .record
    [ ("policy", .text outcome.name),
      ("dry_run", .bool outcome.dryRun),
      ("success", .bool outcome.succeeded),
      ("applied", .record (outcome.applied.map fun (name, count) => (name, .int count))),
      ("outputs", .record outcome.outputs),
      ("duration_seconds", .scalar (.float (Decimal.roundTo 3 seconds))),
      ("errors", .texts outcome.errors),
      ("warnings", .texts outcome.warnings) ]

end Outcome

namespace ControlPlane

variable {σ : Type}

/-- Make calls one after the other until one fails. -/
def performAll (plane : ControlPlane σ) (state : σ) : List Call → σ × Option String
  | [] => (state, none)
  | call :: rest =>
    match plane.perform state call with
    | (next, .ok _) => performAll plane next rest
    | (next, .error cause) => (next, some cause)

/-- Create keys one after the other until that fails, and note each. -/
def createKeys (plane : ControlPlane σ) (state : σ) (outcome : Outcome) :
    List KeyRequest → σ × Outcome × Option String
  | [] => (state, outcome, none)
  | request :: rest =>
    match plane.perform state (.createKey request) with
    | (next, .ok key) => createKeys plane next (outcome.withKey request key) rest
    | (next, .error cause) => (next, outcome, some cause)

end ControlPlane

namespace Plan

/-- The changes to the name service, which are none if they could not be planned. -/
def changes (plan : Plan) : List DnsChange := plan.dns.getD []

def settingsCalls (plan : Plan) : List Call :=
  .updateSettings plan.settings ::
    plan.contacts.map fun (type, email) => .updateContact type email

def calls (plan : Plan) (document : String) : List Call :=
  .setAcl document :: (plan.changes.map DnsChange.call ++ plan.keys.map Call.createKey ++
    plan.settingsCalls)

def withPolicyOutput (outcome : Outcome) (document : String) : Outcome :=
  outcome.withOutput "aclId" (.text (documentId document))

def withDnsOutputs (options : DnsOptions) (outcome : Outcome) : Outcome :=
  (outcome.withOutput "magicDnsEnabled" (.bool options.magicDns)).withOutput "dnsSearchPaths"
    (.texts options.searchPaths)

variable {σ : Type}

/-- Go through one stage, unless an earlier one failed. -/
def runStage (plan : Plan) (document : String) (plane : ControlPlane σ)
    (progress : σ × Outcome) (stage : Stage) : σ × Outcome :=
  let (state, outcome) := progress
  if !outcome.succeeded then progress
  else
    match stage with
    | .acl =>
      let (next, failure) := plane.performAll state [.setAcl document]
      let noted := if failure.isNone then withPolicyOutput outcome document else outcome
      (next, noted.closeStage .acl 1 failure)
    | .dns =>
      let (next, failure) := plane.performAll state (plan.changes.map DnsChange.call)
      let noted := if failure.isNone then withDnsOutputs plan.options outcome else outcome
      (next, noted.closeStage .dns plan.changes.length failure)
    | .keys =>
      let (next, noted, failure) := plane.createKeys state outcome plan.keys
      (next, noted.closeStage .keys plan.keys.length failure)
    | .settings =>
      let (next, failure) := plane.performAll state plan.settingsCalls
      let noted :=
        if failure.isNone then outcome.withOutput "tailnetSettingsId" (.text plan.tailnet)
        else outcome
      (next, noted.closeStage .settings (1 + plan.contacts.length) failure)

def apply (plan : Plan) (plane : ControlPlane σ) (state : σ) (dryRun : Bool) : σ × Outcome :=
  let fresh := Outcome.start plan.name dryRun plan.warnings
  match plan.succeeded, plan.document with
  | true, some document =>
    if dryRun then (state, withDnsOutputs plan.options (withPolicyOutput fresh document))
    else
      [Stage.acl, .dns, .keys, .settings].foldl (plan.runStage document plane) (state, fresh)
  | _, _ =>
    (state, plan.errors.foldl (fun outcome cause => outcome.withFailure "Plan" cause) fresh)

/-- Apply a plan several times, each time dry or not. -/
def applyAll (plan : Plan) (plane : ControlPlane σ) (state : σ) : List Bool → σ × List Outcome
  | [] => (state, [])
  | dryRun :: rest =>
    let (next, outcome) := plan.apply plane state dryRun
    let (final, outcomes) := applyAll plan plane next rest
    (final, outcome :: outcomes)

end Plan

/-- Apply a source several times, each time dry or not. It is planned once; without a plan no run
gets as far as its first call. -/
def Source.applyAll {σ : Type} (source : Source) (tailnet : String) (lint : Bool)
    (plane : ControlPlane σ) (state : σ) (dryRuns : List Bool) :
    σ × List (Except CompileError Outcome) :=
  match source.plan tailnet lint with
  | .error cause => (state, dryRuns.map fun _ => .error cause)
  | .ok plan =>
    let (final, outcomes) := plan.applyAll plane state dryRuns
    (final, outcomes.map .ok)

end Tailnet
