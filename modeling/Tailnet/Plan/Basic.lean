import Tailnet.Digest.Sha256
import Tailnet.Plan.Dns
import Tailnet.Plan.Key
import Tailnet.Policy.Compilation
import Tailnet.Text.Encoding

/-!
Plans: what would be applied to a tailnet, and every problem that stands in the
way. A plan with errors is still complete in its other parts.
-/

namespace Tailnet

def documentId (document : String) : String := Digest.sha256 (Text.bytesOf document)

/-- What would be applied to a tailnet. -/
structure Plan where
  name : String
  environment : Option String
  tailnet : String
  document : Option String
  options : DnsOptions
  dns : Option (List DnsChange)
  keys : List KeyRequest
  settings : Mapping
  contacts : Table String String
  errors : List String
  warnings : List String

/-- The line of a violation, or the reason why it cannot be written. -/
def Violation.shown (v : Violation) : String :=
  match v.line with
  | .ok line => line
  | .error cause => cause.message

/-- The warning about a key's tag that nobody declared. -/
def unknownTagWarning (tag : String) : String :=
  "Auth key tag '" ++ tag ++ "' has no tagOwners entry"

namespace Source

/-- What a source asks for, and what of its compilation stands in the way. -/
def draft (source : Source) (tailnet : String) (lint : Bool) : Plan :=
  let compiled := source.compile lint (some 2)
  let dns := source.tailnet.dns.plan
  let keys := source.tailnet.keys.plan
  let compileErrors := match compiled with
    | .ok compilation => compilation.validation.violations.map Violation.shown
    | .error cause => [cause.message]
  let dnsErrors := match dns with
    | .ok _ => []
    | .error cause => ["DNS: " ++ cause.message]
  let warnings := match compiled with
    | .ok compilation =>
      let known := compilation.document.catalog.tags.values.map fun tag => tagMark ++ tag.name
      compilation.validation.warnings.map Unused.message ++
        (unknownTags keys known).map unknownTagWarning
    | .error _ => []
  { name := source.name
    environment := source.environment
    tailnet
    document := compiled.toOption.bind Compilation.output
    options := source.tailnet.dns
    dns := dns.toOption
    keys
    settings := source.tailnet.settings
    contacts := source.tailnet.contacts
    errors := compileErrors ++ dnsErrors
    warnings }

/-- Plan what a source asks for. An error of its compilation that is no problem of the policy leaves
no plan. -/
def plan (source : Source) (tailnet : String) (lint : Bool) : Except CompileError Plan :=
  match source.compile lint (some 2) with
  | .error cause =>
    if cause.report?.isSome then .ok (source.draft tailnet lint) else .error cause
  | .ok _ => .ok (source.draft tailnet lint)

end Source

namespace Plan

def succeeded (plan : Plan) : Bool := plan.errors.isEmpty

def documentSummary (plan : Plan) (document : String) : Value :=
  .record
    [ ("name", .text plan.name),
      ("sha256", .text (documentId document)),
      ("size", .int (Text.bytesOf document).length) ]

/-- A change to the name service as it is shown in a plan: its kind, then its fields. A field of
the same name takes the place of the kind. -/
def dnsSummary (change : DnsChange) : Value :=
  .map (Table.update [(.text "kind", .text change.kind)]
    (change.payload.map fun (name, value) => (Scalar.text name, value)))

def contactSummary (contact : String × String) : Value :=
  .record [("type", .text contact.1), ("email", .text contact.2)]

/-- All that would be applied, by section. Sections without content are left out, except the name
service and the settings. -/
def resources (plan : Plan) : List (String × List Value) :=
  (match plan.document with
    | some document => [("acl", [plan.documentSummary document])]
    | none => []) ++
  (match plan.dns with
    | some changes => [("dns", changes.map dnsSummary)]
    | none => []) ++
  (if plan.keys.isEmpty then [] else [("keys", plan.keys.map KeyRequest.summary)]) ++
  [("settings", [.map plan.settings])] ++
  (if plan.contacts.isEmpty then [] else [("contacts", plan.contacts.map contactSummary)])

def total (plan : Plan) : Nat := (plan.resources.flatMap fun section_ => section_.2).length

def toValue (plan : Plan) : Value :=
  .record
    [ ("policy", .text plan.name),
      ("environment", .optionalText plan.environment),
      ("tailnet", .text plan.tailnet),
      ("success", .bool plan.succeeded),
      ("total_resources", .int plan.total),
      ("resources", .record (plan.resources.map fun (name, list) => (name, .list list))),
      ("errors", .texts plan.errors),
      ("warnings", .texts plan.warnings) ]

end Plan

end Tailnet
