import Tailnet.Policy.Validation
import Tailnet.Source.Basic

/-!
Compilation of a policy source: its declarations make a catalog, its rules and
grants a document, and a valid document has its canonical text. A document with
violations has none.
-/

namespace Tailnet

/-- Why a source has no document, or a document no outcome. -/
inductive CompileError where
  | catalog (cause : CatalogError)
  | route (cause : RouteError)
  | reference (report : Report)
  | encoding (cause : EncodingError)

namespace CompileError

/-- The report of the error, if it is a problem of the policy. -/
def report? : CompileError → Option Report
  | catalog cause => cause.report?
  | route cause => some cause.report
  | reference report => some report
  | encoding cause => cause.report.toOption

def message (error : CompileError) : String := (error.report?.map Report.text).getD ""

end CompileError

/-- The outcome of a compilation. Only a valid document has an output. -/
structure Compilation where
  name : String
  document : Document
  validation : Validation
  output : Option String

namespace Source

def ruleSet (source : Source) : RuleSet :=
  let withAccess := source.acls.foldl
    (fun rules spec => rules.addAccess (.read spec.action spec.sources spec.destinations))
    RuleSet.empty
  source.ssh.foldl
    (fun rules spec =>
      rules.addShell (.read spec.action spec.sources spec.destinations spec.users
        (.optionalText spec.checkPeriod)))
    withAccess

def approvals (source : Source) : Except RouteError Approvals :=
  source.routes.foldlM (fun acc spec => return (← acc.grantRoute spec.network spec.approvers).1)
    (Approvals.empty.grantExitNode source.exitNode)

def document (source : Source) : Except CompileError Document := do
  let catalog ←
    (Catalog.ofDeclarations source.groups source.tagOwners source.hosts).mapError .catalog
  let approvals ← source.approvals.mapError .route
  return .build catalog source.ruleSet approvals source.halves

def compile (source : Source) (lint : Bool) (indent : Option Int) :
    Except CompileError Compilation := do
  let document ← source.document
  let validation ← (document.validate lint).mapError .reference
  if validation.isValid then
    let text ← (document.serialize indent).mapError .encoding
    return ⟨source.name, document, validation, some text⟩
  else return ⟨source.name, document, validation, none⟩

end Source

namespace Compilation

def succeeded (compilation : Compilation) : Bool :=
  compilation.validation.isValid && compilation.output.isSome

end Compilation

end Tailnet
