import Tailnet.Address.Printer
import Tailnet.Policy.Rule
import Tailnet.Problem

/-!
Grants by which devices are approved as exit nodes or as routers of a network
without a person's doing. Grants are unions: granting twice changes nothing.
-/

namespace Tailnet

/-- The approvers of exit nodes, and those of each network under its canonical text. Each approver
is entered under its token. -/
structure Approvals where
  exitNode : Table String Principal
  routes : Table String (Table String Principal)

/-- Why a text is no network into which routes can be approved. -/
structure RouteError where
  text : String
  cause : NetworkError

def RouteError.report (error : RouteError) : Report :=
  ⟨.invalidAddress, .text error.text,
    "Invalid route CIDR '" ++ error.text ++ "': " ++ error.cause.message, none⟩

namespace Approvals

def empty : Approvals := ⟨[], []⟩

def grant (approvers : Table String Principal) (tokens : List String) : Table String Principal :=
  tokens.foldl
    (fun acc token =>
      let p := Principal.read token
      acc.insertNew p.raw p)
    approvers

def grantExitNode (approvals : Approvals) (tokens : List String) : Approvals :=
  { approvals with exitNode := grant approvals.exitNode tokens }

/-- Let principals approve routes into a network given by its canonical text. -/
def grantRouteText (approvals : Approvals) (network : String) (tokens : List String) : Approvals :=
  let bound := (approvals.routes.get? network).getD []
  { approvals with routes := approvals.routes.insert network (grant bound tokens) }

/-- Read a network. White space around it does not count. -/
def readNetwork (written : String) : Except RouteError Network :=
  let text := Text.trim written
  (Network.read text).mapError fun cause => ⟨text, cause⟩

def grantRoute (approvals : Approvals) (written : String) (tokens : List String) :
    Except RouteError (Approvals × String) := do
  let network := (← readNetwork written).text
  return (approvals.grantRouteText network tokens, network)

/-- The approvers of the network with exactly the given text. -/
def route? (approvals : Approvals) (network : String) : Option (List Principal) :=
  (approvals.routes.get? network).map Table.values

def references (approvals : Approvals) : List Reference :=
  referencesAt [.field "autoApprovers", .field "exitNode"] approvals.exitNode.values ++
    approvals.routes.flatMap fun (network, bound) =>
      referencesAt [.field "autoApprovers", .field "routes", .entry network] bound.values

def toValue (approvals : Approvals) : Value :=
  .record
    [ ("exitNode", .texts (approvals.exitNode.values.map Principal.raw)),
      ("routes", .record (approvals.routes.map fun (network, bound) =>
        (network, .texts (bound.values.map Principal.raw)))) ]

end Approvals

end Tailnet
