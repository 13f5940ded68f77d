import Tailnet.Path
import Tailnet.Principal.Destination

/-!
Access rules and shell rules in the order in which they were added. Rules are
never reordered, merged or dropped, since their order may matter to whoever
evaluates them.
-/

namespace Tailnet

/-- A principal that is to be resolved, and where it stands. -/
structure Reference where
  principal : Principal
  location : Path
deriving DecidableEq, Repr

/-- A rule on network access. -/
structure AccessRule where
  action : String
  sources : List Principal
  destinations : List Destination

/-- A rule on shell access. The period after which a check is repeated is kept as written. -/
structure ShellRule where
  action : String
  sources : List Principal
  destinations : List Principal
  users : List String
  checkPeriod : Value

/-- The rules of a policy and the principals they speak of. -/
structure RuleSet where
  access : List AccessRule
  shell : List ShellRule
  references : List Reference

def referencesAt (location : Path) (principals : List Principal) : List Reference :=
  principals.zipIdx.map fun (p, i) => ⟨p, location ++ [.item i]⟩

namespace AccessRule

def read (action : String) (sources destinations : List String) : AccessRule :=
  ⟨Text.trim action, sources.map Principal.read, destinations.map Destination.read⟩

def references (rule : AccessRule) (index : Nat) : List Reference :=
  referencesAt [.field "acls", .item index, .field "src"] rule.sources ++
    referencesAt [.field "acls", .item index, .field "dst"]
      (rule.destinations.map Destination.target)

/-- The rule as data, with its tokens as written. -/
def toValue (rule : AccessRule) : Value :=
  .record
    [ ("action", .text rule.action),
      ("src", .texts (rule.sources.map Principal.raw)),
      ("dst", .texts (rule.destinations.map Destination.raw)) ]

end AccessRule

namespace ShellRule

/-- The rule with an action, sources, destinations and login users as written. -/
def read (action : String) (sources destinations users : List String) (checkPeriod : Value) :
    ShellRule :=
  ⟨Text.trim action, sources.map Principal.read, destinations.map Principal.read,
    users.map Text.trim, checkPeriod⟩

def references (rule : ShellRule) (index : Nat) : List Reference :=
  referencesAt [.field "ssh", .item index, .field "src"] rule.sources ++
    referencesAt [.field "ssh", .item index, .field "dst"] rule.destinations

/-- The rule as data, with its tokens as written and the period only if there is one. -/
def toValue (rule : ShellRule) : Value :=
  .record <|
    [ ("action", .text rule.action),
      ("src", .texts (rule.sources.map Principal.raw)),
      ("dst", .texts (rule.destinations.map Principal.raw)),
      ("users", .texts rule.users) ] ++
      (if rule.checkPeriod.isNull then [] else [("checkPeriod", rule.checkPeriod)])

end ShellRule

namespace RuleSet

def empty : RuleSet := ⟨[], [], []⟩

def addAccess (rules : RuleSet) (rule : AccessRule) : RuleSet :=
  { rules with
    access := rules.access ++ [rule]
    references := rules.references ++ rule.references rules.access.length }

def addShell (rules : RuleSet) (rule : ShellRule) : RuleSet :=
  { rules with
    shell := rules.shell ++ [rule]
    references := rules.references ++ rule.references rules.shell.length }

end RuleSet

end Tailnet
