import Tailnet.Path
import Tailnet.Value.Display

/-!
Reports of what is wrong with a policy: the kind of the problem, the token it is
about, a message and the place of the token.
-/

namespace Tailnet

/-- The kinds of problems. -/
inductive ProblemKind where
  | duplicateIdentifier
  | ambiguousIdentifier
  | invalidIdentifier
  | invalidAddress
  | unknownIdentifier
  | unownedTag
  | invalidRule
  | serializationError
deriving DecidableEq, Repr

def ProblemKind.name : ProblemKind → String
  | duplicateIdentifier => "DuplicateIdentifier"
  | ambiguousIdentifier => "AmbiguousIdentifier"
  | invalidIdentifier => "InvalidIdentifier"
  | invalidAddress => "InvalidAddress"
  | unknownIdentifier => "UnknownIdentifier"
  | unownedTag => "UnownedTag"
  | invalidRule => "InvalidRule"
  | serializationError => "SerializationError"

/-- A report of a problem. -/
structure Report where
  kind : ProblemKind
  identifier : Value
  message : String
  location : Option Path

namespace Report

/-- A report about a text. Without a message of its own the text is the message. -/
def ofText (kind : ProblemKind) (identifier : String) (message : Option String)
    (location : Option Path) : Report :=
  let message := match message with
    | some "" => identifier
    | some message => message
    | none => identifier
  ⟨kind, .text identifier, message, location⟩

/-- The place of the problem as it is added to a text; nothing if the place is not known. -/
def place (report : Report) : String :=
  match report.location with
  | some path => if path.text = "" then "" else " at " ++ path.text
  | none => ""

def text (report : Report) : String := report.message ++ report.place

/-- The full line: kind, token, place and message. -/
def line (report : Report) : Except Integer.NumeralError String := do
  return report.kind.name ++ "(" ++ (← report.identifier.display) ++ ")" ++ report.place ++ ": " ++
    report.message

end Report

end Tailnet
