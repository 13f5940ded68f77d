import Tailnet.Catalog.Basic
import Tailnet.Json.Writer
import Tailnet.Policy.Approval
import Tailnet.Text.Half

/-!
Policy documents: a sealed catalog with the rules and grants that refer to it,
and their canonical text. Keys and lists have a fixed order, so a document has
only one text.
-/

namespace Tailnet

/-- A policy that is complete and no longer changes, with the characters that stand for surrogates
in its texts. -/
structure Document where
  catalog : Catalog
  access : List AccessRule
  shell : List ShellRule
  approvals : Approvals
  references : List Reference
  halves : Text.Halves

namespace Document

/-- The document of a catalog, which is sealed by that, with rules and grants. -/
def build (catalog : Catalog) (rules : RuleSet) (approvals : Approvals)
    (halves : Text.Halves := .usual) : Document :=
  ⟨catalog.close, rules.access, rules.shell, approvals, rules.references ++ approvals.references,
    halves⟩

/-- Declared tags or groups as data, under their literals. -/
def entriesValue (mark : String) (entries : List Entry) : Value :=
  .record (entries.map fun entry =>
    (mark ++ entry.name, .texts (entry.principals.map Principal.raw)))

/-- The document as data. Groups are left out if there are none. -/
def toValue (document : Document) : Value :=
  let catalog := document.catalog
  .record <|
    (if catalog.groups.isEmpty then []
      else [("groups", entriesValue groupMark catalog.groups.values)]) ++
    [ ("tagOwners", entriesValue tagMark catalog.tags.values),
      ("hosts", .record (catalog.hosts.values.map fun host => (host.name, .text host.address))),
      ("acls", .list (document.access.map AccessRule.toValue)),
      ("ssh", .list (document.shell.map ShellRule.toValue)),
      ("autoApprovers", document.approvals.toValue) ]

end Document

/-- What keeps a value from being written, and where it stands. -/
inductive EncodingError where
  | notFinite (location : Path)
  | keyNotText (key : Scalar) (location : Path)
  | unrepresentable (typeName : String) (location : Path)
  /-- A collection that is a part of itself, in which the search for a fault does not end. -/
  | endless
  /-- A fault found only when writing. -/
  | writing (cause : Json.WriteError)
  /-- A text that has no bytes, because of surrogates. -/
  | unencodable (halves : Text.Halves) (text : String)

/-- Why an error has no report. -/
inductive UnreportedError where
  /-- A key that cannot be shown. -/
  | numeral (cause : Integer.NumeralError)
  | endless
  | unencodable
deriving DecidableEq, Repr

namespace EncodingError

def placeText (location : Path) : String := if location.text = "" then "$" else location.text

def report : EncodingError → Except UnreportedError Report
  | notFinite location => .ok (about location ("Non-finite number at " ++ placeText location))
  | keyNotText key location => do
    let shown ← key.literal.mapError .numeral
    return about location ("Non-string key " ++ shown ++ " at " ++ placeText location)
  | unrepresentable typeName location =>
    .ok (about location
      ("Value of type " ++ typeName ++ " at " ++ placeText location ++ " is not representable"))
  | endless => .error .endless
  | writing cause => .ok (about [] ("Policy could not be encoded: " ++ cause.message))
  | unencodable .. => .error .unencodable
where
  /-- A report about a place. -/
  about (location : Path) (message : String) : Report :=
    ⟨.serializationError, .text (placeText location), message, none⟩

end EncodingError

namespace Scalar

def checkWritable (location : Path) : Scalar → Except EncodingError Unit
  | float x => if Decimal.isFinite x then .ok () else .error (.notFinite location)
  | nan => .error (.notFinite location)
  | bytes data => .error (.unrepresentable (bytes data).typeName location)
  | date d => .error (.unrepresentable (date d).typeName location)
  | time m => .error (.unrepresentable (time m).typeName location)
  | _ => .ok ()

end Scalar

namespace Value

mutual

/-- Find the first part of a value that cannot be written as data. -/
def checkWritable (location : Path) : Value → Except EncodingError Unit
  | .scalar s => s.checkWritable location
  | .list items | .tuple items => checkItems location 0 items
  | .set members => .error (.unrepresentable (Value.set members).typeName location)
  | .map entries => checkEntries location entries
  | .loop .. => .error .endless

def checkItems (location : Path) (index : Nat) : List Value → Except EncodingError Unit
  | [] => .ok ()
  | item :: rest => do
    checkWritable (location ++ [.item index]) item
    checkItems location (index + 1) rest

def checkEntries (location : Path) : List (Scalar × Value) → Except EncodingError Unit
  | [] => .ok ()
  | (.text name, value) :: rest => do
    checkWritable (location ++ [.field name]) value
    checkEntries location rest
  | (key, _) :: _ => .error (.keyNotText key location)

end

end Value

/-- The canonical text of a document, with a line break at its end. A negative indentation is none.
A text that has no bytes is of no use. -/
def Document.serialize (document : Document) (indent : Option Int) :
    Except EncodingError String := do
  let value := document.toValue
  value.checkWritable []
  let cs ← (Json.chars (.readable (indent.map Int.toNat)) 0 value).mapError .writing
  let text := String.ofList cs
  if document.halves.areAbsent cs then return text ++ "\n"
  else throw (.unencodable document.halves text)

end Tailnet
