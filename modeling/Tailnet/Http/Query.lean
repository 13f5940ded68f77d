import Tailnet.Http.Percent
import Tailnet.Text.Encoding
import Tailnet.Value.Display

/-!
Queries: names and values with equals signs between them and ampersands between pairs. Free-form
parameters become the query of a URL in which a name may have any number of values.
-/

namespace Tailnet.Http

/-- Why parameters have no query. -/
inductive QueryFault where
  | numeral (cause : Integer.NumeralError)
  /-- A value of a type that holds no parameters, given by name. -/
  | notParameters (typeName : String)
  /-- An item that holds no name and value, or whose name cannot be one. -/
  | notPair
  /-- An item in which the name or the value is missing. -/
  | tooShort
  /-- An item with fields, but without a first or a second. -/
  | noField
deriving DecidableEq, Repr

def QueryFault.message : QueryFault → String
  | numeral cause => cause.message
  | notParameters typeName => "'" ++ typeName ++ "' object has no attribute 'items'"
  | notPair => "an item is no pair"
  | tooShort => "an item is too short"
  | noField => "an item has no such field"

/-- Names with all their values, by the first mention of each name. -/
abbrev Query := Table String (List String)

namespace Query

/-- A name or a value in a query, with plus signs for spaces. -/
def part (s : String) : String :=
  String.ofList (s.toList.flatMap fun c =>
    if c == ' ' then ['+'] else if isUnreserved c then [c] else escapeChar c)

def text (query : Query) : String :=
  Text.joinWith "&" (query.flatMap fun (name, values) =>
    values.map fun value => part name ++ "=" ++ part value)

def plain (cs : List Char) : String :=
  String.ofList (Text.ofBytes (unescape (cs.map fun c => if c == '+' then ' ' else c)))

def enter {κ α : Type} [BEq κ] (table : Table κ (List α)) (name : κ) (value : α) :
    Table κ (List α) :=
  table.insert name ((table.get? name).getD [] ++ [value])

/-- The names and values in the text of a query. A part without an equals sign is a name with an
empty value. -/
def ofText (s : String) : Query :=
  let parts := (Text.splitAt '&' s.toList).filter fun cs => !cs.isEmpty
  parts.foldl (fun query cs =>
    let (name, value) := (Text.cutFirst? '=' cs).getD (cs, [])
    enter query (plain name) (plain value)) []

def valueText : Value → Except QueryFault String
  | .scalar .null => .ok ""
  | .scalar (.bool true) => .ok "true"
  | .scalar (.bool false) => .ok "false"
  | value => value.display.mapError .numeral

def valuesOf : Value → List Value
  | .list items | .tuple items => items
  | value => [value]

/-- Names and values as texts. Names with the same text are one, which has the values of the
last. -/
def ofTable (table : Table Scalar (List Value)) : Except QueryFault Query := do
  let pairs ← table.mapM fun (name, values) => do
    return (← (Value.scalar name).display.mapError .numeral, ← values.mapM valueText)
  return Table.ofPairs pairs

/-- The part of an item at one of its first two positions. -/
def partAt (item : Value) (index : Nat) : Except QueryFault Value :=
  match item with
  | .map entries => (Table.get? entries (.int index)).elim (.error .noField) .ok
  | .scalar (.text _) | .scalar (.bytes _) | .list _ | .tuple _ =>
    (((item.elements?).getD [])[index]?).elim (.error .tooShort) .ok
  | .scalar _ | .set _ | .loop .. => .error .notPair

def pairOf (item : Value) : Except QueryFault (Scalar × Value) := do
  match ← partAt item 0 with
  | .scalar name => return (name, ← partAt item 1)
  | _ => throw .notPair

/-- The query that parameters stand for: a mapping, a list of pairs, or the text of a query. -/
def ofValue : Value → Except QueryFault Query
  | .map entries =>
    ofTable (entries.map fun (name, value) => (name, valuesOf value))
  | .list items | .tuple items => do
    let pairs ← items.mapM pairOf
    ofTable (pairs.foldl (fun table (name, value) => enter table name value) [])
  | .scalar (.text s) => .ok (ofText s)
  | .scalar (.bytes data) => .ok (ofText (String.ofList (Text.ofBytes data)))
  | value => .error (.notParameters value.typeName)

end Query

end Tailnet.Http
