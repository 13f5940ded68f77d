import Tailnet.Decimal.Notation
import Tailnet.Integer.Numeral
import Tailnet.Value.Basic

/-!
The text of a value. A text is shown as it is and everything else as a literal;
inside lists and mappings texts are literals too. Writing fails only on an
integer with too many digits.
-/

namespace Tailnet

def zeroPadded (width n : Nat) : String :=
  let digits := toString n
  String.ofList (List.replicate (width - digits.length) '0') ++ digits

/-- A day as year, month and day with hyphens. -/
def Date.text (d : Date) : String :=
  zeroPadded 4 d.year ++ "-" ++ zeroPadded 2 d.month ++ "-" ++ zeroPadded 2 d.day

def Date.literal (d : Date) : String :=
  "datetime.date(" ++ toString d.year ++ ", " ++ toString d.month ++ ", " ++ toString d.day ++ ")"

/-- An offset from universal time as hours and minutes with a sign. -/
def offsetText (minutes : Int) : String :=
  (if minutes < 0 then "-" else "+") ++ zeroPadded 2 (minutes.natAbs / 60) ++ ":" ++
    zeroPadded 2 (minutes.natAbs % 60)

/-- The literal of a span of minutes, in whole days and the seconds after them. -/
def spanLiteral (minutes : Int) : String :=
  let days := minutes.fdiv 1440
  let seconds := 60 * minutes.fmod 1440
  let parts := (if days = 0 then [] else ["days=" ++ toString days]) ++
    (if seconds = 0 then [] else ["seconds=" ++ toString seconds])
  "datetime.timedelta(" ++ (if parts.isEmpty then "0" else Text.joinWith ", " parts) ++ ")"

namespace Moment

/-- A time as its day, the time of the day and the offset. -/
def text (m : Moment) : String :=
  m.date.text ++ " " ++ zeroPadded 2 m.hour ++ ":" ++ zeroPadded 2 m.minute ++ ":" ++
    zeroPadded 2 m.second ++
    (if m.microsecond = 0 then "" else "." ++ zeroPadded 6 m.microsecond) ++
    (m.offset.map offsetText).getD ""

/-- The literal of a time. Seconds are left out if they are zero. -/
def literal (m : Moment) : String :=
  let fields := [m.date.year, m.date.month, m.date.day, m.hour, m.minute] ++
    (if m.microsecond = 0 then (if m.second = 0 then [] else [m.second])
      else [m.second, m.microsecond])
  let zone := match m.offset with
    | none => []
    | some 0 => ["tzinfo=datetime.timezone.utc"]
    | some minutes => ["tzinfo=datetime.timezone(" ++ spanLiteral minutes ++ ")"]
  "datetime.datetime(" ++ Text.joinWith ", " (fields.map toString ++ zone) ++ ")"

end Moment

namespace Scalar

def literal : Scalar → Except Integer.NumeralError String
  | null => .ok "None"
  | bool b => .ok (if b then "True" else "False")
  | int n => Integer.write n
  | float x => .ok (Decimal.plain.render x)
  | nan => .ok "nan"
  | text s => .ok (Text.quoted s)
  | bytes data => .ok (Text.quotedBytes data)
  | date d => .ok d.literal
  | time m => .ok m.literal

def display : Scalar → Except Integer.NumeralError String
  | text s => .ok s
  | date d => .ok d.text
  | time m => .ok m.text
  | s => s.literal

def typeName : Scalar → String
  | null => "NoneType"
  | bool _ => "bool"
  | int _ => "int"
  | float _ | nan => "float"
  | text _ => "str"
  | bytes _ => "bytes"
  | date _ => "date"
  | time _ => "datetime"

end Scalar

namespace Value

mutual

def literal : Value → Except Integer.NumeralError String
  | .scalar s => s.literal
  | .list items => do return "[" ++ Text.joinWith ", " (← itemLiterals items) ++ "]"
  | .tuple items => do
    let written ← itemLiterals items
    return "(" ++ Text.joinWith ", " written ++ (if written.length = 1 then ",)" else ")")
  | .set members => do
    let written ← members.mapM Scalar.literal
    return if written.isEmpty then "set()" else "\x7b" ++ Text.joinWith ", " written ++ "\x7d"
  | .map entries => do return "\x7b" ++ Text.joinWith ", " (← entryLiterals entries) ++ "\x7d"
  | .loop _ .list => .ok "[...]"
  | .loop _ .tuple => .ok "(...)"
  | .loop _ .map => .ok "\x7b...\x7d"

def itemLiterals : List Value → Except Integer.NumeralError (List String)
  | [] => .ok []
  | item :: rest => do
    let first ← literal item
    return first :: (← itemLiterals rest)

def entryLiterals : List (Scalar × Value) → Except Integer.NumeralError (List String)
  | [] => .ok []
  | (key, value) :: rest => do
    let first := (← key.literal) ++ ": " ++ (← literal value)
    return first :: (← entryLiterals rest)

end

def display : Value → Except Integer.NumeralError String
  | .scalar s => s.display
  | value => value.literal

def typeName : Value → String
  | .scalar s => s.typeName
  | .list _ | .loop _ .list => "list"
  | .tuple _ | .loop _ .tuple => "tuple"
  | .set _ => "set"
  | .map _ | .loop _ .map => "dict"

end Value

end Tailnet
