import Tailnet.Value.Display

/-!
JSON texts of values. A format fixes line breaks, separators and which
characters are escaped; what is written is otherwise the value as it is, in its
own order.
-/

namespace Tailnet.Json

/-- Why a value has no JSON text. -/
inductive WriteError where
  | numeral (cause : Integer.NumeralError)
  /-- A number that is not finite, in a format that has no name for it. -/
  | notFinite
  /-- A value of a type that the format lacks. -/
  | unrepresentable (typeName : String)
  /-- A key of a type that cannot be written as a text. -/
  | unrepresentableKey (typeName : String)
  /-- A collection that is a part of itself. -/
  | circular
deriving DecidableEq, Repr

namespace WriteError

def message : WriteError → String
  | numeral cause => cause.message
  | notFinite => "Out of range float values are not JSON compliant"
  | unrepresentable typeName => "Object of type " ++ typeName ++ " is not JSON serializable"
  | unrepresentableKey typeName =>
    "keys must be str, int, float, bool or None, not " ++ typeName
  | circular => "Circular reference detected"

end WriteError

/-- The decisions of a JSON format. -/
structure Format where
  /-- The columns by which each level is indented; without it all stands on one line. -/
  indent : Option Nat
  /-- What separates two items on one line or ends an item before a line break. -/
  comma : List Char
  /-- What separates a key from its value. -/
  colon : List Char
  /-- Whether characters outside ASCII are written as escapes. -/
  asciiOnly : Bool
  /-- Whether numbers that are not finite are written by name. -/
  namesNonFinite : Bool

/-- One line, without any space. -/
def Format.compact : Format := ⟨none, [','], [':'], false, false⟩

/-- Every item on a line of its own, or all on one line with spaces after the separators. -/
def Format.readable : Option Nat → Format
  | some indent => ⟨some indent, [','], [':', ' '], false, false⟩
  | none => ⟨none, [',', ' '], [':', ' '], false, false⟩

/-- The format of machine-readable reports: indented, ASCII only, any number. -/
def Format.report : Format := ⟨some 2, [','], [':', ' '], true, true⟩

def unitEscape (unit : Nat) : List Char := '\\' :: 'u' :: Text.hex 4 unit

def escape (asciiOnly : Bool) (c : Char) : List Char :=
  if c = '"' then ['\\', '"']
  else if c = '\\' then ['\\', '\\']
  else if c = '\n' then ['\\', 'n']
  else if c = '\r' then ['\\', 'r']
  else if c = '\t' then ['\\', 't']
  else if c = '\x08' then ['\\', 'b']
  else if c = '\x0c' then ['\\', 'f']
  else if c.toNat < 0x20 then unitEscape c.toNat
  else if asciiOnly && 0x7F ≤ c.toNat then
    if c.toNat < 0x10000 then unitEscape c.toNat
    else
      unitEscape (0xD800 + (c.toNat - 0x10000) / 0x400) ++
        unitEscape (0xDC00 + (c.toNat - 0x10000) % 0x400)
  else [c]

def string (asciiOnly : Bool) (s : String) : List Char :=
  '"' :: s.toList.flatMap (escape asciiOnly) ++ ['"']

/-- A number, if the format has a text for it. -/
def number (format : Format) (x : Float) : Except WriteError (List Char) :=
  if format.namesNonFinite || Decimal.isFinite x then .ok (Decimal.data.render x).toList
  else .error .notFinite

def integer (n : Int) : Except WriteError (List Char) :=
  match Integer.write n with
  | .ok s => .ok s.toList
  | .error cause => .error (.numeral cause)

def scalar (format : Format) : Scalar → Except WriteError (List Char)
  | .null => .ok ['n', 'u', 'l', 'l']
  | .bool true => .ok ['t', 'r', 'u', 'e']
  | .bool false => .ok ['f', 'a', 'l', 's', 'e']
  | .int n => integer n
  | .float x => number format x
  | .nan => number format (0.0 / 0.0)
  | .text s => .ok (string format.asciiOnly s)
  | .bytes data => .error (.unrepresentable (Scalar.bytes data).typeName)
  | .date d => .error (.unrepresentable (Scalar.date d).typeName)
  | .time m => .error (.unrepresentable (Scalar.time m).typeName)

/-- A key of an object. Scalars other than texts are written as their own JSON text in quotes. -/
def key (format : Format) : Scalar → Except WriteError (List Char)
  | .text s => .ok (string format.asciiOnly s)
  | .bytes data => .error (.unrepresentableKey (Scalar.bytes data).typeName)
  | .date d => .error (.unrepresentableKey (Scalar.date d).typeName)
  | .time m => .error (.unrepresentableKey (Scalar.time m).typeName)
  | other => do
    let written ← scalar format other
    return string format.asciiOnly (String.ofList written)

def lineBreak (format : Format) (depth : Nat) : List Char :=
  match format.indent with
  | some indent => '\n' :: List.replicate (indent * depth) ' '
  | none => []

mutual

/-- The JSON text of a value at a given depth. A tuple is written as a list. -/
def chars (format : Format) (depth : Nat) : Value → Except WriteError (List Char)
  | .scalar s => scalar format s
  | .loop .. => .error .circular
  | .set members => .error (.unrepresentable (Value.set members).typeName)
  | .list [] | .tuple [] => .ok ['[', ']']
  | .list (item :: rest) | .tuple (item :: rest) => do
    let first ← chars format (depth + 1) item
    let others ← moreItems format (depth + 1) rest
    return '[' :: lineBreak format (depth + 1) ++ first ++ others ++ lineBreak format depth ++ [']']
  | .map [] => .ok ['\x7b', '\x7d']
  | .map ((k, value) :: rest) => do
    let name ← key format k
    let first ← chars format (depth + 1) value
    let others ← moreEntries format (depth + 1) rest
    return '\x7b' :: lineBreak format (depth + 1) ++ name ++ format.colon ++ first ++ others ++
      lineBreak format depth ++ ['\x7d']

/-- The items of a list after the first, each after a separator. -/
def moreItems (format : Format) (depth : Nat) : List Value → Except WriteError (List Char)
  | [] => .ok []
  | item :: rest => do
    let written ← chars format depth item
    let others ← moreItems format depth rest
    return format.comma ++ lineBreak format depth ++ written ++ others

/-- The entries of a mapping after the first, each after a separator. -/
def moreEntries (format : Format) (depth : Nat) :
    List (Scalar × Value) → Except WriteError (List Char)
  | [] => .ok []
  | (k, value) :: rest => do
    let name ← key format k
    let written ← chars format depth value
    let others ← moreEntries format depth rest
    return format.comma ++ lineBreak format depth ++ name ++ format.colon ++ written ++ others

end

def write (format : Format) (value : Value) : Except WriteError String := do
  return String.ofList (← chars format 0 value)

end Tailnet.Json
