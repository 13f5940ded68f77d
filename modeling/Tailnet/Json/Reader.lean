import Tailnet.Decimal.Binary
import Tailnet.Integer.Numeral
import Tailnet.Text.Half
import Tailnet.Value.Basic

/-!
Reading JSON texts. Objects keep their order; of two entries with one key the
later value stands at the earlier place. Besides the numbers of the standard the
names of the infinities and of the undefined number are read, and an escape may name a
surrogate alone.
-/

namespace Tailnet.Json

/-- What is wrong with a JSON text. -/
inductive Fault where
  | expectingValue
  | expectingName
  | expectingColon
  | expectingComma
  | unterminatedString
  | controlCharacter
  | invalidEscape
  | invalidUnit
  | extraData
deriving DecidableEq, Repr

namespace Fault

def message : Fault → String
  | expectingValue => "Expecting value"
  | expectingName => "Expecting property name enclosed in double quotes"
  | expectingColon => "Expecting ':' delimiter"
  | expectingComma => "Expecting ',' delimiter"
  | unterminatedString => "Unterminated string starting at"
  | controlCharacter => "Invalid control character at"
  | invalidEscape => "Invalid \\escape"
  | invalidUnit => "Invalid \\uXXXX escape"
  | extraData => "Extra data"

end Fault

/-- Why a text could not be read. -/
inductive ReadError where
  /-- A fault, with the count of characters from its place to the end of the text. -/
  | fault (what : Fault) (remaining : Nat)
  /-- An integer with too many digits. -/
  | numeral (cause : Integer.NumeralError)
deriving DecidableEq, Repr

/-- A value, or anything else, read from the beginning of a text, and the rest of the text. -/
abbrev Read (α : Type) := Except ReadError (α × List Char)

def failAt {α : Type} (what : Fault) (cs : List Char) : Except ReadError α :=
  .error (.fault what cs.length)

def isSpace (c : Char) : Bool := c == ' ' || c == '\n' || c == '\r' || c == '\t'

def skipSpace (cs : List Char) : List Char := cs.dropWhile isSpace

def hexValue? (c : Char) : Option Nat :=
  if '0' ≤ c ∧ c ≤ '9' then some (c.toNat - '0'.toNat)
  else if 'a' ≤ c ∧ c ≤ 'f' then some (c.toNat - 'a'.toNat + 10)
  else if 'A' ≤ c ∧ c ≤ 'F' then some (c.toNat - 'A'.toNat + 10)
  else none

/-- The four digits of a 16-bit unit and the rest of the text. -/
def readUnit? : List Char → Option (Nat × List Char)
  | a :: b :: c :: d :: rest => do
    let a ← hexValue? a
    let b ← hexValue? b
    let c ← hexValue? c
    let d ← hexValue? d
    return (((a * 16 + b) * 16 + c) * 16 + d, rest)
  | _ => none

/-- The character that a letter after a backslash stands for. -/
def shortEscape? (c : Char) : Option Char :=
  if c = '"' then some '"'
  else if c = '\\' then some '\\'
  else if c = '/' then some '/'
  else if c = 'b' then some '\x08'
  else if c = 'f' then some '\x0c'
  else if c = 'n' then some '\n'
  else if c = 'r' then some '\r'
  else if c = 't' then some '\t'
  else none

def consChar (c : Char) : Read (List Char) → Read (List Char)
  | .ok (cs, rest) => .ok (c :: cs, rest)
  | .error e => .error e

/-- The second unit of a pair, if it follows. -/
def lowUnit? : List Char → Option (Nat × List Char)
  | '\\' :: 'u' :: rest =>
    match readUnit? rest with
    | some (low, rest) => if 0xDC00 ≤ low && low ≤ 0xDFFF then some (low, rest) else none
    | none => none
  | _ => none

/-- Read a string after its opening quote. The count is that of the text from that quote on;
the fuel bounds the number of characters and escapes. -/
def readString (opened : Nat) : Nat → List Char → Read (List Char)
  | 0, _ => .error (.fault .unterminatedString opened)
  | _ + 1, [] => .error (.fault .unterminatedString opened)
  | fuel + 1, c :: rest =>
    if c = '"' then .ok ([], rest)
    else if c = '\\' then
      match rest with
      | [] => .error (.fault .unterminatedString opened)
      | 'u' :: digits =>
        if (digits.drop 4).isEmpty then failAt .invalidUnit ('u' :: digits)
        else
          match readUnit? digits with
          | none => failAt .invalidUnit ('u' :: digits)
          | some (unit, after) =>
            if 0xD800 ≤ unit && unit ≤ 0xDBFF then
              match lowUnit? after with
              | some (low, after) =>
                consChar (Char.ofNat (0x10000 + (unit - 0xD800) * 0x400 + (low - 0xDC00)))
                  (readString opened fuel after)
              | none => consChar (Text.Halves.usual.charOf unit) (readString opened fuel after)
            else consChar (Text.Halves.usual.charOf unit) (readString opened fuel after)
      | letter :: after =>
        match shortEscape? letter with
        | some meant => consChar meant (readString opened fuel after)
        | none => failAt .invalidEscape (c :: rest)
    else if c.toNat < 0x20 then failAt .controlCharacter (c :: rest)
    else consChar c (readString opened fuel rest)

def isDigit (c : Char) : Bool := '0' ≤ c && c ≤ '9'

/-- The digits at the beginning of a text, and the rest. -/
def readDigits (cs : List Char) : List Char × List Char :=
  (cs.takeWhile isDigit, cs.dropWhile isDigit)

def digitsValue (digits : List Char) : Nat :=
  Integer.ofDigits (digits.map fun c => c.toNat - '0'.toNat)

/-- The digits after a decimal point, if there are any. -/
def readFraction (cs : List Char) : List Char × List Char :=
  match cs with
  | '.' :: rest =>
    match readDigits rest with
    | ([], _) => ([], cs)
    | (digits, rest) => (digits, rest)
  | _ => ([], cs)

/-- The exponent at the beginning of a text, if there is one. -/
def readExponent (cs : List Char) : Option Int × List Char :=
  match cs with
  | c :: rest =>
    if c = 'e' || c = 'E' then
      let (negative, unsigned) := Integer.splitSign rest
      match readDigits unsigned with
      | ([], _) => (none, cs)
      | (digits, rest) =>
        let size : Int := digitsValue digits
        (some (if negative then -size else size), rest)
    else (none, cs)
  | [] => (none, cs)

/-- The whole digits of a number: a single zero, or digits that begin with another one. -/
def readWhole? (cs : List Char) : Option (List Char × List Char) :=
  match cs with
  | [] => none
  | c :: rest =>
    if c = '0' then some (['0'], rest)
    else if isDigit c then some (readDigits cs)
    else none

def readMagnitude (start : List Char) (negative : Bool) (cs : List Char) : Read Value :=
  match readWhole? cs with
  | none => failAt .expectingValue start
  | some (whole, rest) =>
    let (fraction, rest) := readFraction rest
    let (exponent?, rest) := readExponent rest
    match fraction, exponent? with
    | [], none =>
      if Integer.maxDigits < whole.length then
        .error (.numeral (.tooLongToRead whole.length))
      else
        let size : Int := digitsValue whole
        .ok (.int (if negative then -size else size), rest)
    | _, _ =>
      let exponent := exponent?.getD 0 - (fraction.length : Int)
      .ok (.scalar (.float (Decimal.toFloat negative (digitsValue (whole ++ fraction)) exponent)),
        rest)

/-- Names of values, each with what it means. -/
def words : List (List Char × Value) :=
  [ ("null".toList, .null),
    ("true".toList, .bool true),
    ("false".toList, .bool false),
    ("NaN".toList, .scalar (.float (0.0 / 0.0))),
    ("Infinity".toList, .scalar (.float (1.0 / 0.0))),
    ("-Infinity".toList, .scalar (.float (-1.0 / 0.0))) ]

def readPlain (cs : List Char) : Read Value :=
  match words.find? fun word => word.1.isPrefixOf cs with
  | some (name, value) => .ok (value, cs.drop name.length)
  | none =>
    match cs with
    | '-' :: rest => readMagnitude cs true rest
    | _ => readMagnitude cs false cs

mutual

/-- Read a value. The fuel bounds the depth and length of what is read. -/
def readValue : Nat → List Char → Except ReadError (Value × List Char)
  | 0, cs => failAt .expectingValue cs
  | fuel + 1, cs =>
    match cs with
    | '"' :: rest => do
      let (s, rest) ← (readString cs.length (rest.length + 1) rest : Except _ _)
      return (.text (String.ofList s), rest)
    | '[' :: rest =>
      match skipSpace rest with
      | ']' :: rest => .ok (.list [], rest)
      | rest => do
        let (items, rest) ← readItems fuel rest
        return (.list items, rest)
    | '\x7b' :: rest =>
      match skipSpace rest with
      | '\x7d' :: rest => .ok (.map [], rest)
      | rest => do
        let (entries, rest) ← readEntries fuel rest
        return (.map (Table.ofPairs entries), rest)
    | cs => readPlain cs

def readItems : Nat → List Char → Except ReadError (List Value × List Char)
  | 0, cs => failAt .expectingValue cs
  | fuel + 1, cs => do
    let (item, rest) ← readValue fuel cs
    match skipSpace rest with
    | ']' :: rest => return ([item], rest)
    | ',' :: rest =>
      let (items, rest) ← readItems fuel (skipSpace rest)
      return (item :: items, rest)
    | rest => failAt .expectingComma rest

def readEntries : Nat → List Char → Except ReadError (List (Scalar × Value) × List Char)
  | 0, cs => failAt .expectingName cs
  | fuel + 1, cs => do
    match cs with
    | '"' :: rest =>
      let (name, rest) ← (readString cs.length (rest.length + 1) rest : Except _ _)
      match skipSpace rest with
      | ':' :: rest =>
        let (value, rest) ← readValue fuel (skipSpace rest)
        let entry := (Scalar.text (String.ofList name), value)
        match skipSpace rest with
        | '\x7d' :: rest => return ([entry], rest)
        | ',' :: rest =>
          let (entries, rest) ← readEntries fuel (skipSpace rest)
          return (entry :: entries, rest)
        | rest => failAt .expectingComma rest
      | rest => failAt .expectingColon rest
    | cs => failAt .expectingName cs

end

def readChars (cs : List Char) : Except ReadError Value := do
  let (value, rest) ← readValue (cs.length + 1) (skipSpace cs)
  match skipSpace rest with
  | [] => return value
  | rest => failAt .extraData rest

def read (s : String) : Except ReadError Value := readChars s.toList

/-- The wording of a read error for the text it arose in. The place is given as line, column and
offset. -/
def ReadError.message (source : List Char) : ReadError → String
  | numeral cause => cause.message
  | fault what remaining =>
    let offset := source.length - remaining
    let before := source.take offset
    let line := before.count '\n' + 1
    let column := (before.reverse.takeWhile (· ≠ '\n')).length + 1
    what.message ++ ": line " ++ toString line ++ " column " ++ toString column ++
      " (char " ++ toString offset ++ ")"

end Tailnet.Json
