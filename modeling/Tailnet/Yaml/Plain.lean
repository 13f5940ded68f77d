import Tailnet.Json.Reader
import Tailnet.Value.Display

/-!
The meaning of scalars that are written without quotes: the spellings of truth values, of the
absent value, of numbers, of days and of times. Every other text means itself.
-/

namespace Tailnet.Yaml

/-- Why a scalar has no value although its form or its tag is that of a truth value, a number, a day
or a time. -/
inductive MeaningError where
  | numeral (cause : Integer.NumeralError)
  /-- A text, given as a literal, that is no numeral in a base. -/
  | notInBase (base : Nat) (literal : String)
  /-- A text, given as a literal, that is no number. -/
  | notNumber (literal : String)
  | noDigits
  | noTruth (literal : String)
  | noTime
  | noCharacter
  | codeTooLarge
  | monthOutOfRange
  | dayOutOfRange
  | yearOutOfRange
  | hourOutOfRange
  | minuteOutOfRange
  | secondOutOfRange
  | offsetOutOfRange (minutes : Int)
deriving DecidableEq, Repr

def MeaningError.message : MeaningError → String
  | numeral cause => cause.message
  | notInBase base literal =>
    "invalid literal for int() with base " ++ toString base ++ ": " ++
      String.ofList (literal.toList.take 200)
  | notNumber literal => "could not convert string to float: " ++ literal
  | noDigits => "string index out of range"
  | noTruth literal => literal
  | noTime => "'NoneType' object has no attribute 'groupdict'"
  | noCharacter => "chr() arg not in range(0x110000)"
  | codeTooLarge => "Python int too large to convert to C int"
  | monthOutOfRange => "month must be in 1..12"
  | dayOutOfRange => "day is out of range for month"
  | yearOutOfRange => "year 0 is out of range"
  | hourOutOfRange => "hour must be in 0..23"
  | minuteOutOfRange => "minute must be in 0..59"
  | secondOutOfRange => "second must be in 0..59"
  | offsetOutOfRange minutes =>
    "offset must be a timedelta strictly between -timedelta(hours=24) and timedelta(hours=24), " ++
      "not " ++ spanLiteral minutes ++ "."

namespace Plain

/-- A word in lower case, with a capital, and in capitals. -/
def spellings (word : String) : List (List Char) :=
  let cs := word.toList
  [cs, (cs.take 1).map Char.toUpper ++ cs.drop 1, cs.map Char.toUpper]

/-- Whether a text is a word in one of its three spellings. -/
def isWord (words : List String) (cs : List Char) : Bool :=
  words.any fun word => (spellings word).contains cs

def bool? (cs : List Char) : Option Bool :=
  if isWord ["yes", "true", "on"] cs then some true
  else if isWord ["no", "false", "off"] cs then some false
  else none

def isNull (cs : List Char) : Bool := cs.isEmpty || cs == ['~'] || isWord ["null"] cs

/-! Numbers. -/

/-- A character that may follow the first digit of a decimal number. -/
def isDigitOrLine (c : Char) : Bool := Json.isDigit c || c == '_'

/-- Digits and underscores, with a digit first. -/
def isDigits : List Char → Bool
  | [] => false
  | c :: rest => Json.isDigit c && rest.all isDigitOrLine

/-- One or two digits that number the minutes of an hour. -/
def isSixtieth : List Char → Bool
  | [c] => Json.isDigit c
  | [c, d] => ('0' ≤ c && c ≤ '5') && Json.isDigit d
  | _ => false

def withoutLines (cs : List Char) : List Char := cs.filter (· != '_')

/-- Whether a text may follow the digits of a decimal fraction: nothing, or an exponent with a
sign. -/
def isExponent : List Char → Bool
  | [] => true
  | mark :: sign :: digits =>
    (mark == 'e' || mark == 'E') && (sign == '+' || sign == '-') && !digits.isEmpty &&
      digits.all Json.isDigit
  | [_] => false

/-- The number written with a point and perhaps an exponent. -/
def decimal? (negative : Bool) (cs : List Char) : Option Float :=
  match Text.cutFirst? '.' cs with
  | some (whole, rest) =>
    let fraction := rest.takeWhile isDigitOrLine
    let exponent := rest.dropWhile isDigitOrLine
    let digits := withoutLines fraction
    if !(whole.isEmpty || isDigits whole) || (whole.isEmpty && !isDigits fraction) ||
        !isExponent exponent then none
    else
      let power : Int := match exponent with
        | _ :: '-' :: ds => -(Json.digitsValue ds : Int)
        | _ :: _ :: ds => Json.digitsValue ds
        | _ => 0
      some (Decimal.toFloat negative (Json.digitsValue (withoutLines whole ++ digits))
        (power - digits.length))
  | none => none

def sixtiesWithPoint? (negative : Bool) (cs : List Char) : Option Float :=
  match Text.cutFirst? '.' cs with
  | some (whole, fraction) =>
    match Text.splitAt ':' whole with
    | first :: others =>
      if others.isEmpty || !isDigits first || !others.all isSixtieth ||
          !fraction.all isDigitOrLine then none
      else
        let digits := withoutLines fraction
        let toFloat := fun part => Decimal.toFloat false (Json.digitsValue (withoutLines part)) 0
        let last := others.getLastD []
        let lowest := Decimal.toFloat false (Json.digitsValue (last ++ digits)) (-digits.length)
        let parts := lowest :: ((first :: others).dropLast.reverse.map toFloat)
        let sum := (parts.foldl (fun (acc : Float × Nat) part =>
          (acc.1 + part * Float.ofNat acc.2, 60 * acc.2)) (0.0, 1)).1
        some (if negative then -sum else sum)
    | [] => none
  | none => none

def isUndefined (cs : List Char) : Bool :=
  [['.', 'n', 'a', 'n'], ['.', 'N', 'a', 'N'], ['.', 'N', 'A', 'N']].contains cs

/-- The number that a text spells as a decimal fraction or as infinite. -/
def float? (cs : List Char) : Option Float :=
  let (negative, body) := Integer.splitSign cs
  let isSigned := body.length < cs.length
  match body with
  | '.' :: rest =>
    if isWord ["inf"] rest then some (if negative then -1.0 / 0.0 else 1.0 / 0.0)
    else if isSigned then none
    else decimal? false body
  | _ => (decimal? negative body).or (sixtiesWithPoint? negative body)

def digit? (base : Nat) (c : Char) : Option Nat := (Json.hexValue? c).filter (· < base)

/-- The number that digits of a base denote, with underscores between them. -/
def inBase? (base : Nat) (cs : List Char) : Option (Except MeaningError Nat) :=
  let digits := (withoutLines cs).filterMap (digit? base)
  if cs.isEmpty || digits.length < (withoutLines cs).length then none
  else if digits.isEmpty then some (.error (.notInBase base (Text.quoted "")))
  else some (.ok (digits.foldl (fun n d => base * n + d) 0))

/-- The number that decimal digits denote, if there are not too many. -/
def inTens (cs : List Char) : Except MeaningError Nat :=
  let digits := withoutLines cs
  if Integer.maxDigits < digits.length then .error (.numeral (.tooLongToRead digits.length))
  else .ok (Json.digitsValue digits)

/-- The number that a text without a sign spells: with two, eight, ten, sixteen or sixty as its
base. -/
def natural? : List Char → Option (Except MeaningError Nat)
  | ['0'] => some (.ok 0)
  | '0' :: 'b' :: rest => inBase? 2 rest
  | '0' :: 'x' :: rest => inBase? 16 rest
  | '0' :: rest =>
    if rest.all (· == '_') then (if rest.isEmpty then none else some (.ok 0)) else inBase? 8 rest
  | cs =>
    match Text.splitAt ':' cs with
    | first :: others =>
      if isDigits first && others.all isSixtieth then
        some do others.foldlM (fun n part => return 60 * n + Json.digitsValue part) (← inTens first)
      else none
    | [] => none

def integer? (cs : List Char) : Option (Except MeaningError Int) :=
  let (negative, body) := Integer.splitSign cs
  (natural? body).map fun read => read.map fun n => if negative then -(n : Int) else n

/-! Days and times. -/

/-- A time as it is written, with the digits of its fraction, and its offset in minutes if it has
one. -/
structure Clock where
  hour : Nat
  minute : Nat
  second : Nat
  fraction : List Char
  offset : Option Int

/-- A number of one or two digits, and what follows it. -/
def oneOrTwo? : List Char → Option (Nat × List Char)
  | c :: d :: rest =>
    if !Json.isDigit c then none
    else if Json.isDigit d then some (Json.digitsValue [c, d], rest)
    else some (Json.digitsValue [c], d :: rest)
  | [c] => if Json.isDigit c then some (Json.digitsValue [c], []) else none
  | [] => none

/-- A number of two digits behind a mark, and what follows it. -/
def twoBehind? (mark : Char) : List Char → Option (Nat × List Char)
  | m :: c :: d :: rest =>
    if m == mark && Json.isDigit c && Json.isDigit d then some (Json.digitsValue [c, d], rest)
    else none
  | _ => none

/-- The offset that the end of a time spells. There may be none. -/
def offset? (cs : List Char) : Option (Option Int) :=
  match cs.dropWhile fun c => c == ' ' || c == '\t' with
  | [] => if cs.isEmpty then some none else none
  | ['Z'] => some (some 0)
  | sign :: rest =>
    if sign != '+' && sign != '-' then none
    else do
      let (hours, rest) ← oneOrTwo? rest
      let (minutes, rest) ← if rest.isEmpty then some (0, []) else twoBehind? ':' rest
      if !rest.isEmpty then none
      let distance : Int := 60 * hours + minutes
      return some (if sign == '-' then -distance else distance)

/-- The time that the rest of a text behind its day spells. -/
def clock? (cs : List Char) : Option Clock := do
  let cs ← match cs with
    | 'T' :: rest | 't' :: rest => some rest
    | c :: _ => if c == ' ' || c == '\t' then
        some (cs.dropWhile fun c => c == ' ' || c == '\t') else none
    | [] => none
  let (hour, cs) ← oneOrTwo? cs
  let (minute, cs) ← twoBehind? ':' cs
  let (second, cs) ← twoBehind? ':' cs
  let (fraction, cs) := match cs with
    | '.' :: rest => rest.span Json.isDigit
    | rest => ([], rest)
  return { hour, minute, second, fraction, offset := ← offset? cs }

/-- The day that a text begins with, which may not exist, and what follows it. -/
def dayFields? : List Char → Option (Date × List Char)
  | a :: b :: c :: d :: '-' :: rest => do
    if !List.all [a, b, c, d] Json.isDigit then none
    let (month, rest) ← oneOrTwo? rest
    let (day, rest) ← match rest with
      | '-' :: rest => oneOrTwo? rest
      | _ => none
    return (⟨Json.digitsValue [a, b, c, d], month, day⟩, rest)
  | _ => none

/-- A day, if it exists. -/
def checkDate (day : Date) : Except MeaningError Date :=
  if day.year == 0 then .error .yearOutOfRange
  else if day.month == 0 || 12 < day.month then .error .monthOutOfRange
  else if day.day == 0 || Date.daysIn day.year day.month < day.day then .error .dayOutOfRange
  else .ok day

/-- A time on a day, if both exist and the offset is less than a day. Of the fraction six digits
count. -/
def checkTime (day : Date) (clock : Clock) : Except MeaningError Moment := do
  match clock.offset with
  | some minutes => if 1440 ≤ minutes.natAbs then throw (.offsetOutOfRange minutes)
  | none => pure ()
  let date ← checkDate day
  if 24 ≤ clock.hour then throw .hourOutOfRange
  if 60 ≤ clock.minute then throw .minuteOutOfRange
  if 60 ≤ clock.second then throw .secondOutOfRange
  let digits := clock.fraction.take 6
  return {
    date
    hour := clock.hour
    minute := clock.minute
    second := clock.second
    microsecond := Json.digitsValue (digits ++ List.replicate (6 - digits.length) '0')
    offset := clock.offset }

def moment? (cs : List Char) : Option (Except MeaningError Scalar) := do
  let (day, rest) ← dayFields? cs
  if rest.isEmpty then return (checkDate day).map .date
  let clock ← clock? rest
  return (checkTime day clock).map .time

/-- The meaning of a plain scalar. A day by itself has two digits each for the month and the day. -/
def meaning (text : String) : Except MeaningError Scalar :=
  let cs := text.toList
  let moment? := (moment? cs).filter fun _ => cs.length == 10 || cs.contains ':'
  match bool? cs, float? cs, integer? cs, moment? with
  | some b, _, _, _ => .ok (.bool b)
  | none, some x, _, _ => .ok (.float x)
  | none, none, some read, _ => read.map .int
  | none, none, none, some read => read
  | none, none, none, none =>
    .ok (if isNull cs then .null else if isUndefined cs then .nan else .text text)

end Plain

end Tailnet.Yaml
