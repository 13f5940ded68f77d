import Tailnet.Text.Encoding
import Tailnet.Text.Lowercase
import Tailnet.Yaml.Error
import Tailnet.Yaml.Plain

/-!
The meaning of scalars whose type is given by a tag. A tag accepts more spellings than a scalar
without quotes can have, and refuses what does not spell a value of its type.
-/

namespace Tailnet.Yaml

/-- The types that a tag may give to a scalar. -/
inductive ScalarType where
  | null
  | bool
  | int
  | float
  | binary
  | timestamp
  | text
deriving DecidableEq, Repr

/-- The types that a tag may give to a collection. -/
inductive CollectionType where
  | sequence
  | mapping
  | set
  | orderedMapping
  | pairs
deriving DecidableEq, Repr

/-- What a tag says of a node. The types of the keys that take over other mappings and of the sign
of equality are no types of values. -/
inductive NodeType where
  | scalar (type : ScalarType)
  | collection (type : CollectionType)
  | merge
  | equals
  | unknown
deriving DecidableEq, Repr

def languageTag (name : String) : String := "tag:yaml.org,2002:" ++ name

def NodeType.ofTag (tag : String) : NodeType :=
  (([("null", scalar .null), ("bool", scalar .bool), ("int", scalar .int),
      ("float", scalar .float), ("binary", scalar .binary), ("timestamp", scalar .timestamp),
      ("str", scalar .text), ("seq", collection .sequence), ("map", collection .mapping),
      ("set", collection .set), ("omap", collection .orderedMapping),
      ("pairs", collection .pairs), ("merge", merge), ("value", equals)] :
    Table String NodeType).find? fun entry => languageTag entry.1 == tag).elim unknown Prod.snd

namespace Tagged

/-! Numbers. -/

def trim (cs : List Char) : List Char :=
  ((cs.dropWhile Integer.isPadding).reverse.dropWhile Integer.isPadding).reverse

def literal (cs : List Char) : String := Text.quoted (String.ofList cs)

/-- The value of a digit of any script, or of a letter that is a hexadecimal digit. -/
def digitValue? (c : Char) : Option Nat := (Text.decimalValue? c).or (Json.hexValue? c)

/-- The integer that a text spells in a base that is a power of two. A mark of the base may stand
before its digits. -/
def inPowerOfTwo (base : Nat) (mark : Char) (cs : List Char) : Except MeaningError Int :=
  let (negative, body) := Integer.splitSign (trim cs)
  let digits := match body with
    | '0' :: c :: rest => if c.toLower == mark then rest else body
    | _ => body
  let values := digits.map digitValue?
  if digits.isEmpty || values.any fun value => !value.any (· < base) then
    .error (.notInBase base (literal cs))
  else
    let n : Nat := (values.filterMap id).foldl (fun n d => base * n + d) 0
    .ok (if negative then -(n : Int) else n)

def inTens (cs : List Char) : Except MeaningError Int :=
  (Integer.read (String.ofList cs)).mapError .numeral

/-- A text without underscores, cut into its sign and the rest. A text of which nothing is left has
no sign to look for. -/
def signed (cs : List Char) : Except MeaningError (Bool × List Char) :=
  let written := cs.filter (· != '_')
  if written.isEmpty then .error .noDigits else .ok (Integer.splitSign written)

/-- The integer that a text spells, in any of the bases and in sixties. -/
def integer (cs : List Char) : Except MeaningError Int := do
  let (negative, body) ← signed cs
  let n ← match body with
    | [] => throw .noDigits
    | ['0'] => pure 0
    | '0' :: 'b' :: rest => inPowerOfTwo 2 'b' rest
    | '0' :: 'x' :: rest => inPowerOfTwo 16 'x' rest
    | '0' :: _ => inPowerOfTwo 8 'o' body
    | _ =>
      if body.contains ':' then
        (← (Text.splitAt ':' body).mapM inTens).foldlM (fun n digit => pure (60 * n + digit)) 0
      else inTens body
  return if negative then -n else n

/-- The exponent that the rest of a number spells, which may be empty. -/
def exponent? : List Char → Option Int
  | [] => some 0
  | c :: rest =>
    if c != 'e' && c != 'E' then none
    else
      let (negative, digits) := Integer.splitSign rest
      if digits.isEmpty || !digits.all Text.isDecimal then none
      else
        let n : Int := Integer.ofDigits (digits.filterMap Text.decimalValue?)
        some (if negative then -n else n)

/-- The number that a text spells: with digits and perhaps a point and an exponent, or by name. -/
def number (cs : List Char) : Except MeaningError Float :=
  let (negative, body) := Integer.splitSign (trim cs)
  let (whole, rest) := body.span Text.isDecimal
  let (fraction, rest) := match rest with
    | '.' :: rest => rest.span Text.isDecimal
    | rest => ([], rest)
  let digits := (whole ++ fraction).filterMap Text.decimalValue?
  let name := String.ofList (body.map Char.toLower)
  if name == "inf" || name == "infinity" then
    .ok (if negative then -1.0 / 0.0 else 1.0 / 0.0)
  else if name == "nan" then .ok (0.0 / 0.0)
  else
    match exponent? rest with
    | some power =>
      if digits.isEmpty then .error (.notNumber (literal cs))
      else
        .ok (Decimal.toFloat negative (Integer.ofDigits digits) (power - fraction.length))
    | none => .error (.notNumber (literal cs))

/-- The number that a text spells, as a scalar. The undefined number of documents has a name of its
own. -/
def float (cs : List Char) : Except MeaningError Scalar := do
  let (negative, body) ← signed (cs.map Char.toLower)
  let x ←
    if body == ".inf".toList then pure (1.0 / 0.0)
    else if body == ".nan".toList then return .nan
    else if body.contains ':' then
      let parts ← (Text.splitAt ':' body).mapM number
      pure (parts.reverse.foldl (fun sum part => (sum.1 + part * sum.2, sum.2 * 60.0))
        ((0.0, 1.0) : Float × Float)).1
    else number body
  return .float (if negative then -1.0 * x else x)

/-! Bytes. -/

def sixBits? (c : Char) : Option Nat := (List.range 64).find? fun n => Text.Base64.digit n == c

/-- The bits of characters, up to the equals signs that fill up the last group. Other characters
count for nothing. -/
def bitsOf (taken pads : Nat) : List Char → List Nat
  | [] => []
  | c :: rest =>
    if c == '=' then
      if 2 ≤ taken % 4 && 4 ≤ taken % 4 + pads + 1 then []
      else bitsOf taken (if 2 ≤ taken % 4 then pads + 1 else pads) rest
    else
      match sixBits? c with
      | some bits => bits :: bitsOf (taken + 1) 0 rest
      | none => bitsOf taken pads rest

/-- The bytes that groups of six bits make up. Bits that are left over count for nothing. -/
def bytesOfBits : List Nat → List UInt8
  | a :: b :: c :: d :: rest =>
    UInt8.ofNat (4 * a + b / 16) :: UInt8.ofNat (16 * b + c / 4) :: UInt8.ofNat (64 * c + d) ::
      bytesOfBits rest
  | [a, b, c] => [UInt8.ofNat (4 * a + b / 16), UInt8.ofNat (16 * b + c / 4)]
  | [a, b] => [UInt8.ofNat (4 * a + b / 16)]
  | _ => []

/-- Whether the equals signs at the end of characters fill up the last group of them. -/
def isFilledUp (taken pads : Nat) : List Char → Bool
  | [] => taken % 4 == 0
  | c :: rest =>
    if c == '=' then
      (2 ≤ taken % 4 && 4 ≤ taken % 4 + pads + 1) ||
        isFilledUp taken (if 2 ≤ taken % 4 then pads + 1 else pads) rest
    else if (sixBits? c).isSome then isFilledUp (taken + 1) 0 rest
    else isFilledUp taken pads rest

/-- The bytes that a text in letters and digits stands for, or what is wrong with it. -/
def bytes (text : String) : Except String (List UInt8) :=
  let cs := text.toList
  if cs.any fun c => 0x80 ≤ c.toNat then
    .error ("failed to convert base64 data into ascii: " ++ Text.asciiMessage text)
  else
    let bits := bitsOf 0 0 cs
    if isFilledUp 0 0 cs then .ok (bytesOfBits bits)
    else if bits.length % 4 == 1 then
      .error ("failed to decode base64 data: Invalid base64-encoded string: number of data " ++
        "characters (" ++ toString bits.length ++ ") cannot be 1 more than a multiple of 4")
    else .error "failed to decode base64 data: Incorrect padding"

/-! Scalars. -/

/-- Why a scalar with a tag has no value. -/
inductive TagError where
  | meaningless (error : MeaningError)
  /-- Letters and digits that stand for no bytes. -/
  | undecodable (message : String)

def bool (text : String) : Except MeaningError Bool :=
  let word := Text.lower text
  if ["yes", "true", "on"].contains word then .ok true
  else if ["no", "false", "off"].contains word then .ok false
  else .error (.noTruth (Text.quoted word))

/-- The day or the time that a text spells. A line break may end it. -/
def timestamp (cs : List Char) : Except MeaningError Scalar :=
  match Plain.moment? (if cs.getLast? == some '\n' then cs.dropLast else cs) with
  | some read => read
  | none => .error .noTime

def meaning (type : ScalarType) (text : String) : Except TagError Scalar :=
  match type with
  | .null => .ok .null
  | .text => .ok (.text text)
  | .bool => ((bool text).mapError .meaningless).map .bool
  | .int => ((integer text.toList).mapError .meaningless).map .int
  | .float => (float text.toList).mapError .meaningless
  | .timestamp => (timestamp text.toList).mapError .meaningless
  | .binary => ((bytes text).mapError .undecodable).map .bytes

end Tagged

end Tailnet.Yaml
