import Tailnet.Text.Blank
import Tailnet.Text.Digit
import Tailnet.Text.Quoted
import Tailnet.Text.Split

/-!
Decimal numerals of integers. Numerals of more than 4300 digits are neither
written nor read, so that no input makes a conversion arbitrarily slow.
-/

namespace Tailnet.Integer

/-- Why a numeral could not be written or read. -/
inductive NumeralError where
  /-- The integer to write has too many digits. -/
  | tooLongToWrite
  /-- The numeral to read has too many digits. -/
  | tooLongToRead (digits : Nat)
  /-- The text is no numeral; the error carries its literal. -/
  | malformed (literal : String)
deriving DecidableEq, Repr

namespace NumeralError

/-- The wording of the error. Of a long literal only the first 200 characters are shown. -/
def message : NumeralError → String
  | tooLongToWrite =>
    "Exceeds the limit (4300 digits) for integer string conversion; " ++
      "use sys.set_int_max_str_digits() to increase the limit"
  | tooLongToRead digits =>
    "Exceeds the limit (4300 digits) for integer string conversion: value has " ++
      toString digits ++ " digits; use sys.set_int_max_str_digits() to increase the limit"
  | malformed literal =>
    "invalid literal for int() with base 10: " ++ String.ofList (literal.toList.take 200)

end NumeralError

def maxDigits : Nat := 4300

/-- Whether an integer has few enough digits to be written. -/
def isWritable (n : Int) : Bool := n.natAbs < Nat.pow 10 maxDigits

def write (n : Int) : Except NumeralError String :=
  if isWritable n then .ok (toString n) else .error .tooLongToWrite

/-- White space that may surround a numeral: any but the four information separators. -/
def isPadding (c : Char) : Bool := Text.isBlank c && !(0x1C ≤ c.toNat && c.toNat ≤ 0x1F)

/-- The number that a sequence of digit values denotes. -/
def ofDigits (digits : List Nat) : Nat := digits.foldl (fun n d => 10 * n + d) 0

def splitSign : List Char → Bool × List Char
  | '-' :: rest => (true, rest)
  | '+' :: rest => (false, rest)
  | cs => (false, cs)

/-- Read a numeral: optional padding, an optional sign, digits of any script with single
underscores between them, optional padding. The literal is quoted if that fails. -/
def readChars (literal : String) (cs : List Char) : Except NumeralError Int :=
  let inner := ((cs.dropWhile isPadding).reverse.dropWhile isPadding).reverse
  let (negative, body) := splitSign inner
  let isPart := fun c => Text.isDecimal c || c == '_'
  let groups := Text.splitAt '_' (body.takeWhile isPart)
  let digits := (body.takeWhile isPart).filterMap Text.decimalValue?
  if groups.any List.isEmpty then .error (.malformed literal)
  else if maxDigits < digits.length then .error (.tooLongToRead digits.length)
  else if !(body.dropWhile isPart).isEmpty then .error (.malformed literal)
  else .ok (if negative then -(ofDigits digits : Int) else ofDigits digits)

def read (s : String) : Except NumeralError Int := readChars (Text.quoted s) s.toList

/-- Read the numeral in a byte string, where only ASCII counts. -/
def readBytes (bytes : List UInt8) : Except NumeralError Int :=
  readChars (Text.quotedBytes bytes)
    (bytes.map fun b => if b.toNat < 0x80 then Char.ofNat b.toNat else '?')

end Tailnet.Integer
