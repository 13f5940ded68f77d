import Tailnet.Integer.Numeral
import Tailnet.Json.Reader
import Tailnet.Text.Blank
import Tailnet.Text.Split

/-!
Integers as settings hold them. The plain form is a minus sign, if any, and digits without needless
zeros. Other forms are brought into the plain one first: blanks around the number, a plus sign,
zeros before it, a fraction of zeros behind it and underscores between its digits are left out.
-/

namespace Tailnet.Settings

/-- A minus sign at the beginning, if there is one, and what follows it. -/
def splitMinus : List Char → Bool × List Char
  | '-' :: rest => (true, rest)
  | cs => (false, cs)

/-- Whether more digits than can be read stand at the beginning of a text, behind the sign. -/
def isTooLong (cs : List Char) : Bool :=
  let digits := (splitMinus cs).2.takeWhile Json.isDigit
  digits.head? != some '0' && Integer.maxDigits < digits.length

def plainInteger? (cs : List Char) : Option Int :=
  let (negative, digits) := splitMinus cs
  let isPlain := match digits with
    | [] => false
    | first :: rest => digits.all Json.isDigit && (first != '0' || rest.isEmpty)
  if isPlain && digits.length ≤ Integer.maxDigits then
    let n := Json.digitsValue digits
    some (if negative then -(n : Int) else n)
  else none

/-- A blank that may stand around a number. The separators of data are none. -/
def isSpace (c : Char) : Bool :=
  Text.isBlank c && !(0x1C ≤ c.toNat && c.toNat ≤ 0x1F)

def trimSpaces (cs : List Char) : List Char :=
  ((cs.dropWhile isSpace).reverse.dropWhile isSpace).reverse

/-- A number without a plus sign before it. The sign cannot stand before another one. -/
def withoutPlus : List Char → Option (List Char)
  | '+' :: '-' :: _ => none
  | '+' :: rest => some rest
  | cs => some cs

/-- Leave out zeros and underscores behind a zero, up to the number itself. Of a number that is a
fraction, or nothing but zeros, the last of them stays. -/
def dropZeros (last : Char) : List Char → Option (List Char)
  | [] => some [last]
  | c :: rest =>
    if c = '0' ∨ c = '_' then dropZeros c rest
    else if ('1' ≤ c ∧ c ≤ '9') ∨ c = '-' then some (c :: rest)
    else if c = '.' then some (last :: c :: rest)
    else none

def withoutZeros : List Char → Option (List Char)
  | [] => none
  | c :: rest =>
    if c = '0' then dropZeros c rest
    else if ('1' ≤ c ∧ c ≤ '9') ∨ c = '-' then some (c :: rest)
    else none

def withoutFraction (cs : List Char) : List Char :=
  match Text.cutFirst? '.' cs with
  | some (whole, fraction) =>
    if !fraction.isEmpty && fraction.all (· == '0') then whole else cs
  | none => cs

/-- A number without underscores, if they stand between other characters only. -/
def withoutLines (cs : List Char) : List Char :=
  if (Text.splitAt '_' cs).any List.isEmpty then cs else cs.filter (· != '_')

def simplify? (cs : List Char) : Option (List Char) :=
  ((withoutPlus (trimSpaces cs)).bind withoutZeros).map fun cs => withoutLines (withoutFraction cs)

end Tailnet.Settings
