import Tailnet.Decimal.Shortest

/-!
The written form of numbers: the shortest digits, laid out positionally or with
an exponent, and fixed numbers of places.
-/

namespace Tailnet.Decimal

/-- The decisions of a number format. Exponents of the leading digit from `plainFrom` up to but
not including `plainBelow` are written positionally. -/
structure Layout where
  plainFrom : Int
  plainBelow : Int
  exponentWidth : Nat
  nan : String
  infinity : String

/-- The exponent part, with its sign and at least the given number of digits. -/
def exponentText (width : Nat) (exponent : Int) : List Char :=
  let digits := Nat.toDigits 10 exponent.natAbs
  'e' :: (if exponent < 0 then '-' else '+') ::
    (List.replicate (width - digits.length) '0' ++ digits)

/-- A positive decimal laid out. Positional numbers always have a point and a digit behind it. -/
def Layout.text (layout : Layout) (d : Scaled) : List Char :=
  let digits := Nat.toDigits 10 d.digits
  let lead := d.exponent + digits.length - 1
  if layout.plainFrom ≤ lead && lead < layout.plainBelow then
    if 0 ≤ d.exponent then digits ++ List.replicate d.exponent.toNat '0' ++ ['.', '0']
    else if 0 ≤ lead then
      digits.take (lead + 1).toNat ++ '.' :: digits.drop (lead + 1).toNat
    else '0' :: '.' :: (List.replicate (-lead - 1).toNat '0' ++ digits)
  else
    match digits with
    | [] => []
    | [d] => d :: exponentText layout.exponentWidth lead
    | d :: more => d :: '.' :: more ++ exponentText layout.exponentWidth lead

def Layout.render (layout : Layout) (x : Float) : String :=
  match Parts.ofFloat x with
  | .nan => layout.nan
  | .infinite negative => if negative then "-" ++ layout.infinity else layout.infinity
  | .finite negative magnitude =>
    let body := if magnitude.mantissa == 0 then ['0', '.', '0'] else layout.text magnitude.shortest
    String.ofList (if negative then '-' :: body else body)

/-- Numbers shown to people: positional from `0.0001` up to below `10 ^ 16`, otherwise with a
signed exponent of two digits. -/
def plain : Layout := ⟨-4, 16, 2, "nan", "inf"⟩

/-- Numbers in data files, which spell out the values that are not finite. -/
def data : Layout := { plain with nan := "NaN", infinity := "Infinity" }

/-- The count of units of `10 ^ -places` nearest to the magnitude of a finite number. -/
def Binary.inPlaces (b : Binary) (places : Nat) : Nat :=
  let (num, den) := b.inUnits (-(places : Int))
  roundHalfEven num den

/-- A number rounded to a number of decimal places. -/
def roundTo (places : Nat) (x : Float) : Float :=
  match Parts.ofFloat x with
  | .finite negative magnitude => toFloat negative (magnitude.inPlaces places) (-(places : Int))
  | _ => x

/-- A number with exactly one decimal place. -/
def oneDecimal (x : Float) : String :=
  match Parts.ofFloat x with
  | .finite negative magnitude =>
    let tenths := magnitude.inPlaces 1
    let body := toString (tenths / 10) ++ "." ++ toString (tenths % 10)
    if negative then "-" ++ body else body
  | _ => plain.render x

end Tailnet.Decimal
