/-!
Binary floating-point numbers taken apart into integers, so that they can be
compared, truncated and printed exactly.
-/

namespace Tailnet.Decimal

/-- The magnitude `mantissa * 2 ^ exponent` of a finite number. -/
structure Binary where
  mantissa : Nat
  exponent : Int
  /-- The gap to the next smaller magnitude is half the gap to the next larger one. -/
  narrowBelow : Bool

/-- A number is finite, infinite or no number at all. -/
inductive Parts where
  | finite (negative : Bool) (magnitude : Binary)
  | infinite (negative : Bool)
  | nan

/-- The parts of a number, read from its bits. -/
def Parts.ofFloat (x : Float) : Parts :=
  let bits := x.toBits.toNat
  let negative := bits / Nat.pow 2 63 == 1
  let exponent : Nat := bits / Nat.pow 2 52 % 2048
  let fraction := bits % Nat.pow 2 52
  if exponent == 2047 then
    if fraction == 0 then .infinite negative else .nan
  else if exponent == 0 then .finite negative ⟨fraction, -1074, false⟩
  else
    .finite negative
      ⟨Nat.pow 2 52 + fraction, (exponent : Int) - 1075, fraction == 0 && exponent > 1⟩

namespace Binary

/-- The magnitude as a quotient of natural numbers, numerator first. -/
def quotient (b : Binary) : Nat × Nat :=
  (b.mantissa * Nat.pow 2 b.exponent.toNat, Nat.pow 2 (-b.exponent).toNat)

def truncate (b : Binary) : Nat := b.quotient.1 / b.quotient.2

def isIntegral (b : Binary) : Bool := b.quotient.1 % b.quotient.2 == 0

end Binary

/-- Whether a number is neither infinite nor undefined. -/
def isFinite (x : Float) : Bool :=
  match Parts.ofFloat x with
  | .finite .. => true
  | _ => false

/-- The integer that a finite number equals, if any. -/
def exactInteger? (x : Float) : Option Int :=
  match Parts.ofFloat x with
  | .finite negative magnitude =>
    if magnitude.isIntegral then
      some (if negative then -(magnitude.truncate : Int) else magnitude.truncate)
    else none
  | _ => none

/-- A quotient rounded to the nearest natural number, a half to the even neighbour. -/
def roundHalfEven (num den : Nat) : Nat :=
  let q := num / den
  let r := num % den
  if 2 * r < den then q
  else if den < 2 * r then q + 1
  else if q % 2 == 0 then q else q + 1

/-- The number nearest to `digits * 10 ^ exponent`. Beyond the range of finite numbers it is
infinite, below the least positive number it is zero. -/
def toFloat (negative : Bool) (digits : Nat) (exponent : Int) : Float :=
  let size : Int := (Nat.toDigits 10 digits).length
  let magnitude :=
    if digits == 0 || size + exponent < -330 then 0.0
    else if size + exponent > 330 then 1.0 / 0.0
    else Float.ofScientific digits (exponent < 0) exponent.natAbs
  if negative then -magnitude else magnitude

end Tailnet.Decimal
