import Tailnet.Decimal.Binary

/-!
The decimal with the fewest digits that reads back as a given binary number. Of
several decimals of that length it is the one nearest to the number, and the
even one if two are equally near.
-/

namespace Tailnet.Decimal

/-- The decimal `digits * 10 ^ exponent`. -/
structure Scaled where
  digits : Nat
  exponent : Int
deriving DecidableEq, Repr

def compareScaled (a : Nat) (i : Int) (n : Nat) (j : Int) : Ordering :=
  compare (a * Nat.pow 10 i.toNat * Nat.pow 2 (-j).toNat)
    (n * Nat.pow 2 j.toNat * Nat.pow 10 (-i).toNat)

/-- Whether a decimal lies among the reals that round to the binary number. The ends of that
interval belong to it when the mantissa is even. -/
def Binary.readsBack (b : Binary) (d : Scaled) : Bool :=
  let low := if b.narrowBelow then 4 * b.mantissa - 1 else 4 * b.mantissa - 2
  let high := 4 * b.mantissa + 2
  let closed := b.mantissa % 2 == 0
  let atLow := compareScaled d.digits d.exponent low (b.exponent - 2)
  let atHigh := compareScaled d.digits d.exponent high (b.exponent - 2)
  (atLow == .gt || (closed && atLow == .eq)) && (atHigh == .lt || (closed && atHigh == .eq))

/-- The least count of shifts by ten, out of those allowed, that brings a fraction up to one. -/
def shiftsToOne (den : Nat) : Nat → Nat → Nat
  | 0, _ => 0
  | allowed + 1, num => if den ≤ num then 0 else shiftsToOne den allowed (num * 10) + 1

/-- The exponent of the leading decimal digit of a positive number. -/
def Binary.leading (b : Binary) : Int :=
  let (num, den) := b.quotient
  if den ≤ num then ((Nat.toDigits 10 (num / den)).length : Int) - 1
  else -(shiftsToOne den 400 num : Int)

/-- The numerator and denominator of a number counted in units of `10 ^ exponent`. -/
def Binary.inUnits (b : Binary) (exponent : Int) : Nat × Nat :=
  let (num, den) := b.quotient
  (num * Nat.pow 10 (-exponent).toNat, den * Nat.pow 10 exponent.toNat)

/-- The neighbour of the number on the grid of `10 ^ exponent` that reads back and is nearest. -/
def Binary.onGrid? (b : Binary) (exponent : Int) : Option Scaled :=
  let (num, den) := b.inUnits exponent
  let below : Scaled := ⟨num / den, exponent⟩
  let above : Scaled := ⟨num / den + 1, exponent⟩
  match b.readsBack below, b.readsBack above with
  | true, true => some ⟨roundHalfEven num den, exponent⟩
  | true, false => some below
  | false, true => some above
  | false, false => none

/-- Drop the zeros at the end of a digit sequence, as far as allowed. -/
def Scaled.strip : Nat → Scaled → Scaled
  | 0, d => d
  | allowed + 1, d =>
    if d.digits ≠ 0 && d.digits % 10 == 0 then strip allowed ⟨d.digits / 10, d.exponent + 1⟩ else d

/-- The shortest decimal of a positive number. Seventeen digits always suffice. -/
def Binary.shortest (b : Binary) : Scaled :=
  let lead := b.leading
  let found? := (List.range 17).findSome? fun (more : Nat) => b.onGrid? (lead - more)
  let (num, den) := b.inUnits (lead - 16)
  (found?.getD ⟨roundHalfEven num den, lead - 16⟩).strip 20

end Tailnet.Decimal
