import Tailnet.Value.Display
import Tailnet.Value.Loop

/-!
Values taken for something else. Texts and byte strings are integers as numerals, other numbers
without their fraction. A mapping is one as it is, and anything else that can be gone through if all
its elements are pairs.
-/

namespace Tailnet

/-- Why a value is no integer. -/
inductive ConversionError where
  | numeral (cause : Integer.NumeralError)
  /-- The value is of a type that has no integers, given by name. -/
  | notNumeric (typeName : String)
  | nan
  | infinite
deriving DecidableEq, Repr

namespace ConversionError

def message : ConversionError → String
  | numeral cause => cause.message
  | notNumeric typeName =>
    "int() argument must be a string, a bytes-like object or a real number, not '" ++
      typeName ++ "'"
  | nan => "cannot convert float NaN to integer"
  | infinite => "cannot convert float infinity to integer"

end ConversionError

def truncate (x : Float) : Except ConversionError Int :=
  match Decimal.Parts.ofFloat x with
  | .nan => .error .nan
  | .infinite _ => .error .infinite
  | .finite negative magnitude =>
    .ok (if negative then -(magnitude.truncate : Int) else magnitude.truncate)

def Value.toInteger : Value → Except ConversionError Int
  | .scalar (.bool b) => .ok (if b then 1 else 0)
  | .scalar (.int n) => .ok n
  | .scalar (.float x) => truncate x
  | .scalar .nan => .error .nan
  | .scalar (.text s) => (Integer.read s).mapError .numeral
  | .scalar (.bytes data) => (Integer.readBytes data).mapError .numeral
  | .scalar (.date _) => .error (.notNumeric "datetime.date")
  | .scalar (.time _) => .error (.notNumeric "datetime.datetime")
  | value => .error (.notNumeric value.typeName)

/-- Why a value cannot be taken for a mapping. -/
inductive PairsError where
  /-- Something that cannot be gone through, or a key that is none. -/
  | unusable
  /-- An element that is no pair, with its position and its own number of elements. -/
  | notPair (position length : Nat)
deriving DecidableEq, Repr

def PairsError.message : PairsError → String
  | unusable => "cannot be taken for a mapping"
  | notPair position length =>
    "dictionary update sequence element #" ++ toString position ++ " has length " ++
      toString length ++ "; 2 is required"

namespace Value

/-- The key and value of an element that has exactly two. -/
def toPair (position : Nat) (element : Value) : Except PairsError (Scalar × Value) :=
  match element.elements? with
  | none => .error .unusable
  | some [.scalar key, value] => .ok (key, value)
  | some [_, _] => .error .unusable
  | some elements => .error (.notPair position elements.length)

def toMapping : Value → Except PairsError Mapping
  | .map entries => .ok (entriesAlone entries)
  | value =>
    match value.elements? with
    | none => .error .unusable
    | some elements => do
      return Table.ofPairs (← elements.zipIdx.mapM fun (element, i) => toPair i element)

end Value

end Tailnet
