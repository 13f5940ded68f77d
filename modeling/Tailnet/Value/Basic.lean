import Tailnet.Calendar
import Tailnet.Decimal.Binary
import Tailnet.Table

/-!
Free-form data: scalars, lists, tuples, sets and mappings, as configuration files
hold them. Sets and mappings may have any scalar as a member or key and keep their
order. Numbers count as the same key or entry whenever they are equal as numbers,
with the truth values as one and zero. A collection may be a part of itself: such
a part only says how far up the collection stands.
-/

namespace Tailnet

/-- Data without parts. The undefined number of documents is a scalar of its own, because there it
is the same as itself. -/
inductive Scalar where
  | null
  | bool (b : Bool)
  | int (n : Int)
  | float (x : Float)
  | nan
  | text (s : String)
  | bytes (data : List UInt8)
  | date (day : Date)
  | time (moment : Moment)
deriving Inhabited

/-- The collections that may be parts of themselves. -/
inductive Shape where
  | list
  | tuple
  | map
deriving DecidableEq, Repr

/-- Scalars and collections. A loop stands for a collection around it, the innermost one being
number zero. -/
inductive Value where
  | scalar (s : Scalar)
  | list (items : List Value)
  | tuple (items : List Value)
  | set (members : List Scalar)
  | map (entries : List (Scalar × Value))
  | loop (up : Nat) (shape : Shape)
deriving Inhabited

namespace Scalar

/-- The integer that a scalar equals as a number, if any. -/
def integer? : Scalar → Option Int
  | bool b => some (if b then 1 else 0)
  | int n => some n
  | float x => Decimal.exactInteger? x
  | _ => none

def same (a b : Scalar) : Bool :=
  match a.integer?, b.integer? with
  | some m, some n => m == n
  | none, none =>
    match a, b with
    | null, null => true
    | float x, float y => x == y
    | nan, nan => true
    | text s, text t => s == t
    | bytes s, bytes t => s == t
    | date d, date e => d == e
    | time m, time n => m.same n
    | _, _ => false
  | _, _ => false

instance : BEq Scalar := ⟨same⟩

/-- Whether a scalar counts as present: neither null, nor false, nor zero, nor empty. -/
def isTruthy : Scalar → Bool
  | null => false
  | bool b => b
  | int n => n != 0
  | float x => !(x == 0.0)
  | nan => true
  | text s => s != ""
  | bytes data => !data.isEmpty
  | date _ | time _ => true

end Scalar

abbrev Mapping := Table Scalar Value

namespace Value

def null : Value := .scalar .null

def bool (b : Bool) : Value := .scalar (.bool b)

def int (n : Int) : Value := .scalar (.int n)

def text (s : String) : Value := .scalar (.text s)

def texts (ss : List String) : Value := .list (ss.map text)

def record (fields : List (String × Value)) : Value :=
  .map (fields.map fun field => (.text field.1, field.2))

/-- A text, or the absent value. -/
def optionalText : Option String → Value
  | some s => text s
  | none => null

def isNull : Value → Bool
  | .scalar .null => true
  | _ => false

/-- Whether a value counts as present. Empty collections do not. -/
def isTruthy : Value → Bool
  | .scalar s => s.isTruthy
  | .list items | .tuple items => !items.isEmpty
  | .set members => !members.isEmpty
  | .map entries => !entries.isEmpty
  | .loop .. => true

mutual

/-- Whether two values are equal. Sets and mappings are compared without regard to order. -/
def same : Value → Value → Bool
  | .scalar a, .scalar b => a == b
  | .list xs, .list ys => sameItems xs ys
  | .tuple xs, .tuple ys => sameItems xs ys
  | .set xs, .set ys => xs.length == ys.length && xs.all fun x => ys.any fun y => x == y
  | .map xs, .map ys => xs.length == ys.length && sameEntries xs ys
  | .loop m _, .loop n _ => m == n
  | _, _ => false

def sameItems : List Value → List Value → Bool
  | [], [] => true
  | x :: xs, y :: ys => same x y && sameItems xs ys
  | _, _ => false

/-- Whether all entries of the first table are also in the second. -/
def sameEntries : List (Scalar × Value) → List (Scalar × Value) → Bool
  | [], _ => true
  | (key, x) :: rest, other =>
    (match Table.get? other key with
      | some y => same x y
      | none => false) && sameEntries rest other

end

/-- The entry of a mapping under a text key; nothing in any other value. -/
def field? (value : Value) (name : String) : Option Value :=
  match value with
  | .map entries => Table.get? entries (.text name)
  | _ => none

/-- The values met when going through a value one by one: the items of a list or tuple, the members
of a set, the characters of a text, the bytes of a byte string, the keys of a mapping. Other values
cannot be gone through. -/
def elements? : Value → Option (List Value)
  | .list items | .tuple items => some items
  | .set members => some (members.map .scalar)
  | .map entries => some (entries.map fun entry => .scalar entry.1)
  | .scalar (.text s) => some (s.toList.map fun c => text (String.ofList [c]))
  | .scalar (.bytes data) => some (data.map fun b => int b.toNat)
  | .scalar _ | .loop .. => none

end Value

end Tailnet
