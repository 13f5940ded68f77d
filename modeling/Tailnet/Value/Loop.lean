import Tailnet.Value.Basic

/-!
Parts of collections that are parts of themselves. Taken on its own, a part that leads back to the
collection around it has that collection inside, and there the part is the loop.
-/

namespace Tailnet.Value

/-- The shape of a collection, or of the one that a loop stands for. A value without parts counts as
a mapping. -/
def shape : Value → Shape
  | .list _ => .list
  | .tuple _ => .tuple
  | .loop _ shape => shape
  | .map _ | .set _ | .scalar _ => .map

mutual

/-- Put something in the place of the loops that lead to the collection around a value. It depends
on the number of collections between the loop and the value's outside. -/
def fill (whole : Nat → Value) (depth : Nat) : Value → Value
  | .scalar s => .scalar s
  | .list items => .list (fillItems whole (depth + 1) items)
  | .tuple items => .tuple (fillItems whole (depth + 1) items)
  | .set members => .set members
  | .map entries => .map (fillEntries whole (depth + 1) entries)
  | .loop up shape => if up = depth then whole depth else .loop up shape

def fillItems (whole : Nat → Value) (depth : Nat) : List Value → List Value
  | [] => []
  | item :: rest => fill whole depth item :: fillItems whole depth rest

def fillEntries (whole : Nat → Value) (depth : Nat) :
    List (Scalar × Value) → List (Scalar × Value)
  | [] => []
  | (key, value) :: rest => (key, fill whole depth value) :: fillEntries whole depth rest

end

/-- The items of a list, each as it is on its own. -/
def itemsAlone (items : List Value) : List Value :=
  items.zipIdx.map fun (item, i) =>
    item.fill
      (fun depth => .list (if depth = 0 then items else items.set i (.loop depth item.shape))) 0

/-- The entries of a mapping, each as it is on its own. -/
def entriesAlone (entries : Mapping) : Mapping :=
  entries.zipIdx.map fun ((key, value), i) =>
    (key, value.fill
      (fun depth =>
        .map (if depth = 0 then entries else entries.set i (key, .loop depth value.shape))) 0)

mutual

/-- The number of collections in a value, with the value itself. -/
def collections : Value → Nat
  | .scalar _ | .set _ | .loop .. => 0
  | .list items | .tuple items => collectionsOfItems items + 1
  | .map entries => collectionsOfEntries entries + 1

def collectionsOfItems : List Value → Nat
  | [] => 0
  | item :: rest => collections item + collectionsOfItems rest

def collectionsOfEntries : List (Scalar × Value) → Nat
  | [] => 0
  | (_, value) :: rest => collections value + collectionsOfEntries rest

end

end Tailnet.Value
