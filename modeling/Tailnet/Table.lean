/-!
Tables: finite maps that remember the order in which keys were first entered.
Entering a key again replaces its value and keeps its place.
-/

namespace Tailnet

/-- Entries in the order of their keys' first entry. -/
abbrev Table (κ α : Type) := List (κ × α)

namespace Table

variable {κ α : Type} [BEq κ]

def get? : Table κ α → κ → Option α
  | [], _ => none
  | (key, value) :: rest, k => if key == k then some value else get? rest k

def has (table : Table κ α) (k : κ) : Bool := (table.get? k).isSome

def insert : Table κ α → κ → α → Table κ α
  | [], k, v => [(k, v)]
  | (key, value) :: rest, k, v =>
    if key == k then (key, v) :: rest else (key, value) :: insert rest k v

/-- Enter a value under a key that is still free, and nothing otherwise. -/
def insertNew (table : Table κ α) (k : κ) (v : α) : Table κ α :=
  if table.has k then table else table.insert k v

/-- Enter all entries of a second table into a first. -/
def update (table more : Table κ α) : Table κ α :=
  more.foldl (fun acc entry => acc.insert entry.1 entry.2) table

/-- The table that results from entering the pairs one after the other. -/
def ofPairs (pairs : List (κ × α)) : Table κ α := update [] pairs

def keys (table : Table κ α) : List κ := table.map Prod.fst

def values (table : Table κ α) : List α := table.map Prod.snd

end Table

end Tailnet
