import Tailnet.Yaml.Cursor

/-!
Nodes: what a YAML document consists of before scalars are given a meaning.
-/

namespace Tailnet.Yaml

/-- A scalar, a sequence or a mapping, where it begins, and its tag if it has one. A scalar knows
whether it was written without quotes, because only then its text decides what it means without a
tag. A loop stands for a node around it that begins at a place. -/
inductive Node where
  | scalar (place : Position) (tag : Option String) (text : String) (isPlain : Bool)
  | sequence (place : Position) (tag : Option String) (items : List Node)
  | mapping (place : Position) (tag : Option String) (entries : List (Node × Node))
  | loop (target : Position)

namespace Node

def place : Node → Position
  | scalar place .. => place
  | sequence place .. => place
  | mapping place .. => place
  | loop target => target

def tag : Node → Option String
  | scalar _ tag .. => tag
  | sequence _ tag _ => tag
  | mapping _ tag _ => tag
  | loop _ => none

/-- The kind of a node in messages, as far as it shows by itself. -/
def kindName : Node → String
  | scalar .. => "scalar"
  | sequence .. => "sequence"
  | mapping .. | loop _ => "mapping"

def empty (place : Position) : Node := scalar place none "" true

end Node

end Tailnet.Yaml
