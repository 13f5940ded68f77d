import Tailnet.Text.Encoding
import Tailnet.Yaml.Node.Reader
import Tailnet.Yaml.Tagged

/-!
From YAML texts to values. Of equal keys the first gives the place and the last the value. The
entries of a mapping under the key `<<` come before its own.
-/

namespace Tailnet.Yaml

/-- Why a text has no value: it is malformed, or a scalar in it means nothing. -/
inductive DocumentError where
  | malformed (fault : Fault)
  | meaningless (error : MeaningError)
deriving DecidableEq, Repr

/-- The error of a text whose structure is in error. A code of no character means nothing. -/
def DocumentError.ofStructure (error : Error) : DocumentError :=
  match error.problem with
  | .noCharacter code => .meaningless (if code < 0x80000000 then .noCharacter else .codeTooLarge)
  | _ => .malformed (.structural error)

/-- Values found in a document, or the fault that is reported, with its depth. -/
abbrev Found (α : Type) := Except (Nat × DocumentError) α

/-- Two findings together. Of two faults the one less deep is reported, and of two equally deep
ones the first. -/
def Found.both {α β : Type} (first : Found α) (second : Found β) : Found (α × β) :=
  match first, second with
  | .ok a, .ok b => .ok (a, b)
  | .error fault, .ok _ => .error fault
  | .ok _, .error fault => .error fault
  | .error fault, .error other => .error (if other.1 < fault.1 then other else fault)

/-- What an entry of a mapping contributes to it. -/
inductive Part where
  | own (key : Scalar) (value : Value)
  | merged (tables : List Mapping)

/-- The entries that are taken over from other mappings. Of several mappings the first takes
precedence. -/
def Part.mergedEntries : Part → List (Scalar × Value)
  | own .. => []
  | merged tables => tables.reverse.flatten

def Part.ownEntries : Part → List (Scalar × Value)
  | own key value => [(key, value)]
  | merged _ => []

def mappingOf (parts : List Part) : Mapping :=
  Table.ofPairs (parts.flatMap Part.mergedEntries ++ parts.flatMap Part.ownEntries)

namespace Node

def fault (depth : Nat) (context : Option (Context × Option Position)) (problem : Problem)
    (place : Position) : Nat × DocumentError :=
  (depth, .malformed (.structural ⟨context, problem, place⟩))

/-- What the tag of a node says. The plain texts `<<` and `=` have tags of their own. -/
def type? : Node → Option NodeType
  | scalar _ none text isPlain =>
    if isPlain && text == "<<" then some .merge
    else if isPlain && text == "=" then some .equals
    else none
  | node => node.tag.map NodeType.ofTag

def wrongTag (node : Node) : String :=
  match node.type? with
  | some .merge => languageTag "merge"
  | some .equals => languageTag "value"
  | _ => node.tag.getD ""

/-- The fault of a node whose tag gives it no type. -/
def unknownTag (depth : Nat) (node : Node) : Nat × DocumentError :=
  fault depth none (.unknownTag node.wrongTag) node.place

/-- The fault of a node that is of another kind than it should be. -/
def wrongKind (depth : Nat) (expected : String) (node : Node) : Nat × DocumentError :=
  fault depth none (.wrongNode expected node.kindName) node.place

mutual

/-- The text of a node that its tag takes for a scalar. A mapping has one under the sign of
equality. -/
def scalarText (depth : Nat) : Node → Found String
  | scalar _ _ text _ => .ok text
  | mapping place tag entries =>
    (equalsText depth entries).getD (.error (wrongKind depth "a scalar node"
      (mapping place tag entries)))
  | node => .error (wrongKind depth "a scalar node" node)

/-- The text under the sign of equality, if it is a key. -/
def equalsText (depth : Nat) : List (Node × Node) → Option (Found String)
  | [] => none
  | (name, content) :: rest =>
    if name.type? == some .equals then some (content.scalarText depth) else equalsText depth rest

end

def taggedScalar (depth : Nat) (type : ScalarType) (node : Node) : Found Scalar := do
  match Tagged.meaning type (← node.scalarText depth) with
  | .ok meant => return meant
  | .error (.meaningless error) => throw (depth, .meaningless error)
  | .error (.undecodable message) => throw (fault depth none (.undecodable message) node.place)

/-- The scalar that a node stands for without a tag. -/
def plainScalar (depth : Nat) (text : String) (isPlain : Bool) : Found Scalar :=
  if isPlain then (Plain.meaning text).mapError fun error => (depth, .meaningless error)
  else .ok (.text text)

/-- The collections around a node, the innermost one first: where each begins, and its shape. -/
abbrev Around := List (Position × Shape)

/-- The number of collections that must be there before a node is given its value. The tuple of a
pair comes with its parts. -/
def depthIn (around : Around) : Nat := (around.filter fun outer => outer.2 != .tuple).length

def kindIn (around : Around) : Node → String
  | loop target => if around.lookup target == some .list then "sequence" else "mapping"
  | node => node.kindName

/-- The fault of a collection whose tag gives it a type of another kind. -/
def refusal (depth : Nat) (type : CollectionType) (node : Node) : Nat × DocumentError :=
  let ordered (context : Context) : Nat × DocumentError :=
    fault (depth + 1) (some (context, some node.place)) (.wrongNode "a sequence" node.kindName)
      node.place
  match type with
  | .sequence => wrongKind (depth + 1) "a sequence node" node
  | .mapping | .set => wrongKind (depth + 1) "a mapping node" node
  | .orderedMapping => ordered .orderedMapping
  | .pairs => ordered .pairs

/-- The value of a node that its tag makes no collection of its own kind. -/
def taggedValue (depth : Nat) (type : NodeType) (node : Node) : Found Value :=
  match type with
  | .scalar type => (taggedScalar depth type node).map .scalar
  | .collection type => .error (refusal depth type node)
  | _ => .error (unknownTag depth node)

mutual

def value (around : Around) : Node → Found Value
  | scalar place tag text isPlain =>
    let node := scalar place tag text isPlain
    match node.type? with
    | none => (plainScalar (depthIn around) text isPlain).map .scalar
    | some type => taggedValue (depthIn around) type node
  | sequence place tag items =>
    match tag.map NodeType.ofTag with
    | none | some (.collection .sequence) => (values ((place, .list) :: around) items).map .list
    | some (.collection .orderedMapping) =>
      (pairs .orderedMapping place ((place, .list) :: around) items).map .list
    | some (.collection .pairs) =>
      (pairs .pairs place ((place, .list) :: around) items).map .list
    | some type => taggedValue (depthIn around) type (sequence place tag items)
  | mapping place tag entries =>
    match tag.map NodeType.ofTag with
    | none | some (.collection .mapping) =>
      (parts ((place, .map) :: around) place entries).map fun parts => .map (mappingOf parts)
    | some (.collection .set) =>
      (parts ((place, .map) :: around) place entries).map fun parts =>
        .set (Table.keys (mappingOf parts))
    | some type => taggedValue (depthIn around) type (mapping place tag entries)
  | loop target =>
    .ok (.loop (around.findIdx fun outer => outer.1 == target) ((around.lookup target).getD .map))

def values (around : Around) : List Node → Found (List Value)
  | [] => .ok []
  | node :: rest =>
    (Found.both (node.value around) (values around rest)).map fun both => both.1 :: both.2

/-- The pairs that mappings of one entry stand for. -/
def pairs (context : Context) (place : Position) (around : Around) :
    List Node → Found (List Value)
  | [] => .ok []
  | node :: rest =>
    let wrong (expected found : String) : Found Value :=
      .error (fault (depthIn around) (some (context, some place)) (.wrongNode expected found)
        node.place)
    let pair : Found Value := match node with
      | mapping inner _ [(name, content)] =>
        let around := (inner, Shape.tuple) :: around
        (Found.both (name.value around) (content.value around)).map fun both =>
          .tuple [both.1, both.2]
      | mapping _ _ entries =>
        wrong "a single mapping item" (toString entries.length ++ " items")
      | node => wrong "a mapping of length 1" (node.kindIn around)
    (Found.both pair (pairs context place around rest)).map fun both => both.1 :: both.2

/-- The parts of a mapping. A key that takes over other mappings adds their entries to it. -/
def parts (around : Around) (place : Position) : List (Node × Node) → Found (List Part)
  | [] => .ok []
  | (name, content) :: rest =>
    let depth := depthIn around
    let wrong (expected : String) : Found Part :=
      .error (fault depth (some (.mapping, some place))
        (.wrongNode expected (content.kindIn around)) content.place)
    let part : Found Part := match name.type? with
      | some .merge =>
        match content with
        | mapping _ _ entries =>
          (parts around place entries).map fun parts => .merged [mappingOf parts]
        | sequence _ _ items => (mergedTables around place items).map .merged
        | node =>
          if node.kindIn around == "mapping" then .ok (.merged [])
          else wrong "a mapping or list of mappings for merging"
      | some .equals =>
        match taggedScalar depth .text name with
        | .error fault => .error fault
        | .ok key => (content.value around).map fun value => .own key value
      | _ =>
        match name.value around with
        | .error (_, error) => .error (depth, error)
        | .ok (.scalar key) => (content.value around).map fun value => .own key value
        | .ok _ =>
          .error (fault depth (some (.mapping, some place)) .unhashableKey name.place)
    (Found.both part (parts around place rest)).map fun both => both.1 :: both.2

/-- The mappings that the items of a sequence are, whose entries are taken over. -/
def mergedTables (around : Around) (place : Position) : List Node → Found (List Mapping)
  | [] => .ok []
  | node :: rest =>
    let table : Found Mapping := match node with
      | mapping _ _ entries => (parts around place entries).map mappingOf
      | node =>
        if node.kindIn around == "mapping" then .ok []
        else
          .error (fault (depthIn around) (some (.mapping, some place))
            (.wrongNode "a mapping for merging" (node.kindIn around)) node.place)
    (Found.both table (mergedTables around place rest)).map fun both => both.1 :: both.2

end

end Node

def isAllowed (c : Char) : Bool :=
  let n := c.toNat
  c == '\t' || c == '\n' || c == '\r' || (0x20 ≤ n && n ≤ 0x7E) || n == 0x85 ||
    (0xA0 ≤ n && n ≤ 0xFFFD) || 0x10000 ≤ n

/-- Read the value that a text stands for. A text without a document stands for the absent
value. -/
def read (halves : Text.Halves) (text : String) : Except DocumentError Value :=
  let cs := Text.unifyBreaks text.toList
  match cs.findIdx? fun c => !isAllowed c with
  | some index =>
    .error (.malformed (.forbidden (cs.getD index endMark) index))
  | none =>
    match Node.ofLexemes (Lexemes.ofText halves cs) with
    | .error error => .error (.ofStructure error)
    | .ok none => .ok .null
    | .ok (some root) => (root.value []).mapError Prod.snd

end Tailnet.Yaml
