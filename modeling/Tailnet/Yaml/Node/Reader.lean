import Tailnet.Table
import Tailnet.Yaml.Node.Basic
import Tailnet.Yaml.Token.Lexer

/-!
From tokens to nodes. A text holds at most one document. A named node stands for itself wherever
its name is used later, and no name may be given twice.
-/

namespace Tailnet.Yaml

namespace Node

/-- A node that has been given a name, and where it begins. The node is absent until all of it has
been read. -/
structure Named where
  place : Position
  node? : Option Node

/-- What the handles of tags stand for without a directive. -/
def usualHandles : Table String String := [("!", "!"), ("!!", "tag:yaml.org,2002:")]

/-- How far tokens have been read, what the handles of tags stand for, and the nodes that have been
given names. -/
structure Progress where
  lexemes : Lexemes
  handles : Table String String
  names : Table String Named

abbrev Reader (α : Type) := StateT Progress (Except Error) α

namespace Reader

/-- The next token. A fault shows when a token behind it is asked for. -/
def peek : Reader Token := do
  match (← get).lexemes with
  | ⟨token :: _, _⟩ => return token
  | ⟨[], some fault⟩ => throw fault
  | ⟨[], none⟩ => return ⟨.streamEnd, ⟨0, 0⟩⟩

def next : Reader Unit :=
  modify fun progress =>
    { progress with lexemes := { progress.lexemes with tokens := progress.lexemes.tokens.drop 1 } }

def nextIs (kinds : List TokenKind) : Reader Bool := do
  return kinds.contains (← peek).kind

/-- Where the next token ends, for the tokens of one character. -/
def behind (token : Token) : Position := ⟨token.place.line, token.place.column + 1⟩

/-- An anchor at the cursor, and where it begins. -/
def anchor? : Reader (Option (String × Position)) := do
  let token ← peek
  match token.kind with
  | .anchor name =>
    next
    return some (name, token.place)
  | _ => return none

/-- A tag at the cursor as it is written, and where it begins. -/
def tag? : Reader (Option ((Option String × String) × Position)) := do
  let token ← peek
  match token.kind with
  | .tag handle suffix =>
    next
    return some ((handle, suffix), token.place)
  | _ => return none

/-- What stands before the content of a node: a name, a tag, and where the first of them begins. -/
structure Properties where
  name : Option String
  tag : Option String
  place : Option Position

def resolveTag (start : Position) (written : (Option String × String) × Position) :
    Reader String := do
  let ((handle, suffix), place) := written
  match handle with
  | none => return suffix
  | some handle =>
    match (← get).handles.get? handle with
    | some meant => return meant ++ suffix
    | none => throw ⟨some (.node, some start), .undefinedHandle handle, place⟩

/-- Read what stands before the content of a node, in either order. -/
def properties : Reader Properties := do
  match ← anchor? with
  | some (name, place) =>
    let tag ← (← tag?).mapM (resolveTag place)
    return ⟨some name, tag, some place⟩
  | none =>
    match ← tag? with
    | some written =>
      let anchor ← anchor?
      return ⟨anchor.map Prod.fst, some (← resolveTag written.2 written), some written.2⟩
    | none => return ⟨none, none, none⟩

def refuseKnown (name : String) (place : Position) : Reader Unit := do
  match (← get).names.get? name with
  | some named =>
    throw ⟨some (.firstOccurrence name, some named.place), .secondOccurrence, place⟩
  | none => return ()

def giveName (name : String) (place : Position) (node? : Option Node) : Reader Unit :=
  modify fun progress => { progress with names := progress.names.insert name ⟨place, node?⟩ }

/-- The node that has a name. It may be one whose parts are still being read. -/
def named (name : String) (place : Position) : Reader Node := do
  match (← get).names.get? name with
  | some ⟨_, some node⟩ => return node
  | some ⟨target, none⟩ => return loop target
  | none => throw ⟨none, .undefinedAlias name, place⟩

def comma (closing : String) (context : Context) (start : Position) : Reader Unit := do
  let token ← peek
  if token.kind = .flowEntry then next
  else throw ⟨some (context, some start), .expectedItemEnd closing token.kind.mark, token.place⟩

mutual

/-- Read a node. In a block mapping a sequence need not be indented. -/
def node (isBlock isMappingPart : Bool) : Nat → Reader Node
  | 0 => do throw ⟨none, .nestedTooDeep, (← peek).place⟩
  | fuel + 1 => do
    let token ← peek
    match token.kind with
    | .aliasOf name =>
      next
      named name token.place
    | _ =>
      let properties ← properties
      match properties.name, properties.place with
      | some name, some place =>
        let _ ← peek
        refuseKnown name place
        giveName name place none
        let content ← content isBlock isMappingPart properties fuel
        giveName name place (some content)
        return content
      | _, _ => content isBlock isMappingPart properties fuel

/-- Read the content of a node, behind its properties if it has any. The tag that is only a mark
lets the text of a scalar decide what it means. -/
def content (isBlock isMappingPart : Bool) (properties : Properties) : Nat → Reader Node
  | 0 => do throw ⟨none, .nestedTooDeep, (← peek).place⟩
  | fuel + 1 => do
    let token ← peek
    let place := properties.place.getD token.place
    let tag := properties.tag.filter (· != "!")
    match token.kind, isBlock, isMappingPart with
    | .blockEntry, _, true => return sequence place tag (← looseItems fuel)
    | .scalar text isPlain, _, _ =>
      next
      return scalar place tag text (isPlain || properties.tag == some "!")
    | .flowSequenceStart, _, _ =>
      next
      return sequence place tag (← flowItems token.place true fuel)
    | .flowMappingStart, _, _ =>
      next
      return mapping place tag (← flowEntries token.place true fuel)
    | .blockSequenceStart, true, _ =>
      next
      return sequence place tag (← blockItems token.place fuel)
    | .blockMappingStart, true, _ =>
      next
      return mapping place tag (← blockEntries token.place fuel)
    | _, _, _ =>
      if properties.place.isSome then return scalar place tag "" true
      else
        throw ⟨some (if isBlock then .blockNode else .flowNode, some place),
          .expectedContent token.kind.mark, token.place⟩

def blockItems (start : Position) : Nat → Reader (List Node)
  | 0 => do throw ⟨none, .nestedTooDeep, (← peek).place⟩
  | fuel + 1 => do
    let token ← peek
    match token.kind with
    | .blockEntry =>
      next
      let item ←
        if ← nextIs [.blockEntry, .blockEnd] then pure (empty (behind token))
        else node true false fuel
      return item :: (← blockItems start fuel)
    | .blockEnd =>
      next
      return []
    | kind => throw ⟨some (.blockCollection, some start), .expectedBlockEnd kind.mark, token.place⟩

def looseItems : Nat → Reader (List Node)
  | 0 => do throw ⟨none, .nestedTooDeep, (← peek).place⟩
  | fuel + 1 => do
    let token ← peek
    match token.kind with
    | .blockEntry =>
      next
      let item ←
        if ← nextIs [.blockEntry, .key, .value, .blockEnd] then pure (empty (behind token))
        else node true false fuel
      return item :: (← looseItems fuel)
    | _ => return []

def blockEntries (start : Position) : Nat → Reader (List (Node × Node))
  | 0 => do throw ⟨none, .nestedTooDeep, (← peek).place⟩
  | fuel + 1 => do
    let token ← peek
    match token.kind with
    | .key =>
      next
      let key ← blockPart token fuel
      let colon ← peek
      let value ← match colon.kind with
        | .value => do
          next
          blockPart colon fuel
        | _ => pure (empty colon.place)
      return (key, value) :: (← blockEntries start fuel)
    | .blockEnd =>
      next
      return []
    | kind => throw ⟨some (.blockMapping, some start), .expectedBlockEnd kind.mark, token.place⟩

/-- Read the key or the value behind its mark in a block mapping. -/
def blockPart (mark : Token) : Nat → Reader Node
  | 0 => do throw ⟨none, .nestedTooDeep, (← peek).place⟩
  | fuel + 1 => do
    if ← nextIs [.key, .value, .blockEnd] then return empty (behind mark)
    node true true fuel

/-- Read the items of a flow sequence. A key and a value without braces are a mapping of their
own. -/
def flowItems (start : Position) (isFirst : Bool) : Nat → Reader (List Node)
  | 0 => do throw ⟨none, .nestedTooDeep, (← peek).place⟩
  | fuel + 1 => do
    if !(← nextIs [.flowSequenceEnd]) && !isFirst then comma "]" .flowSequence start
    let token ← peek
    match token.kind with
    | .flowSequenceEnd =>
      next
      return []
    | .key =>
      next
      let entry ← flowEntry token .flowSequenceEnd fuel
      return mapping token.place none [entry] :: (← flowItems start false fuel)
    | _ =>
      let item ← node false false fuel
      return item :: (← flowItems start false fuel)

/-- Read the entries of a flow mapping. A key alone has an empty value. -/
def flowEntries (start : Position) (isFirst : Bool) : Nat → Reader (List (Node × Node))
  | 0 => do throw ⟨none, .nestedTooDeep, (← peek).place⟩
  | fuel + 1 => do
    if !(← nextIs [.flowMappingEnd]) && !isFirst then comma "\x7d" .flowMapping start
    let token ← peek
    match token.kind with
    | .flowMappingEnd =>
      next
      return []
    | .key =>
      next
      let entry ← flowEntry token .flowMappingEnd fuel
      return entry :: (← flowEntries start false fuel)
    | _ =>
      let key ← node false false fuel
      let value := empty (← peek).place
      return (key, value) :: (← flowEntries start false fuel)

def flowEntry (mark : Token) (closing : TokenKind) : Nat → Reader (Node × Node)
  | 0 => do throw ⟨none, .nestedTooDeep, (← peek).place⟩
  | fuel + 1 => do
    let key ←
      if ← nextIs [.value, .flowEntry, closing] then pure (empty (behind mark))
      else node false false fuel
    let colon ← peek
    match colon.kind with
    | .value =>
      next
      if ← nextIs [.flowEntry, closing] then return (key, empty (behind colon))
      return (key, ← node false false fuel)
    | _ => return (key, empty colon.place)

end

def skipEnds : Nat → Reader Unit
  | 0 => return ()
  | fuel + 1 => do
    if ← nextIs [.documentEnd] then
      next
      skipEnds fuel

/-- Read directives, given what the handles of tags stand for and whether the version is known. -/
def directives (handles : Table String String) (hasVersion : Bool) :
    Nat → Reader (Table String String)
  | 0 => return handles
  | fuel + 1 => do
    let token ← peek
    match token.kind with
    | .directive (.version major) =>
      next
      if hasVersion then throw ⟨none, .repeatedVersion, token.place⟩
      if major != 1 then throw ⟨none, .unknownVersion, token.place⟩
      directives handles true fuel
    | .directive (.handle name written) =>
      next
      if (handles.get? name).isSome then throw ⟨none, .repeatedHandle name, token.place⟩
      directives (handles.insert name written) hasVersion fuel
    | .directive .other =>
      next
      directives handles hasVersion fuel
    | _ => return handles

/-- Read the mark of a document's beginning, with the directives before it, and answer where that
begins, unless the text ends there. -/
def documentStart? (fuel : Nat) : Reader (Option Position) := do
  skipEnds fuel
  let token ← peek
  if token.kind = .streamEnd then return none
  let handles ← directives [] false fuel
  modify fun progress => { progress with handles := usualHandles.update handles }
  let mark ← peek
  if mark.kind != .documentStart then
    throw ⟨none, .expectedDocument mark.kind.mark, mark.place⟩
  next
  return some token.place

/-- Whether a directive follows, or one of some kinds of tokens. -/
def nextIsMark (kinds : List TokenKind) : Reader Bool := do
  match (← peek).kind with
  | .directive _ => return true
  | kind => return kinds.contains kind

/-- Read the only document of a text. A text without one is empty. -/
def document (fuel : Nat) : Reader (Option Node) := do
  let token ← peek
  let isMarked ← nextIsMark [.documentStart, .streamEnd]
  let start? ← if isMarked then documentStart? fuel else pure (some token.place)
  match start? with
  | none => return none
  | some _ =>
    let isEmpty ←
      if isMarked then nextIsMark [.documentStart, .documentEnd, .streamEnd] else pure false
    let root ← if isEmpty then pure (empty (← peek).place) else node true false fuel
    if ← nextIs [.documentEnd] then next
    match ← documentStart? fuel with
    | none => return some root
    | some another => throw ⟨some (.stream, some root.place), .anotherDocument, another⟩

end Reader

def ofLexemes (lexemes : Lexemes) : Except Error (Option Node) :=
  (Reader.document (3 * lexemes.tokens.length + 6)).run' ⟨lexemes, usualHandles, []⟩

end Node

end Tailnet.Yaml
