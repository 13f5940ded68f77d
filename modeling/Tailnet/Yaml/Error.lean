import Tailnet.Text.Quoted
import Tailnet.Text.Split
import Tailnet.Yaml.Cursor

/-!
Faults of YAML texts.
-/

namespace Tailnet.Yaml

/-- What was being read when a fault was found. -/
inductive Context where
  | nextToken
  | directive
  | directiveValue
  | tag
  | tagValue
  | simpleKey
  | anchor
  | aliasName
  | blockScalar
  | quotedScalar
  | doubleQuotedScalar
  | blockCollection
  | blockMapping
  | flowSequence
  | flowMapping
  | blockNode
  | flowNode
  | node
  | stream
  | mapping
  | orderedMapping
  | pairs
  | firstOccurrence (name : String)
deriving DecidableEq, Repr

def Context.message : Context → String
  | nextToken => "while scanning for the next token"
  | directive => "while scanning a directive"
  | directiveValue => "while parsing a directive"
  | tag => "while scanning a tag"
  | tagValue => "while parsing a tag"
  | simpleKey => "while scanning a simple key"
  | anchor => "while scanning an anchor"
  | aliasName => "while scanning an alias"
  | blockScalar => "while scanning a block scalar"
  | quotedScalar => "while scanning a quoted scalar"
  | doubleQuotedScalar => "while scanning a double-quoted scalar"
  | blockCollection => "while parsing a block collection"
  | blockMapping => "while parsing a block mapping"
  | flowSequence => "while parsing a flow sequence"
  | flowMapping => "while parsing a flow mapping"
  | blockNode => "while parsing a block node"
  | flowNode => "while parsing a flow node"
  | node => "while parsing a node"
  | stream => "expected a single document in the stream"
  | mapping => "while constructing a mapping"
  | orderedMapping => "while constructing an ordered map"
  | pairs => "while constructing pairs"
  | firstOccurrence name => "found duplicate anchor " ++ Text.quoted name ++ "; first occurrence"

/-- What is wrong with a text. Tokens are given by the mark that stands for them in messages. -/
inductive Problem where
  | badStart (c : Char)
  | missingColon
  | entryNotAllowed
  | keyNotAllowed
  | valueNotAllowed
  | unexpectedCharacter (expected : String) (c : Char)
  | badIndentation
  | endOfStream
  | documentSeparator
  | unknownEscape (c : Char)
  | noCharacter (code : Nat)
  | repeatedVersion
  | unknownVersion
  | repeatedHandle (handle : String)
  | undefinedHandle (handle : String)
  | unknownTag (tag : String)
  /-- A node of another kind than its tag or its place asks for. -/
  | wrongNode (expected found : String)
  /-- Bytes that are given by escapes or in letters and digits and cannot be read. -/
  | undecodable (message : String)
  | expectedBlockEnd (found : String)
  | expectedItemEnd (closing : String) (found : String)
  | expectedContent (found : String)
  | expectedDocument (found : String)
  | anotherDocument
  | undefinedAlias (name : String)
  | secondOccurrence
  | unhashableKey
  | nestedTooDeep
deriving DecidableEq, Repr

def Problem.message : Problem → String
  | badStart c =>
    "found character " ++ Text.quoted (String.ofList [c]) ++ " that cannot start any token"
  | missingColon => "could not find expected ':'"
  | entryNotAllowed => "sequence entries are not allowed here"
  | keyNotAllowed => "mapping keys are not allowed here"
  | valueNotAllowed => "mapping values are not allowed here"
  | unexpectedCharacter expected c =>
    "expected " ++ expected ++ ", but found " ++ Text.quoted (String.ofList [c])
  | badIndentation => "expected indentation indicator in the range 1-9, but found 0"
  | endOfStream => "found unexpected end of stream"
  | documentSeparator => "found unexpected document separator"
  | unknownEscape c => "found unknown escape character " ++ Text.quoted (String.ofList [c])
  | noCharacter code =>
    "found escape of " ++ toString code ++ ", which is the code of no character"
  | repeatedVersion => "found duplicate YAML directive"
  | unknownVersion => "found incompatible YAML document (version 1.* is required)"
  | repeatedHandle handle => "duplicate tag handle " ++ Text.quoted handle
  | undefinedHandle handle => "found undefined tag handle " ++ Text.quoted handle
  | unknownTag tag => "could not determine a constructor for the tag " ++ Text.quoted tag
  | wrongNode expected found => "expected " ++ expected ++ ", but found " ++ found
  | undecodable message => message
  | expectedBlockEnd found => "expected <block end>, but found '" ++ found ++ "'"
  | expectedItemEnd closing found =>
    "expected ',' or '" ++ closing ++ "', but got '" ++ found ++ "'"
  | expectedContent found => "expected the node content, but found '" ++ found ++ "'"
  | expectedDocument found => "expected '<document start>', but found '" ++ found ++ "'"
  | anotherDocument => "but found another document"
  | undefinedAlias name => "found undefined alias " ++ Text.quoted name
  | secondOccurrence => "second occurrence"
  | unhashableKey => "found unhashable key"
  | nestedTooDeep => "nested too deep"

/-- An error of structure: what was being read and where that began, what is wrong and where. -/
structure Error where
  context : Option (Context × Option Position)
  problem : Problem
  place : Position
deriving DecidableEq, Repr

/-- A place as it is shown, with lines and columns counted from one. -/
def Position.text (place : Position) (file : String) : String :=
  "  in \"" ++ file ++ "\", line " ++ toString (place.line + 1) ++ ", column " ++
    toString (place.column + 1)

/-- The wording of an error in a file. A place is not shown twice. -/
def Error.message (error : Error) (file : String) : String :=
  let before := match error.context with
    | none => []
    | some (context, none) => [context.message]
    | some (context, some place) =>
      if place = error.place then [context.message] else [context.message, place.text file]
  Text.joinWith "\n" (before ++ [error.problem.message, error.place.text file])

/-- What makes a text malformed: a character that may not stand in any text, or an error of
structure. -/
inductive Fault where
  | forbidden (c : Char) (index : Nat)
  | structural (error : Error)
deriving DecidableEq, Repr

def Fault.message (fault : Fault) (file : String) : String :=
  match fault with
  | forbidden c index =>
    "unacceptable character #x" ++ String.ofList (Text.hex 4 c.toNat) ++
      ": special characters are not allowed\n  in \"" ++ file ++ "\", position " ++ toString index
  | structural error => error.message file

end Tailnet.Yaml
