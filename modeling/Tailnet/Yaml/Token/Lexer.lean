import Tailnet.Text.Encoding
import Tailnet.Yaml.Scalar

/-!
Cutting a YAML text into tokens. A key without a mark of its own is recognised by the colon that
follows on its line, so the mark of such a key, and of the mapping that begins with it, is entered
before tokens that were found earlier.
-/

namespace Tailnet.Yaml

/-- A token that may turn out to be a key: where the mark of the key would go, and whether only a
key may stand there. -/
structure KeyCandidate where
  number : Nat
  isRequired : Bool
  index : Nat
  place : Position

/-- The state of the lexer, with the characters that stand for surrogates. The tokens found are
counted, and kept with the newest first; candidates for keys are kept by the number of flow
collections around them. -/
structure Lexer where
  halves : Text.Halves
  cursor : Cursor
  newest : List Token
  found : Nat
  indents : List Nat
  flowLevel : Nat
  allowsKey : Bool
  candidates : List (Nat × KeyCandidate)
  isDone : Bool

/-- Tokens in order, and the fault that ended them, if one did. -/
structure Lexemes where
  tokens : List Token
  fault : Option Error

namespace Lexer

def start (halves : Text.Halves) (text : List Char) : Lexer :=
  ⟨halves, Cursor.start text, [], 0, [], 0, true, [], false⟩

/-- The column of the innermost block collection, or minus one. -/
def indent (lexer : Lexer) : Int :=
  match lexer.indents with
  | [] => -1
  | column :: _ => column

/-- Whether the cursor is inside a flow collection. -/
def inFlow (lexer : Lexer) : Bool := 0 < lexer.flowLevel

def emit (lexer : Lexer) (kind : TokenKind) (place : Position) : Lexer :=
  { lexer with newest := ⟨kind, place⟩ :: lexer.newest, found := lexer.found + 1 }

/-- Add a token of a given length that stands at the cursor, and go behind it. -/
def take (lexer : Lexer) (kind : TokenKind) (length : Nat) : Lexer :=
  { lexer.emit kind lexer.cursor.position with cursor := lexer.cursor.skip length }

def emitBefore (lexer : Lexer) (number : Nat) (tokens : List Token) : Lexer :=
  let later := lexer.found - number
  { lexer with
    newest := lexer.newest.take later ++ tokens.reverse ++ lexer.newest.drop later
    found := lexer.found + tokens.length }

/-! Candidates for keys. -/

def missingColon (lexer : Lexer) (key : KeyCandidate) : Error :=
  ⟨some (.simpleKey, some key.place), .missingColon, lexer.cursor.position⟩

/-- Whether the colon of a candidate can no longer follow. -/
def isStale (lexer : Lexer) (key : KeyCandidate) : Bool :=
  key.place.line != lexer.cursor.line || 1024 < lexer.cursor.index - key.index

/-- Forget the candidates whose colon can no longer follow. -/
def dropStale (lexer : Lexer) : Except Error Lexer :=
  match lexer.candidates.find? fun entry => lexer.isStale entry.2 && entry.2.isRequired with
  | some (_, key) => .error (lexer.missingColon key)
  | none =>
    .ok { lexer with candidates := lexer.candidates.filter fun entry => !lexer.isStale entry.2 }

def candidate? (lexer : Lexer) : Option KeyCandidate :=
  (lexer.candidates.find? fun entry => entry.1 == lexer.flowLevel).map Prod.snd

def withoutCandidate (lexer : Lexer) : Lexer :=
  { lexer with candidates := lexer.candidates.filter fun entry => entry.1 != lexer.flowLevel }

/-- Forget the candidate of the innermost collection. -/
def dropCandidate (lexer : Lexer) : Except Error Lexer :=
  match lexer.candidate? with
  | some key =>
    if key.isRequired then .error (lexer.missingColon key) else .ok lexer.withoutCandidate
  | none => .ok lexer

def noteCandidate (lexer : Lexer) : Except Error Lexer :=
  if lexer.allowsKey then do
    let lexer ← lexer.dropCandidate
    let key : KeyCandidate :=
      { number := lexer.found
        isRequired := !lexer.inFlow && lexer.indent == lexer.cursor.column
        index := lexer.cursor.index
        place := lexer.cursor.position }
    return { lexer with candidates := lexer.candidates ++ [(lexer.flowLevel, key)] }
  else .ok lexer

def settled (lexer : Lexer) : Nat :=
  lexer.candidates.foldl (fun least entry => min least entry.2.number) lexer.found

/-! Indentation. -/

/-- Close the block collections that are indented deeper than a column. -/
def close (lexer : Lexer) (isDeeper : Nat → Bool) : Lexer :=
  if lexer.inFlow then lexer
  else
    let closed := lexer.indents.takeWhile isDeeper
    { lexer with
      indents := lexer.indents.dropWhile isDeeper
      newest := closed.map (fun _ => ⟨.blockEnd, lexer.cursor.position⟩) ++ lexer.newest
      found := lexer.found + closed.length }

def opensAt (lexer : Lexer) (column : Nat) : Bool := lexer.indent < column

/-- Begin a block collection at the cursor, unless one of this column is open. -/
def openBlock (lexer : Lexer) (kind : TokenKind) : Lexer :=
  let column := lexer.cursor.column
  if lexer.opensAt column then
    { lexer.emit kind lexer.cursor.position with indents := column :: lexer.indents }
  else lexer

/-! Tokens. -/

/-- Go to the next token, over blanks, comments and line breaks. A key may begin a line. -/
def skipBlanks : Nat → Lexer → Lexer
  | 0, lexer => lexer
  | fuel + 1, lexer =>
    let cursor := lexer.cursor.skipWhile (· == ' ')
    let cursor := if cursor.current == '#' then cursor.skipWhile (!isBreakOrEnd ·) else cursor
    if isBreak cursor.current then
      skipBlanks fuel { lexer with
        cursor := cursor.lineBreak.2, allowsKey := lexer.allowsKey || !lexer.inFlow }
    else { lexer with cursor := cursor }

def readEnd (lexer : Lexer) : Except Error Lexer := do
  let lexer ← (lexer.close fun _ => true).dropCandidate
  return { lexer.emit .streamEnd lexer.cursor.position with
    allowsKey := false, candidates := [], isDone := true }

/-- A character of the names of anchors and directives. -/
def isNameCharacter (c : Char) : Bool := c.isAlphanum || c == '-' || c == '_'

/-- A part of a text, and the cursor behind it. -/
abbrev Cut := String × Cursor

def uriBytes (context : Context) (start : Position) :
    Nat → Cursor → Except Error (List UInt8 × Cursor)
  | 0, cursor => .ok ([], cursor)
  | fuel + 1, cursor =>
    if cursor.current == '%' then
      let digits := cursor.next
      match Json.hexValue? (digits.peek 0), Json.hexValue? (digits.peek 1) with
      | some high, some low => do
        let (more, behind) ← uriBytes context start fuel (digits.skip 2)
        return (UInt8.ofNat (16 * high + low) :: more, behind)
      | high, _ =>
        .error ⟨some (context, some start),
          .unexpectedCharacter "URI escape sequence of 2 hexadecimal numbers"
            (digits.peek (if high.isSome then 1 else 0)), digits.position⟩
    else .ok ([], cursor)

/-- The characters of a tag or of what a handle stands for. Escapes stand for bytes. -/
def uriText (context : Context) (start : Position) : Nat → Cursor → Except Error Piece
  | 0, cursor => .ok ([], cursor)
  | fuel + 1, cursor =>
    let c := cursor.current
    if c == '%' then do
      let (bytes, behind) ← uriBytes context start cursor.fuel cursor
      let text := Text.ofBytes bytes
      if Text.bytesOf (String.ofList text) != bytes then
        throw ⟨some (context, some start), .undecodable "the escapes are no text",
          cursor.position⟩
      let (more, behind) ← uriText context start fuel behind
      return (text ++ more, behind)
    else if c.isAlphanum || "-;/?:@&=+$,_.!~*'()[]".toList.contains c then do
      let (more, behind) ← uriText context start fuel cursor.next
      return (c :: more, behind)
    else .ok ([], cursor)

/-- A tag without its handle, or what a handle stands for. -/
def readUri (context : Context) (start : Position) (cursor : Cursor) : Except Error Cut := do
  let (text, behind) ← uriText context start cursor.fuel cursor
  if text.isEmpty then
    throw ⟨some (context, some start), .unexpectedCharacter "URI" behind.current,
      behind.position⟩
  return (String.ofList text, behind)

/-- The handle of a tag: an exclamation mark, or a name between two. -/
def readHandle (context : Context) (start : Position) (cursor : Cursor) : Except Error Cut := do
  let expected (found : Cursor) : Error :=
    ⟨some (context, some start), .unexpectedCharacter "'!'" found.current, found.position⟩
  if cursor.current != '!' then throw (expected cursor)
  if cursor.peek 1 == ' ' then return ("!", cursor.next)
  let (name, behind) := cursor.next.span isNameCharacter
  if behind.current != '!' then throw (expected behind)
  return ("!" ++ String.ofList name ++ "!", behind.next)

def readVersionPart (start : Position) (cursor : Cursor) : Except Error (Nat × Cursor) := do
  let (digits, behind) := cursor.span Json.isDigit
  if digits.isEmpty then
    throw ⟨some (.directive, some start), .unexpectedCharacter "a digit" cursor.current,
      cursor.position⟩
  return (Json.digitsValue digits, behind)

def readDirectiveValue (name : String) (start : Position) (cursor : Cursor) :
    Except Error (Directive × Cursor) := do
  let expected (what : String) (found : Cursor) : Error :=
    ⟨some (.directive, some start), .unexpectedCharacter what found.current, found.position⟩
  let endsWord (found : Cursor) : Bool := found.current == ' ' || isBreakOrEnd found.current
  if name == "YAML" then
    let (major, point) ← readVersionPart start (cursor.skipWhile (· == ' '))
    if point.current != '.' then throw (expected "a digit or '.'" point)
    let (_, behind) ← readVersionPart start point.next
    if !endsWord behind then throw (expected "a digit or ' '" behind)
    return (.version major, behind)
  else if name == "TAG" then
    let (handle, space) ← readHandle .directive start (cursor.skipWhile (· == ' '))
    if space.current != ' ' then throw (expected "' '" space)
    let (written, behind) ← readUri .directiveValue start (space.skipWhile (· == ' '))
    if !endsWord behind then throw (expected "' '" behind)
    return (.handle handle written, behind)
  else return (.other, cursor.skipWhile (!isBreakOrEnd ·))

/-- A directive, up to the end of its line. -/
def readDirective (lexer : Lexer) : Except Error Lexer := do
  let lexer ← (lexer.close fun _ => true).dropCandidate
  let start := lexer.cursor.position
  let (name, behind) := lexer.cursor.next.span isNameCharacter
  if name.isEmpty || !(behind.current == ' ' || isBreakOrEnd behind.current) then
    throw ⟨some (.directive, some start),
      .unexpectedCharacter "alphabetic or numeric character" behind.current, behind.position⟩
  let (said, behind) ← readDirectiveValue (String.ofList name) start behind
  let behind := behind.skipWhile (· == ' ')
  let behind := if behind.current == '#' then behind.skipWhile (!isBreakOrEnd ·) else behind
  if !isBreakOrEnd behind.current then
    throw ⟨some (.directive, some start),
      .unexpectedCharacter "a comment or a line break" behind.current, behind.position⟩
  return { lexer.emit (.directive said) start with
    cursor := behind.lineBreak.2, allowsKey := false }

def readDocumentMark (lexer : Lexer) (kind : TokenKind) : Except Error Lexer := do
  let lexer ← (lexer.close fun _ => true).dropCandidate
  return { lexer.take kind 3 with allowsKey := false }

def readFlowStart (lexer : Lexer) (kind : TokenKind) : Except Error Lexer := do
  let lexer ← lexer.noteCandidate
  return { lexer.take kind 1 with flowLevel := lexer.flowLevel + 1, allowsKey := true }

def readFlowEnd (lexer : Lexer) (kind : TokenKind) : Except Error Lexer := do
  let lexer ← lexer.dropCandidate
  return { lexer.take kind 1 with flowLevel := lexer.flowLevel - 1, allowsKey := false }

/-- The comma between the entries of a flow collection. -/
def readFlowEntry (lexer : Lexer) : Except Error Lexer := do
  let lexer ← lexer.dropCandidate
  return { lexer.take .flowEntry 1 with allowsKey := true }

def readBlockEntry (lexer : Lexer) : Except Error Lexer := do
  if !lexer.inFlow && !lexer.allowsKey then
    throw ⟨none, .entryNotAllowed, lexer.cursor.position⟩
  let lexer := if lexer.inFlow then lexer else lexer.openBlock .blockSequenceStart
  let lexer ← lexer.dropCandidate
  return { lexer.take .blockEntry 1 with allowsKey := true }

def readKey (lexer : Lexer) : Except Error Lexer := do
  if !lexer.inFlow && !lexer.allowsKey then
    throw ⟨none, .keyNotAllowed, lexer.cursor.position⟩
  let lexer := if lexer.inFlow then lexer else lexer.openBlock .blockMappingStart
  let lexer ← lexer.dropCandidate
  return { lexer.take .key 1 with allowsKey := !lexer.inFlow }

/-- The colon before a value. It makes a key of the candidate before it. -/
def readValue (lexer : Lexer) : Except Error Lexer := do
  match lexer.candidate? with
  | some key =>
    let lexer := lexer.withoutCandidate
    let column := key.place.column
    let opens := !lexer.inFlow && lexer.opensAt column
    let lexer := lexer.emitBefore key.number
      (if opens then [⟨.blockMappingStart, key.place⟩, ⟨.key, key.place⟩] else [⟨.key, key.place⟩])
    let lexer := if opens then { lexer with indents := column :: lexer.indents } else lexer
    return { lexer.take .value 1 with allowsKey := false }
  | none =>
    if !lexer.inFlow && !lexer.allowsKey then
      throw ⟨none, .valueNotAllowed, lexer.cursor.position⟩
    let lexer := if lexer.inFlow then lexer else lexer.openBlock .blockMappingStart
    return { lexer.take .value 1 with allowsKey := !lexer.inFlow }

def readName (lexer : Lexer) (context : Context) (kind : String → TokenKind) :
    Except Error Lexer := do
  let lexer ← lexer.noteCandidate
  let start := lexer.cursor.position
  let (name, behind) := lexer.cursor.next.span isNameCharacter
  let ends := isSpaceOrEnd behind.current ||
    ['?', ':', ',', ']', '\x7d', '%', '@', '\x60'].contains behind.current
  if name.isEmpty || !ends then
    throw ⟨some (context, some start),
      .unexpectedCharacter "alphabetic or numeric character" behind.current, behind.position⟩
  return { lexer.emit (kind (String.ofList name)) start with cursor := behind, allowsKey := false }

/-- A tag at the cursor: its handle, if it has one, and the rest. A mark that stands alone is all of
it. -/
def tagAt (cursor : Cursor) : Except Error (Option String × Cut) := do
  let start := cursor.position
  let next := cursor.peek 1
  if next == '<' then
    let (suffix, behind) ← readUri .tagValue start (cursor.skip 2)
    if behind.current != '>' then
      throw ⟨some (.tagValue, some start), .unexpectedCharacter "'>'" behind.current,
        behind.position⟩
    return (none, suffix, behind.next)
  else if isSpaceOrEnd next then return (none, "!", cursor.next)
  else
    let word := (cursor.next.rest.takeWhile fun c => c == '\t' || !isSpaceOrEnd c)
    let (handle, behind) ←
      if word.contains '!' then readHandle .tag start cursor else pure ("!", cursor.next)
    let (suffix, behind) ← readUri .tagValue start behind
    return (some handle, suffix, behind)

/-- A tag, up to a space. -/
def readTag (lexer : Lexer) : Except Error Lexer := do
  let lexer ← lexer.noteCandidate
  let start := lexer.cursor.position
  let (handle, suffix, behind) ← tagAt lexer.cursor
  if !(behind.current == ' ' || isBreakOrEnd behind.current) then
    throw ⟨some (.tag, some start), .unexpectedCharacter "' '" behind.current, behind.position⟩
  return { lexer.emit (.tag handle suffix) start with cursor := behind, allowsKey := false }

/-- A block scalar. A key may follow it. -/
def readBlockScalar (lexer : Lexer) : Except Error Lexer := do
  let lexer ← lexer.dropCandidate
  let (text, behind) ← readBlock lexer.indent lexer.cursor
  return { lexer.emit (.scalar (String.ofList text) false) lexer.cursor.position with
    cursor := behind, allowsKey := true }

def readQuotedScalar (lexer : Lexer) : Except Error Lexer := do
  let lexer ← lexer.noteCandidate
  let (text, behind) ← readQuoted lexer.halves lexer.cursor
  return { lexer.emit (.scalar (String.ofList text) false) lexer.cursor.position with
    cursor := behind, allowsKey := false }

/-- A plain scalar. A key may follow it on a later line. -/
def readPlainScalar (lexer : Lexer) : Except Error Lexer := do
  let lexer ← lexer.noteCandidate
  let plain := readPlain lexer.inFlow lexer.indent lexer.cursor
  return { lexer.emit (.scalar (String.ofList plain.text) true) lexer.cursor.position with
    cursor := plain.cursor, allowsKey := plain.endsLine }

/-- Whether a plain scalar may begin with a character, given the one after it. -/
def startsPlain (inFlow : Bool) (c next : Char) : Bool :=
  !(isSpaceOrEnd c || ['-', '?', ':', ',', '[', ']', '\x7b', '\x7d', '#', '&', '*', '!', '|', '>',
    '\'', '"', '%', '@', '\x60'].contains c) ||
  (!isSpaceOrEnd next && (c == '-' || (!inFlow && (c == '?' || c == ':'))))

def readToken (lexer : Lexer) : Except Error Lexer :=
  let cursor := lexer.cursor
  let c := cursor.current
  let next := cursor.peek 1
  let atMargin := cursor.column == 0
  if cursor.rest.isEmpty then lexer.readEnd
  else if c == '%' && atMargin then lexer.readDirective
  else if cursor.isTriple '-' && atMargin then lexer.readDocumentMark .documentStart
  else if cursor.isTriple '.' && atMargin then lexer.readDocumentMark .documentEnd
  else if c == '[' then lexer.readFlowStart .flowSequenceStart
  else if c == '\x7b' then lexer.readFlowStart .flowMappingStart
  else if c == ']' then lexer.readFlowEnd .flowSequenceEnd
  else if c == '\x7d' then lexer.readFlowEnd .flowMappingEnd
  else if c == ',' then lexer.readFlowEntry
  else if c == '-' && isSpaceOrEnd next then lexer.readBlockEntry
  else if c == '?' && (lexer.inFlow || isSpaceOrEnd next) then lexer.readKey
  else if c == ':' && (lexer.inFlow || isSpaceOrEnd next) then lexer.readValue
  else if c == '*' then lexer.readName .aliasName .aliasOf
  else if c == '&' then lexer.readName .anchor .anchor
  else if c == '!' then lexer.readTag
  else if (c == '|' || c == '>') && !lexer.inFlow then lexer.readBlockScalar
  else if c == '\'' || c == '"' then lexer.readQuotedScalar
  else if startsPlain lexer.inFlow c next then lexer.readPlainScalar
  else .error ⟨some (.nextToken, none), .badStart c, cursor.position⟩

/-- Read the next token, with the ends of blocks before it. -/
def step (lexer : Lexer) : Except Error Lexer := do
  let lexer ← (lexer.skipBlanks lexer.cursor.fuel).dropStale
  (lexer.close fun column => lexer.cursor.column < column).readToken

/-- Read tokens to the end of the text or to a fault. A fault hides the tokens that were not
settled before it. -/
def run : Nat → Lexer → Lexemes
  | 0, lexer => ⟨lexer.newest.reverse, none⟩
  | fuel + 1, lexer =>
    if lexer.isDone then ⟨lexer.newest.reverse, none⟩
    else
      match lexer.step with
      | .error fault => ⟨lexer.newest.reverse.take lexer.settled, some fault⟩
      | .ok read =>
        match read.dropStale with
        | .error fault => ⟨lexer.newest.reverse.take lexer.settled, some fault⟩
        | .ok read => run fuel read

end Lexer

/-- The tokens of a text. A byte order mark at its beginning counts for nothing. -/
def Lexemes.ofText (halves : Text.Halves) (text : List Char) : Lexemes :=
  let lexer := Lexer.start halves text
  let cursor := lexer.cursor
  let lexer := if cursor.current == '\uFEFF' then { lexer with cursor := cursor.next } else lexer
  lexer.run (lexer.cursor.fuel + 1)

end Tailnet.Yaml
