import Tailnet.Json.Reader
import Tailnet.Text.Half
import Tailnet.Yaml.Token

/-!
The texts of scalars: plain, quoted, and in blocks. Line breaks inside a scalar
are folded into spaces, except in literal blocks.
-/

namespace Tailnet.Yaml

/-- Pieces of text, and the cursor behind them. -/
abbrev Piece := List Char × Cursor

/-- Skip blanks and take the line breaks between them. -/
def blankLines (isSkipped : Char → Bool) : Nat → Cursor → Piece
  | 0, cursor => ([], cursor)
  | fuel + 1, cursor =>
    let cursor := cursor.skipWhile isSkipped
    if isBreak cursor.current then
      let (taken, cursor) := cursor.lineBreak
      let (more, cursor) := blankLines isSkipped fuel cursor
      (taken ++ more, cursor)
    else ([], cursor)

/-- A line break followed by others, folded: a single line feed is a space, of several the first
is dropped. -/
def fold (first more : List Char) : List Char :=
  if first != ['\n'] then first ++ more
  else if more.isEmpty then [' ']
  else more

/-! Plain scalars. -/

/-- The number of characters of a plain scalar that stand together without a space. -/
def plainLength (inFlow : Bool) : List Char → Nat
  | [] => 0
  | c :: rest =>
    let next := rest.headD endMark
    let ends := isSpaceOrEnd c ||
      (c == ':' &&
        (isSpaceOrEnd next || (inFlow && [',', '[', ']', '\x7b', '\x7d'].contains next))) ||
      (inFlow && [',', '?', '[', ']', '\x7b', '\x7d'].contains c)
    if ends then 0 else plainLength inFlow rest + 1

/-- Line breaks and spaces after the first line break inside a plain scalar. A document mark
ends it. -/
def plainBreaks : Nat → Cursor → Option Piece
  | 0, cursor => some ([], cursor)
  | fuel + 1, cursor =>
    if cursor.current == ' ' then plainBreaks fuel cursor.next
    else if isBreak cursor.current then
      let (taken, cursor) := cursor.lineBreak
      if cursor.atDocumentMark then none
      else (plainBreaks fuel cursor).map fun (more, cursor) => (taken ++ more, cursor)
    else some ([], cursor)

/-- What separates two words of a plain scalar, whether a line was ended by it, and the cursor
behind it. -/
structure Gap where
  text : List Char
  endsLine : Bool
  cursor : Cursor

def plainGap (cursor : Cursor) : Gap :=
  let (spaces, cursor) := cursor.span (· == ' ')
  if isBreak cursor.current then
    let (first, behind) := cursor.lineBreak
    if behind.atDocumentMark then ⟨[], true, behind⟩
    else
      match plainBreaks behind.fuel behind with
      | some (more, cursor) => ⟨fold first more, true, cursor⟩
      | none => ⟨[], true, behind.skipWhile fun c => c == ' ' || isBreak c⟩
  else ⟨spaces, false, cursor⟩

/-- The text of a plain scalar, the cursor behind it, and whether it ended a line. -/
structure Plain where
  text : List Char
  cursor : Cursor
  endsLine : Bool

/-- Read the words of a plain scalar, whose later lines are indented at least as given. -/
def plainWords (inFlow : Bool) (indent : Int) : Nat → List Char → Cursor → Bool → Plain
  | 0, _, cursor, endsLine => ⟨[], cursor, endsLine⟩
  | fuel + 1, before, cursor, endsLine =>
    let length := if cursor.current == '#' then 0 else plainLength inFlow cursor.rest
    if length = 0 then ⟨[], cursor, endsLine⟩
    else
      let word := cursor.rest.take length
      let gap := plainGap (cursor.skip length)
      if gap.text.isEmpty || gap.cursor.current == '#' ||
          (!inFlow && (gap.cursor.column : Int) < indent) then
        ⟨before ++ word, gap.cursor, gap.endsLine⟩
      else
        let more := plainWords inFlow indent fuel gap.text gap.cursor gap.endsLine
        ⟨before ++ word ++ more.text, more.cursor, more.endsLine⟩

def readPlain (inFlow : Bool) (indent : Int) (cursor : Cursor) : Plain :=
  plainWords inFlow (indent + 1) cursor.fuel [] cursor false

/-! Quoted scalars. -/

/-- The character that a letter after a backslash stands for. -/
def escaped? (c : Char) : Option Char :=
  (([('0', 0x0), ('a', 0x7), ('b', 0x8), ('t', 0x9), ('\t', 0x9), ('n', 0xA), ('v', 0xB),
      ('f', 0xC), ('r', 0xD), ('e', 0x1B), (' ', 0x20), ('"', 0x22), ('\\', 0x5C), ('/', 0x2F),
      ('N', 0x85), ('_', 0xA0), ('L', 0x2028), ('P', 0x2029)] : List (Char × Nat)).find? fun pair =>
    pair.1 == c).map fun pair => Char.ofNat pair.2

/-- The number of hexadecimal digits after a letter behind a backslash. -/
def escapeWidth? (c : Char) : Option Nat :=
  if c == 'x' then some 2 else if c == 'u' then some 4 else if c == 'U' then some 8 else none

/-- The lines after the first line break in a quoted scalar. A document mark is a fault. -/
def quotedBreaks (start : Position) : Nat → Cursor → Except Error Piece
  | 0, cursor => .ok ([], cursor)
  | fuel + 1, cursor =>
    if cursor.atDocumentMark then
      .error ⟨some (.quotedScalar, some start), .documentSeparator, cursor.position⟩
    else
      let cursor := cursor.skipWhile fun c => c == ' ' || c == '\t'
      if isBreak cursor.current then do
        let (taken, cursor) := cursor.lineBreak
        let (more, cursor) ← quotedBreaks start fuel cursor
        return (taken ++ more, cursor)
      else .ok ([], cursor)

/-- An escape in a double-quoted scalar. It may name a surrogate. -/
def readEscape (halves : Text.Halves) (start : Position) (cursor : Cursor) : Except Error Piece :=
  let behind := cursor.next
  let c := behind.current
  match escaped? c, escapeWidth? c with
  | some meant, _ => .ok ([meant], behind.next)
  | none, some width =>
    let values := (behind.next.rest.take width).map Json.hexValue?
    let digits := (values.takeWhile Option.isSome).filterMap id
    let code := digits.foldl (fun n d => 16 * n + d) 0
    if digits.length = width then
      if code < 0x110000 then .ok ([halves.charOf code], behind.next.skip width)
      else
        .error ⟨some (.doubleQuotedScalar, some start), .noCharacter code, behind.next.position⟩
    else
      .error ⟨some (.doubleQuotedScalar, some start),
        .unexpectedCharacter ("escape sequence of " ++ toString width ++ " hexdecimal numbers")
          (behind.peek (1 + digits.length)), behind.next.position⟩
  | none, none =>
    if isBreak c then quotedBreaks start behind.fuel behind.lineBreak.2
    else .error ⟨some (.doubleQuotedScalar, some start), .unknownEscape c, behind.position⟩

def quotedText (halves : Text.Halves) (quote : Char) (start : Position) :
    Nat → Cursor → Except Error Piece
  | 0, cursor => .error ⟨some (.quotedScalar, some start), .endOfStream, cursor.position⟩
  | fuel + 1, cursor =>
    let c := cursor.current
    if c == quote && quote == '\'' && cursor.peek 1 == '\'' then do
      let (more, cursor) ← quotedText halves quote start fuel (cursor.skip 2)
      return ('\'' :: more, cursor)
    else if c == quote then .ok ([], cursor.next)
    else if c == '\\' && quote == '"' then do
      let (taken, cursor) ← readEscape halves start cursor
      let (more, cursor) ← quotedText halves quote start fuel cursor
      return (taken ++ more, cursor)
    else if isSpaceOrEnd c then
      let (spaces, behind) := cursor.span fun c => c == ' ' || c == '\t'
      if behind.rest.isEmpty then
        .error ⟨some (.quotedScalar, some start), .endOfStream, behind.position⟩
      else if isBreak behind.current then do
        let (first, cursor) := behind.lineBreak
        let (lines, cursor) ← quotedBreaks start cursor.fuel cursor
        let (more, cursor) ← quotedText halves quote start fuel cursor
        return (fold first lines ++ more, cursor)
      else do
        let (more, cursor) ← quotedText halves quote start fuel behind
        return (spaces ++ more, cursor)
    else do
      let (more, cursor) ← quotedText halves quote start fuel cursor.next
      return (c :: more, cursor)

def readQuoted (halves : Text.Halves) (cursor : Cursor) : Except Error Piece :=
  quotedText halves cursor.current cursor.position cursor.fuel cursor.next

/-! Block scalars. -/

/-- What becomes of the line breaks at the end of a block: one is kept, none or all. -/
inductive Chomping where
  | clip
  | strip
  | keep
deriving DecidableEq

/-- The header of a block scalar. -/
structure BlockHeader where
  chomping : Chomping
  increment : Option Nat
  cursor : Cursor

def chomping? (cursor : Cursor) : Option (Chomping × Cursor) :=
  if cursor.current == '+' then some (.keep, cursor.next)
  else if cursor.current == '-' then some (.strip, cursor.next)
  else none

/-- An indentation indicator at the cursor. Zero is none. -/
def increment? (start : Position) (cursor : Cursor) : Except Error (Option (Nat × Cursor)) :=
  if Json.isDigit cursor.current then
    let n := cursor.current.toNat - '0'.toNat
    if n = 0 then .error ⟨some (.blockScalar, some start), .badIndentation, cursor.position⟩
    else .ok (some (n, cursor.next))
  else .ok none

/-- Read the indicators of a block, in either order, and the rest of its first line, which may
only hold a comment. -/
def blockHeader (start : Position) (cursor : Cursor) : Except Error BlockHeader := do
  let header : BlockHeader ←
    match chomping? cursor with
    | some (chomping, cursor) =>
      match ← increment? start cursor with
      | some (n, cursor) => pure ⟨chomping, some n, cursor⟩
      | none => pure ⟨chomping, none, cursor⟩
    | none =>
      match ← increment? start cursor with
      | some (n, cursor) =>
        match chomping? cursor with
        | some (chomping, cursor) => pure ⟨chomping, some n, cursor⟩
        | none => pure ⟨.clip, some n, cursor⟩
      | none => pure ⟨.clip, none, cursor⟩
  if !isSpaceOrEnd header.cursor.current || header.cursor.current == '\t' then
    throw ⟨some (.blockScalar, some start),
      .unexpectedCharacter "chomping or indentation indicators" header.cursor.current,
      header.cursor.position⟩
  let cursor := header.cursor.skipWhile (· == ' ')
  let cursor := if cursor.current == '#' then cursor.skipWhile (!isBreak ·) else cursor
  if !isBreakOrEnd cursor.current then
    throw ⟨some (.blockScalar, some start), .unexpectedCharacter "a comment or a line break"
      cursor.current, cursor.position⟩
  return { header with cursor := cursor.lineBreak.2 }

/-- Skip blank lines, take their breaks, and find the deepest column among them. -/
def blockIndentation : Nat → Nat → Cursor → List Char × Nat × Cursor
  | 0, deepest, cursor => ([], deepest, cursor)
  | fuel + 1, deepest, cursor =>
    if cursor.current == ' ' then
      blockIndentation fuel (max deepest (cursor.column + 1)) cursor.next
    else if isBreak cursor.current then
      let (taken, cursor) := cursor.lineBreak
      let (more, deepest, cursor) := blockIndentation fuel deepest cursor
      (taken ++ more, deepest, cursor)
    else ([], deepest, cursor)

/-- Take the breaks of blank lines, skipping spaces up to a column. -/
def blockBreaks (indent : Nat) : Nat → Cursor → Piece
  | 0, cursor => ([], cursor)
  | fuel + 1, cursor =>
    if cursor.column < indent && cursor.current == ' ' then blockBreaks indent fuel cursor.next
    else if isBreak cursor.current then
      let (taken, cursor) := cursor.lineBreak
      let (more, cursor) := blockBreaks indent fuel cursor
      (taken ++ more, cursor)
    else ([], cursor)

/-- Read the lines of a block, each behind the breaks before it. -/
def blockLines (isFolded : Bool) (chomping : Chomping) (indent : Nat) :
    Nat → List Char → Cursor → Piece
  | 0, _, cursor => ([], cursor)
  | fuel + 1, breaks, cursor =>
    if cursor.column = indent && !cursor.rest.isEmpty then
      let startsWord := cursor.current != ' ' && cursor.current != '\t'
      let (line, cursor) := cursor.span (!isBreak ·)
      let (ending, cursor) := cursor.lineBreak
      let (more, cursor) := blockBreaks indent cursor.fuel cursor
      if cursor.column = indent && !cursor.rest.isEmpty then
        let joins := isFolded && ending == ['\n'] && startsWord && cursor.current != ' ' &&
          cursor.current != '\t'
        let between := if joins then (if more.isEmpty then [' '] else []) else ending
        let (others, cursor) := blockLines isFolded chomping indent fuel more cursor
        (breaks ++ line ++ between ++ others, cursor)
      else
        let tail := match chomping with
          | .clip => ending
          | .strip => []
          | .keep => ending ++ more
        (breaks ++ line ++ tail, cursor)
    else (if chomping = .keep then breaks else [], cursor)

def readBlock (indent : Int) (cursor : Cursor) : Except Error Piece := do
  let isFolded := cursor.current == '>'
  let header ← blockHeader cursor.position cursor.next
  let least := max (indent + 1) 1
  let cursor := header.cursor
  let (breaks, column, cursor) :=
    match header.increment with
    | none =>
      let (breaks, deepest, cursor) := blockIndentation cursor.fuel 0 cursor
      (breaks, max least.toNat deepest, cursor)
    | some n =>
      let column := (least + n - 1).toNat
      let (breaks, cursor) := blockBreaks column cursor.fuel cursor
      (breaks, column, cursor)
  return blockLines isFolded header.chomping column cursor.fuel breaks cursor

end Tailnet.Yaml
