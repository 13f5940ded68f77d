/-!
A place in a YAML text: what lies ahead, and the line and column reached.
-/

namespace Tailnet.Yaml

/-- A line and a column, both counted from zero. -/
structure Position where
  line : Nat
  column : Nat
deriving DecidableEq, Repr

/-- The rest of a text and the place where it begins. The size is that of the whole text. -/
structure Cursor where
  size : Nat
  rest : List Char
  index : Nat
  line : Nat
  column : Nat

def isBreak (c : Char) : Bool :=
  c == '\n' || c == '\r' || c == '\x85' || c == '\u2028' || c == '\u2029'

/-- The character that stands for the end of the text. -/
def endMark : Char := '\x00'

def isBreakOrEnd (c : Char) : Bool := isBreak c || c == endMark

def isSpaceOrEnd (c : Char) : Bool := c == ' ' || c == '\t' || isBreakOrEnd c

namespace Cursor

def start (cs : List Char) : Cursor := ⟨cs.length, cs, 0, 0, 0⟩

def position (cursor : Cursor) : Position := ⟨cursor.line, cursor.column⟩

def peek (cursor : Cursor) (ahead : Nat) : Char := cursor.rest.getD ahead endMark

def current (cursor : Cursor) : Char := cursor.peek 0

/-- The cursor behind the next character. A byte order mark takes up no column. -/
def next (cursor : Cursor) : Cursor :=
  match cursor.rest with
  | [] => cursor
  | c :: rest =>
    if isBreak c && !(c == '\r' && rest.head? == some '\n') then
      ⟨cursor.size, rest, cursor.index + 1, cursor.line + 1, 0⟩
    else
      ⟨cursor.size, rest, cursor.index + 1, cursor.line,
        if c == '\uFEFF' then cursor.column else cursor.column + 1⟩

def skip : Nat → Cursor → Cursor
  | 0, cursor => cursor
  | count + 1, cursor => skip count cursor.next

/-- The characters ahead of a class, and the cursor behind them. -/
def span (cursor : Cursor) (p : Char → Bool) : List Char × Cursor :=
  let taken := cursor.rest.takeWhile p
  (taken, skip taken.length cursor)

def skipWhile (cursor : Cursor) (p : Char → Bool) : Cursor := (cursor.span p).2

/-- The line break at the cursor, if there is one. All but the separators of lines and paragraphs
count as a line feed. -/
def lineBreak (cursor : Cursor) : List Char × Cursor :=
  let c := cursor.current
  if c == '\r' && cursor.peek 1 == '\n' then (['\n'], skip 2 cursor)
  else if c == '\n' || c == '\r' || c == '\x85' then (['\n'], cursor.next)
  else if isBreak c then ([c], cursor.next)
  else ([], cursor)

/-- Whether three equal characters and then a space stand at the cursor. -/
def isTriple (cursor : Cursor) (c : Char) : Bool :=
  cursor.peek 0 == c && cursor.peek 1 == c && cursor.peek 2 == c && isSpaceOrEnd (cursor.peek 3)

/-- Whether the mark of a document's beginning or end stands at the cursor. -/
def atDocumentMark (cursor : Cursor) : Bool := cursor.isTriple '-' || cursor.isTriple '.'

/-- A bound on the number of steps that can be taken: each goes over a character of the text. -/
def fuel (cursor : Cursor) : Nat := cursor.size + 1

end Cursor

end Tailnet.Yaml
