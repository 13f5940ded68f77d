import Tailnet.Terminal.Literal
import Tailnet.Terminal.Picture
import Tailnet.Terminal.Style
import Tailnet.Terminal.Width

/-!
Markup in texts for a terminal. A group in square brackets that begins with a small letter, a slash,
`#` or `@` is a mark: it names a style, or ends one that was named before. On a terminal without
styles the marks leave nothing behind, but every ending must have its beginning, and what a mark
says of a handler must be a literal.
-/

namespace Tailnet.Terminal

/-- A part of a text with markup: characters to be shown, or the inside of a mark. -/
inductive Piece where
  | shown (cs : List Char)
  | mark (inside : List Char)
deriving DecidableEq, Repr

/-- Why a text with markup cannot be shown: a mark ends a style that was not begun, the parameters
of a handler are no literal, or a part of a colour is no number. -/
inductive MarkupError where
  | unopened (mark : String)
  | parameters (text : String)
  | colour (cause : Integer.NumeralError)
deriving DecidableEq, Repr

def startsMark (c : Char) : Bool :=
  ('a' ≤ c && c ≤ 'z') || c == '#' || c == '/' || c == '@'

/-- The inside of a mark behind its opening bracket, and what follows the mark. -/
def mark? (cs : List Char) : Option (List Char × List Char) :=
  let inside := cs.takeWhile fun c => c != ']' && c != '['
  match inside, cs.drop inside.length with
  | first :: _, ']' :: rest => if startsMark first then some (inside, rest) else none
  | _, _ => none

/-- Characters before others, in the first part if that is shown anyway. -/
def prepend (cs : List Char) : List Piece → List Piece
  | .shown more :: rest => .shown (cs ++ more) :: rest
  | pieces => .shown cs :: pieces

/-- Take a text apart. Of the backslashes before a mark each pair stands for one, and an odd one
makes the mark itself be shown. -/
def pieces : Nat → List Char → List Piece
  | 0, cs => if cs.isEmpty then [] else [.shown cs]
  | fuel + 1, cs =>
    let slashes := cs.takeWhile (· == '\\')
    match cs.drop slashes.length with
    | '[' :: rest =>
      match mark? rest with
      | some (inside, rest) =>
        let before := if slashes.length < 2 then []
          else [.shown (List.replicate (slashes.length / 2) '\\')]
        let self := if slashes.length % 2 = 1 then .shown ('[' :: inside ++ [']']) else .mark inside
        .shown [] :: before ++ self :: .shown [] :: pieces fuel rest
      | none => prepend (slashes ++ ['[']) (pieces fuel rest)
    | c :: rest =>
      if slashes.isEmpty then prepend [c] (pieces fuel rest)
      else prepend slashes (pieces fuel (c :: rest))
    | [] => if slashes.isEmpty then [] else [.shown slashes]

/-- Shown characters without the backslashes before brackets. -/
def unescape : List Char → List Char
  | '\\' :: '[' :: rest => '[' :: unescape rest
  | c :: rest => c :: unescape rest
  | [] => []

/-- A style that has been begun: its usual name, and what stands behind the equals sign. -/
structure Opened where
  name : String
  parameters : Option String
deriving DecidableEq, Repr

namespace Opened

def isHandler (opened : Opened) : Bool := Text.startsWith "@" opened.name

/-- The text of the literal in the parameters of a handler: all of them, or what follows the name of
a function. -/
def literalText (cs : List Char) : List Char :=
  let behind := cs.dropWhile fun c => Text.isWordPart c || c == '.'
  match behind with
  | [] => ['(', ')']
  | '(' :: rest =>
    if rest.getLast? = some ')' && !rest.contains '\n' then behind else cs
  | _ => cs

def check (opened : Opened) : Except MarkupError Unit :=
  match opened.parameters with
  | none | some "" => .ok ()
  | some text =>
    if !opened.isHandler || Literal.isLiteral (literalText (Text.trimChars text.toList)) then .ok ()
    else .error (.parameters text)

def checkStyle (opened : Opened) : Except MarkupError Unit :=
  let text := match opened.parameters with
    | none => opened.name
    | some parameters => opened.name ++ " " ++ parameters
  match Style.read text with
  | .error (.numeral cause) => .error (.colour cause)
  | _ => .ok ()

end Opened

def usualName (cs : List Char) : Except MarkupError String :=
  (Style.usualName (String.ofList cs)).mapError .colour

/-- The style that is ended, and those that remain: the innermost of a name, or simply the innermost
if no name is given. -/
def endStyle (name : Option String) (styles : List Opened) : Option (Opened × List Opened) :=
  (styles.find? fun opened => name.all (· == opened.name)).map fun ended =>
    (ended, styles.erase ended)

/-- The characters that pieces show, given the styles that have been begun, the innermost first. All
styles must be usable in the end. -/
def shownIn (styles : List Opened) : List Piece → Except MarkupError (List Char)
  | [] => do
    styles.forM Opened.checkStyle
    return []
  | .shown cs :: rest => do
    return withPictures cs.length (unescape cs) ++ (← shownIn styles rest)
  | .mark ('/' :: inside) :: rest => do
    let name := Text.trimChars (inside.takeWhile (· != '='))
    let name? ← if name.isEmpty then pure none else (usualName name).map some
    match endStyle name? styles with
    | none => throw (.unopened (String.ofList ('[' :: '/' :: inside ++ [']'])))
    | some (ended, remaining) =>
      ended.check
      let behind ← shownIn remaining rest
      if !ended.isHandler then ended.checkStyle
      return behind
  | .mark inside :: rest => do
    let (name, parameters) := match Text.cutFirst? '=' inside with
      | some (name, parameters) => (name, some (String.ofList parameters))
      | none => (inside, none)
    shownIn (⟨← usualName name, parameters⟩ :: styles) rest

def expandTabs (cs : List Char) : List Char :=
  ['\n'].intercalate ((Text.splitAt '\n' cs).map fun line => alignParts 0 (Text.splitAt '\t' line))

/-- Control characters that would ring, erase or move. -/
def isControl (c : Char) : Bool := ['\x07', '\x08', '\x0b', '\x0c', '\r'].contains c

def shown (text : String) : Except MarkupError String := do
  let cs := text.toList
  let visible ← shownIn [] (pieces cs.length cs)
  return String.ofList (expandTabs (visible.filter fun c => !isControl c))

end Tailnet.Terminal
