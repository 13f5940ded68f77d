import Tailnet.Table
import Tailnet.Text.Blank
import Tailnet.Text.Encoding
import Tailnet.Text.Split

/-!
Files of assignments, one name with a value on each line. Values may be quoted, and may refer to
other names. A line that is malformed is left out.
-/

namespace Tailnet.Assignments

/-- What was read, and the rest of the text, or the rest of the text where nothing fits. -/
abbrev Reading (α : Type) := Except (List Char) (α × List Char)

def isSpace (c : Char) : Bool := Text.isBlank c && c != '\n'

/-- The text without the blanks before the next character of the line. -/
def skipSpace (cs : List Char) : List Char := cs.dropWhile isSpace

def lineOf (cs : List Char) : List Char := cs.takeWhile (· != '\n')

/-- The text behind the rest of a line, from the line feed on. -/
def behindLine (cs : List Char) : List Char := cs.dropWhile (· != '\n')

/-- Read up to a closing quote. A quote behind a backslash closes nothing, unless no other quote
follows. -/
def quotedContent (quote : Char) : List Char → Option (List Char × List Char)
  | [] => none
  | [c] => if c = quote then some ([], []) else none
  | c :: d :: rest =>
    if c = '\\' ∧ d = quote then
      match quotedContent quote rest with
      | some (content, behind) => some (c :: d :: content, behind)
      | none => some ([c], rest)
    else if c = quote then some ([], d :: rest)
    else (quotedContent quote (d :: rest)).map fun (content, behind) => (c :: content, behind)

/-- The escapes between double quotes, beside the quotes and the backslash. -/
def controlEscapes : List (Char × Char) :=
  [('a', '\x07'), ('b', '\x08'), ('f', '\x0c'), ('n', '\n'), ('r', '\r'), ('t', '\t'),
    ('v', '\x0b')]

/-- The character that an escape stands for between some quotes. -/
def escaped? (quote c : Char) : Option Char :=
  if c = '\\' ∨ c = '\'' then some c
  else if quote = '"' then (if c = '"' then some c else controlEscapes.lookup c)
  else none

def resolveEscapes (quote : Char) : List Char → List Char
  | '\\' :: c :: rest =>
    match escaped? quote c with
    | some meant => meant :: resolveEscapes quote rest
    | none => '\\' :: resolveEscapes quote (c :: rest)
  | c :: rest => c :: resolveEscapes quote rest
  | [] => []
termination_by cs => cs.length

/-- A value without the comment that begins behind a blank, and without blanks at its end. -/
def withoutComment (cs : List Char) : List Char :=
  let rec cut : Bool → List Char → List Char
    | _, [] => []
    | afterBlank, c :: rest =>
      if c = '#' && afterBlank then [] else c :: cut (Text.isBlank c) rest
  ((cut false cs).reverse.dropWhile Text.isBlank).reverse

def readValue (cs : List Char) : Reading (List Char) :=
  match cs with
  | [] => .ok ([], [])
  | c :: rest =>
    if c = '\'' ∨ c = '"' then
      match quotedContent c rest with
      | some (content, behind) => .ok (resolveEscapes c content, behind)
      | none => .error cs
    else
      .ok (withoutComment (lineOf cs), behindLine cs)

/-- Read a name. A comment stands where there is none. -/
def readName (cs : List Char) : Reading (Option (List Char)) :=
  match cs with
  | '#' :: _ => .ok (none, cs)
  | '\'' :: rest =>
    let name := rest.takeWhile (· != '\'')
    match rest.dropWhile (· != '\'') with
    | _ :: behind => if name.isEmpty then .error cs else .ok (some name, behind)
    | [] => .error cs
  | _ =>
    let isPart := fun c => c != '=' && c != '#' && !Text.isBlank c
    let name := cs.takeWhile isPart
    if name.isEmpty then .error cs else .ok (some name, cs.dropWhile isPart)

def skipExport (cs : List Char) : List Char :=
  match Text.afterStart? "export" (String.ofList cs) with
  | some behind =>
    let rest := behind.toList
    if (rest.headD 'a') |> isSpace then skipSpace rest else cs
  | none => cs

/-- The end of a line, which may hold a comment. -/
def readLineEnd (cs : List Char) : Reading Unit :=
  let cs := match skipSpace cs with
    | '#' :: rest => behindLine rest
    | _ => cs
  match skipSpace cs with
  | [] => .ok ((), [])
  | '\n' :: rest => .ok ((), rest)
  | _ => .error cs

/-- Read one assignment: a name, with a value if an equals sign follows. -/
def readAssignment (cs : List Char) :
    Except (List Char) (Option (List Char × Option (List Char)) × List Char) := do
  let (name?, rest) ← readName (skipExport cs)
  let rest := skipSpace rest
  let (value?, rest) ← match rest with
    | '=' :: behind => do
      let (value, rest) ← readValue (skipSpace behind)
      pure (some value, rest)
    | _ => pure (none, rest)
  let (_, rest) ← readLineEnd rest
  return (name?.map fun name => (name, value?), rest)

def readAll : Nat → List Char → List (List Char × Option (List Char))
  | 0, _ => []
  | fuel + 1, cs =>
    match cs.dropWhile Text.isBlank with
    | [] => []
    | cs =>
      match readAssignment cs with
      | .ok (some assignment, rest) => assignment :: readAll fuel rest
      | .ok (none, rest) => readAll fuel rest
      | .error rest => readAll fuel ((behindLine rest).drop 1)

/-! References. -/

/-- A reference at the beginning of a text: the name between braces, and what stands for it if it
has no value. -/
def reference? : List Char → Option (List Char × Option (List Char) × List Char)
  | '$' :: '\x7b' :: rest =>
    let name := rest.takeWhile fun c => c != '\x7d' && c != ':'
    match rest.dropWhile fun c => c != '\x7d' && c != ':' with
    | '\x7d' :: behind => some (name, none, behind)
    | ':' :: '-' :: behind =>
      match behind.dropWhile (· != '\x7d') with
      | _ :: after => some (name, some (behind.takeWhile (· != '\x7d')), after)
      | [] => none
    | _ => none
  | _ => none

def resolve (known : Table String (Option String)) : Nat → List Char → List Char
  | 0, cs => cs
  | fuel + 1, cs =>
    match reference? cs with
    | some (name, fallback, rest) =>
      let value := match known.get? (String.ofList name) with
        | some value? => (value?.getD "").toList
        | none => fallback.getD []
      value ++ resolve known fuel rest
    | none =>
      match cs with
      | [] => []
      | c :: rest => c :: resolve known fuel rest

/-- The names and values that a text assigns, given those of the environment. Later assignments see
earlier ones. -/
def read (environment : Table String String) (text : String) : Table String (Option String) :=
  let outer : Table String (Option String) :=
    environment.map fun (name, value) => (name, some value)
  let cs := Text.withoutMark (Text.unifyBreaks text.toList)
  (readAll (cs.length + 1) cs).foldl (fun assigned (name, value?) =>
    assigned.insert (String.ofList name) (value?.map fun value =>
      String.ofList (resolve (outer.update assigned) (value.length + 1) value))) []

end Tailnet.Assignments
