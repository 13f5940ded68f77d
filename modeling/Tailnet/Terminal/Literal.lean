import Tailnet.Integer.Numeral
import Tailnet.Json.Reader
import Tailnet.Text.Encoding
import Tailnet.Text.Word

/-!
Literals: numbers, texts, byte strings, truth values, and tuples, sets and mappings of literals.
What matters here is only whether a text is one.
-/

namespace Tailnet.Terminal.Literal

/-- The kinds of literals, as far as they decide where one may stand. Signs stand before plain
numbers only, an imaginary part behind a real one, and only hashable literals are keys. -/
inductive Kind where
  | real
  | signedReal
  | imaginary
  | text
  | bytes
  | hashable
  | unhashable
deriving DecidableEq, Repr

/-- What was recognised, and the rest of the text. -/
abbrev Match := Option (Kind × List Char)

/-- Go over blanks: inside brackets over line breaks and comments too. Behind a backslash a line
break is a blank everywhere. -/
def skip (isInside : Bool) : List Char → List Char
  | [] => []
  | c :: rest =>
    if c == ' ' || c == '\t' || c == '\x0c' then skip isInside rest
    else if c == '\n' && isInside then skip isInside rest
    else if c == '\\' && rest.head? == some '\n' then skip isInside (rest.drop 1)
    else if c == '#' && isInside then skip isInside (rest.dropWhile (· != '\n'))
    else c :: rest
termination_by cs => cs.length
decreasing_by
  all_goals
    have := (List.dropWhile_suffix (fun x => x != '\n') : rest.dropWhile _ <:+ rest).length_le
    simp_all only [List.length_cons, List.length_drop]
    omega

/-! Numbers. -/

/-- Go over digits, with single underscores between them. -/
def digits (isDigit : Char → Bool) : List Char → List Char
  | '_' :: c :: rest => if isDigit c then digits isDigit rest else '_' :: c :: rest
  | c :: rest => if isDigit c then digits isDigit rest else c :: rest
  | [] => []

/-- Go over digits, of which there must be one. -/
def someDigits? (isDigit : Char → Bool) : List Char → Option (List Char)
  | c :: rest => if isDigit c then some (digits isDigit rest) else none
  | [] => none

/-- Go over a fraction behind its point, if there is one. -/
def skipFraction : List Char → List Char
  | '.' :: rest => (someDigits? Json.isDigit rest).getD rest
  | cs => cs

/-- Go over an exponent, if there is one. -/
def skipExponent (cs : List Char) : List Char :=
  match cs with
  | mark :: rest =>
    if mark == 'e' || mark == 'E' then
      let behind := match rest with
        | '+' :: more | '-' :: more => more
        | more => more
      (someDigits? Json.isDigit behind).getD cs
    else cs
  | [] => cs

/-- A number in tens. A whole number has no zeros before it and not too many digits. -/
def decimal? (cs : List Char) : Match :=
  let behindWhole := (someDigits? Json.isDigit cs).getD cs
  let whole := (cs.take (cs.length - behindWhole.length)).filter (· != '_')
  let behind := skipExponent (skipFraction behindWhole)
  match behind with
  | 'j' :: rest | 'J' :: rest => some (.imaginary, rest)
  | _ =>
    let isWhole := behind.length == behindWhole.length
    let isPadded := whole.head? == some '0' && whole.any (· != '0')
    if isWhole && (isPadded || Integer.maxDigits < whole.length) then none
    else some (.real, behind)

def baseDigit? (letter : Char) : Option (Char → Bool) :=
  let isBelow (base : Nat) : Char → Bool := fun c => (Json.hexValue? c).any (· < base)
  if letter == 'x' || letter == 'X' then some (isBelow 16)
  else if letter == 'o' || letter == 'O' then some (isBelow 8)
  else if letter == 'b' || letter == 'B' then some (isBelow 2)
  else none

def number? (cs : List Char) : Match :=
  match cs with
  | '0' :: letter :: rest =>
    match baseDigit? letter with
    | some isDigit =>
      let rest := if rest.head? = some '_' then rest.drop 1 else rest
      (someDigits? isDigit rest).map fun behind => (.real, behind)
    | none => decimal? cs
  | '.' :: c :: _ => if Json.isDigit c then decimal? cs else none
  | c :: _ => if Json.isDigit c then decimal? cs else none
  | [] => none

/-! Texts. -/

/-- Whether a text begins with a number of hexadecimal digits, and with what value. -/
def hexAt? (width : Nat) (cs : List Char) : Option Nat :=
  let values := (cs.take width).filterMap Json.hexValue?
  if values.length = width then some (values.foldl (fun n d => 16 * n + d) 0) else none

/-- Whether what follows a backslash makes an escape. -/
def isEscape (isBytes : Bool) : List Char → Bool
  | 'x' :: rest => (hexAt? 2 rest).isSome
  | 'u' :: rest => isBytes || (hexAt? 4 rest).isSome
  | 'U' :: rest => isBytes || (hexAt? 8 rest).any (· < 0x110000)
  | 'N' :: rest => isBytes || (rest.head? == some '\x7b' && rest.contains '\x7d')
  | _ => true

/-- Read up to the closing quotes, given as many as there are. -/
def closing? (quote : Char) (count : Nat) (isRaw isBytes : Bool) : List Char → Option (List Char)
  | [] => none
  | '\\' :: c :: rest =>
    if (isRaw || isEscape isBytes (c :: rest)) && (!isBytes || c.toNat < 0x80) then
      closing? quote count isRaw isBytes rest
    else none
  | c :: rest =>
    if (List.replicate count quote).isPrefixOf (c :: rest) then some (rest.drop (count - 1))
    else if (c == '\n' && count == 1) || (isBytes && 0x80 ≤ c.toNat) then none
    else closing? quote count isRaw isBytes rest

/-- The letters before the quotes of a text: whether escapes mean themselves, and whether it is a
byte string. -/
def marks? (letters : List Char) : Option (Bool × Bool) :=
  match letters.map Char.toLower with
  | [] | ['u'] => some (false, false)
  | ['r'] => some (true, false)
  | ['b'] => some (false, true)
  | ['b', 'r'] | ['r', 'b'] => some (true, true)
  | _ => none

def quoted? (cs : List Char) : Match :=
  let letters := (cs.take 2).takeWhile Char.isAlpha
  match marks? letters, cs.drop letters.length with
  | some (isRaw, isBytes), quote :: rest =>
    if quote == '"' || quote == '\'' then
      let behind? := match rest with
        | c :: d :: more =>
          if c == quote && d == quote then closing? quote 3 isRaw isBytes more
          else closing? quote 1 isRaw isBytes rest
        | _ => closing? quote 1 isRaw isBytes rest
      behind?.map fun behind => (if isBytes then .bytes else .text, behind)
    else none
  | _, _ => none

/-- Texts one behind the other, all of one kind. -/
def moreQuoted? (isInside : Bool) (kind : Kind) : Nat → List Char → Match
  | 0, _ => none
  | fuel + 1, cs =>
    match quoted? (skip isInside cs) with
    | none => some (kind, cs)
    | some (other, rest) => if other = kind then moreQuoted? isInside kind fuel rest else none

def constant? (cs : List Char) : Match :=
  (["None", "True", "False", "..."].find? fun name => name.toList.isPrefixOf cs).map fun name =>
    (.hashable, cs.drop name.length)

/-! Literals with parts. -/

/-- The kind of a literal made of others that must be hashable for it to be. -/
def kindOf (kinds : List Kind) : Kind :=
  if kinds.contains .unhashable then .unhashable else .hashable

mutual

def atom? (isInside : Bool) : Nat → List Char → Match
  | 0, _ => none
  | fuel + 1, cs =>
    match cs with
    | '(' :: rest => tuple? fuel (skip true rest)
    | '\x7b' :: rest => braces? fuel (skip true rest)
    | 's' :: 'e' :: 't' :: rest => emptySet? (skip isInside rest)
    | _ =>
      match quoted? cs with
      | some (kind, rest) => moreQuoted? isInside kind fuel rest
      | none => (number? cs).or (constant? cs)

/-- What follows the name of sets: nothing between parentheses. -/
def emptySet? : List Char → Match
  | '(' :: rest =>
    match skip true rest with
    | ')' :: rest => some (.unhashable, rest)
    | _ => none
  | _ => none

/-- A literal, perhaps with a sign or an imaginary part. -/
def literal? (isInside : Bool) : Nat → List Char → Match
  | 0, _ => none
  | fuel + 1, cs => do
    let cs := skip isInside cs
    let (kind, rest) ←
      match cs with
      | '+' :: rest | '-' :: rest => do
        let (kind, rest) ← atom? isInside fuel (skip isInside rest)
        match kind with
        | .real => some (Kind.signedReal, rest)
        | .imaginary => some (Kind.hashable, rest)
        | _ => none
      | _ => atom? isInside fuel cs
    match skip isInside rest with
    | '+' :: more | '-' :: more =>
      if kind = .real || kind = .signedReal then do
        let (part, rest) ← atom? isInside fuel (skip isInside more)
        if part = .imaginary then some (.hashable, rest) else none
      else none
    | _ => some (kind, rest)

/-- What follows an opening parenthesis: nothing, a literal, or literals with commas. -/
def tuple? : Nat → List Char → Match
  | 0, _ => none
  | fuel + 1, cs =>
    match cs with
    | ')' :: rest => some (.hashable, rest)
    | _ => do
      let (kind, rest) ← literal? true fuel cs
      match skip true rest with
      | ')' :: rest => some (kind, rest)
      | ',' :: rest => do
        let (kinds, rest) ← items? ')' fuel rest
        some (kindOf (kind :: kinds), rest)
      | _ => none

/-- Literals with commas between them, up to a closing bracket. -/
def items? (bracket : Char) : Nat → List Char → Option (List Kind × List Char)
  | 0, _ => none
  | fuel + 1, cs =>
    match skip true cs with
    | [] => none
    | c :: rest =>
      if c == bracket then some ([], rest)
      else do
        let (kind, rest) ← literal? true fuel (c :: rest)
        match skip true rest with
        | ',' :: rest => do
          let (kinds, rest) ← items? bracket fuel rest
          some (kind :: kinds, rest)
        | d :: rest => if d == bracket then some ([kind], rest) else none
        | [] => none

/-- What follows an opening brace: the entries of a mapping or the members of a set. -/
def braces? : Nat → List Char → Match
  | 0, _ => none
  | fuel + 1, cs =>
    match cs with
    | '\x7d' :: rest => some (.unhashable, rest)
    | _ => do
      let (kind, rest) ← literal? true fuel cs
      if kind = .unhashable then none
      match skip true rest with
      | '\x7d' :: rest => some (.unhashable, rest)
      | ',' :: rest => do
        let (kinds, rest) ← items? '\x7d' fuel rest
        if kinds.contains .unhashable then none else some (.unhashable, rest)
      | ':' :: rest => do
        let (_, rest) ← literal? true fuel rest
        entries? fuel rest
      | _ => none

/-- The entries of a mapping behind the first, up to the closing brace. -/
def entries? : Nat → List Char → Match
  | 0, _ => none
  | fuel + 1, cs =>
    match skip true cs with
    | '\x7d' :: rest => some (.unhashable, rest)
    | ',' :: rest =>
      match skip true rest with
      | '\x7d' :: rest => some (.unhashable, rest)
      | cs => do
        let (kind, rest) ← literal? true fuel cs
        if kind = .unhashable then none
        match skip true rest with
        | ':' :: rest => do
          let (_, rest) ← literal? true fuel rest
          entries? fuel rest
        | _ => none
    | _ => none

end

/-- Whether literals with commas between them make up a whole text, apart from blanks and comments
at its end. -/
def areLiterals : Nat → List Char → Bool
  | 0, _ => false
  | fuel + 1, cs =>
    match literal? false (4 * cs.length + 4) cs with
    | none => false
    | some (_, rest) =>
      if (skip true rest).isEmpty then true
      else
        match skip false rest with
        | ',' :: rest => (skip true rest).isEmpty || areLiterals fuel rest
        | _ => false

/-- Whether a text is a literal, or a tuple without parentheses. -/
def isLiteral (cs : List Char) : Bool :=
  let cs := skip true (Text.unifyBreaks cs)
  areLiterals (cs.length + 1) cs

end Tailnet.Terminal.Literal
