import Tailnet.Http.Percent
import Tailnet.Json.Reader
import Tailnet.Text.Blank
import Tailnet.Text.Encoding

/-!
Parameters behind the value of a header: names and values with equals signs between them and
semicolons before each. A value may stand in quotes, and it may be given in several pieces, some of
them with escapes.
-/

namespace Tailnet.Http

/-- What stands between semicolons, apart from those in quotes. The piece so far is given with the
last character first. -/
def piecesFrom (piece : List Char) (isQuoted : Bool) : List Char → List (List Char)
  | [] => [piece.reverse]
  | c :: rest =>
    if c = ';' && !isQuoted then piece.reverse :: piecesFrom [] false rest
    else
      let turns := c == '"' && piece.head? != some '\\'
      piecesFrom (c :: piece) (isQuoted != turns) rest

/-- A value without its quotes or angle brackets. Backslashes inside are left, since names are read
without regard to them. -/
def withoutQuotes (cs : List Char) : List Char :=
  match cs, cs.getLast? with
  | '"' :: inside@(_ :: _), some '"' => inside.dropLast
  | '<' :: inside@(_ :: _), some '>' => inside.dropLast
  | _, _ => cs

def nameAndValue (piece : List Char) : String × List Char :=
  match Text.cutFirst? '=' piece with
  | some (name, value) =>
    ((String.ofList (Text.trimChars name)).map Char.toLower, withoutQuotes (Text.trimChars value))
  | none => ((String.ofList (Text.trimChars piece)).map Char.toLower, [])

/-- All parameters of a header's value. What stands before the first semicolon counts as one. -/
def parametersOf (header : String) : List (String × List Char) :=
  (piecesFrom [] false header.toList).map nameAndValue

/-- A piece of a value: its number, and whether it has escapes. -/
structure ValuePiece where
  number : Nat
  isEscaped : Bool
  text : List Char

/-- The piece of a parameter with a name that another name and its value stand for: the name has a
star, a number, or both behind it. -/
def pieceOf? (name : String) (parameter : String × List Char) : Option ValuePiece := do
  let marks ← Text.afterStart? (name ++ "*") parameter.1
  let (digits, star) := marks.toList.span Json.isDigit
  let isEscaped := digits.isEmpty || star == ['*']
  if digits.isEmpty && !star.isEmpty then none
  else if star.isEmpty || star == ['*'] then
    some ⟨Json.digitsValue digits, isEscaped, parameter.2⟩
  else none

/-- The text of a piece. Its escapes stand for the characters with the codes of the bytes. -/
def ValuePiece.chars (piece : ValuePiece) : List Char :=
  if piece.isEscaped then (unescape piece.text).map fun b => Char.ofNat b.toNat else piece.text

/-- The value that is given in pieces. If one of them is escaped, a character set and a language
stand before the value, with an apostrophe behind each. -/
def joinPieces (pieces : List ValuePiece) : List Char :=
  let ordered := pieces.mergeSort fun a b => a.number ≤ b.number
  let whole := ordered.flatMap ValuePiece.chars
  if pieces.any ValuePiece.isEscaped then
    match Text.cutFirst? '\'' whole with
    | some (_, rest) =>
      match Text.cutFirst? '\'' rest with
      | some (_, value) => value
      | none => whole
    | none => whole
  else whole

/-- The value of a parameter, if the header has it. -/
def parameter? (header name : String) : Option (List Char) :=
  let parameters := parametersOf header
  (parameters.lookup name).or
    (match (parameters.drop 1).filterMap (pieceOf? name) with
      | [] => none
      | pieces => some (joinPieces pieces))

end Tailnet.Http
