import Tailnet.Domain.Codepoint
import Tailnet.Domain.Direction
import Tailnet.Domain.Joining
import Tailnet.Text.Composition
import Tailnet.Text.Quoted

/-!
Which labels names of domains may have: composed texts of letters, digits, marks and hyphens, in
which some characters stand only beside certain others, and which run in one direction.
-/

namespace Tailnet.Domain

/-- What is wrong with the directions of a label's characters. Positions are counted from one. -/
inductive DirectionFault where
  | unknown (label : String) (position : Nat)
  | beginning (label : String)
  | leftward (position : Nat)
  | rightward (position : Nat)
  | numbers
  | ending
deriving DecidableEq, Repr

/-- What is wrong with a name or one of its labels. -/
inductive Fault where
  | nameTooLong
  | labelTooLong
  | emptyLabel
  | uncomposed
  | innerHyphens
  | outerHyphen
  | initialMark
  | nothingEncoded
  | finalHyphen
  | undecodable
  | disallowed (c : Char) (position : Nat) (label : String)
  | joiner (c : Char) (position : Nat) (label : String)
  | context (c : Char) (position : Nat) (label : String)
  | direction (cause : DirectionFault)
deriving DecidableEq, Repr

def DirectionFault.message : DirectionFault → String
  | unknown label position =>
    "Unknown directionality in label " ++ Text.quoted label ++ " at position " ++ toString position
  | beginning label =>
    "First codepoint in label " ++ Text.quoted label ++ " must be directionality L, R or AL"
  | leftward position =>
    "Invalid direction for codepoint at position " ++ toString position ++
      " in a right-to-left label"
  | rightward position =>
    "Invalid direction for codepoint at position " ++ toString position ++
      " in a left-to-right label"
  | numbers => "Can not mix numeral types in a right-to-left label"
  | ending => "Label ends with illegal codepoint directionality"

def codeName (c : Char) : String :=
  "U+" ++ String.ofList ((Text.hex 4 c.toNat).map Char.toUpper)

def Fault.message : Fault → String
  | nameTooLong => "Domain too long"
  | labelTooLong => "Label too long"
  | emptyLabel => "Empty Label"
  | uncomposed => "Label must be in Normalization Form C"
  | innerHyphens => "Label has disallowed hyphens in 3rd and 4th position"
  | outerHyphen => "Label must not start or end with a hyphen"
  | initialMark => "Label begins with an illegal combining character"
  | nothingEncoded => "Malformed A-label, no Punycode eligible content found"
  | finalHyphen => "A-label must not end with a hyphen"
  | undecodable => "Invalid A-label"
  | disallowed c position label =>
    "Codepoint " ++ codeName c ++ " at position " ++ toString position ++ " of " ++
      Text.quoted label ++ " not allowed"
  | joiner c position label =>
    "Unknown codepoint adjacent to joiner " ++ codeName c ++ " at position " ++ toString position ++
      " in " ++ Text.quoted label
  | context c position label =>
    "Codepoint " ++ codeName c ++ " not allowed at position " ++ toString position ++ " in " ++
      Text.quoted label
  | direction cause => cause.message

/-! Directions. -/

namespace Direction

/-- Whether a character makes its label one that may run from right to left. -/
def isRightward : Direction → Bool
  | right | arabic | arabicNumber => true
  | _ => false

def isNumber : Direction → Bool
  | arabicNumber | europeanNumber => true
  | _ => false

end Direction

def lastDirection? (directions : List Direction) : Option Direction :=
  (directions.filter (· != .mark)).getLast?

/-- Check the characters of a label that runs from right to left, given the kind of digits that came
first. -/
def checkLeftward : Nat → Option Direction → List Direction → Except DirectionFault Unit
  | _, _, [] => .ok ()
  | position, number, direction :: rest =>
    if direction = .left then .error (.leftward position)
    else if direction.isNumber then
      if number.any (· != direction) then .error .numbers
      else checkLeftward (position + 1) (some direction) rest
    else checkLeftward (position + 1) number rest

def checkDirections (label : List Char) : Except DirectionFault Unit := do
  let directions := label.map Domain.direction
  match directions.findIdx? (· == .unknown) with
  | some index => throw (.unknown (String.ofList label) (index + 1))
  | none =>
    if directions.any Direction.isRightward then
      match directions.head? with
      | some .right | some .arabic =>
        checkLeftward 1 none directions
        if !(lastDirection? directions).any fun d => d.isRightward || d.isNumber then throw .ending
      | some .left =>
        match directions.findIdx? Direction.isRightward with
        | some index => throw (.rightward (index + 1))
        | none => throw .ending
      | _ => throw (.beginning (String.ofList label))

/-! Characters that stand only beside certain others. -/

/-- The class of the signs that cancel the vowel of a letter. -/
def cancelling : Nat := 9

/-- Whether a joiner may stand behind some characters, the nearest one first, and before others:
behind a cancelling sign, or, if it keeps letters apart, between letters that would join. -/
def mayJoin (c : Char) (before after : List Char) : Bool :=
  (before.head?.any fun p => Text.markClass p == cancelling) ||
    (c == '\u200C' && ((before.dropWhile isTransparent).head?.any joinsNext) &&
      ((after.dropWhile isTransparent).head?.any joinsPrevious))

/-- Whether some characters are among those of a range. -/
def anyBetween (first last : Nat) (cs : List Char) : Bool :=
  cs.any fun c => first ≤ c.toNat && c.toNat ≤ last

/-- Whether a character that has a rule of its own may stand where it does; nothing if it has
none. -/
def contextVerdict? (c : Char) (before after label : List Char) : Option Bool :=
  if c = '\u00B7' then some (before.head? = some 'l' && after.head? = some 'l')
  else if c = '\u0375' then some (after.head?.any greekRanges.contains)
  else if c = '\u05F3' || c = '\u05F4' then some (before.head?.any hebrewRanges.contains)
  else if c = '\u30FB' then
    some (label.any fun d => d != '\u30FB' && (kanaRanges.contains d || hanRanges.contains d))
  else if 0x660 ≤ c.toNat && c.toNat ≤ 0x669 then some (!anyBetween 0x6F0 0x6F9 label)
  else if 0x6F0 ≤ c.toNat && c.toNat ≤ 0x6F9 then some (!anyBetween 0x660 0x669 label)
  else none

/-- Check the characters of a label behind some, the nearest one first. -/
def checkChars (label before : List Char) : List Char → Except Fault Unit
  | [] => .ok ()
  | c :: rest =>
    let position := before.length + 1
    let text := String.ofList label
    if validBasic.contains c || validSupplementary.contains c then
      checkChars label (c :: before) rest
    else if c = '\u200C' || c = '\u200D' then
      if mayJoin c before rest then checkChars label (c :: before) rest
      else .error (.joiner c position text)
    else
      match contextVerdict? c before rest label with
      | some true => checkChars label (c :: before) rest
      | some false => .error (.context c position text)
      | none => .error (.disallowed c position text)

/-- The length that no name exceeds. One with a dot at its end may have one character more. -/
def maxNameLength : Nat := 253

/-- The length that no label exceeds in its ASCII form. -/
def maxLabelLength : Nat := 63

def checkLabel (label : List Char) : Except Fault Unit := do
  if label.isEmpty then throw .emptyLabel
  if maxNameLength + 1 < label.length then throw .labelTooLong
  if !Text.isComposed label then throw .uncomposed
  if (label.drop 2).take 2 == ['-', '-'] then throw .innerHyphens
  if label.head? == some '-' || label.getLast? == some '-' then throw .outerHyphen
  if label.head?.any markRanges.contains then throw .initialMark
  checkChars label [] label
  (checkDirections label).mapError .direction

end Tailnet.Domain
