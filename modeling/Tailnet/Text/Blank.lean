import Tailnet.Text.Ranges
import Tailnet.Text.Split

/-!
White space, and the removal of white space around a text.
-/

namespace Tailnet.Text

/-- The characters of bidirectional class white space, segment or paragraph separator, and all
space separators. -/
def blankRanges : Ranges :=
  [
   (0x9, 0xD), (0x1C, 0x20), (0x85, 0x85), (0xA0, 0xA0), (0x1680, 0x1680), (0x2000, 0x200A),
   (0x2028, 0x2029), (0x202F, 0x202F), (0x205F, 0x205F), (0x3000, 0x3000)
  ]

def isBlank (c : Char) : Bool := blankRanges.contains c

/-- A character list without the white space at either end. -/
def trimChars (cs : List Char) : List Char :=
  ((cs.dropWhile isBlank).reverse.dropWhile isBlank).reverse

def trim (s : String) : String := String.ofList (trimChars s.toList)

/-- The words of a text: what stands between white space. -/
def words (cs : List Char) : List (List Char) :=
  (splitAt ' ' (cs.map fun c => if isBlank c then ' ' else c)).filter fun word => !word.isEmpty

end Tailnet.Text
