import Tailnet.Text.Encoding

/-!
Texts with halves of pairs. A text may hold a surrogate, which escapes can name although it is no
character. Characters from the planes for private use stand for the surrogates, one for each; which
ones is for whoever reads the texts to choose, so that no text at hand needs them for themselves.
Such a text can be shown and compared like any other, but it has no bytes.
-/

namespace Tailnet.Text

/-- The characters that stand for the surrogates, by the first of them. -/
structure Halves where
  first : Nat
  isPrivate : 0xF0000 ≤ first ∧ first + 0x800 ≤ 0x110000

namespace Halves

/-- The characters that are taken unless there is a reason to take others. -/
def usual : Halves := ⟨0x10F000, by decide⟩

def code? (halves : Halves) (c : Char) : Option Nat :=
  if halves.first ≤ c.toNat && c.toNat < halves.first + 0x800 then
    some (0xD800 + (c.toNat - halves.first))
  else none

/-- The character for a code, which may be that of a surrogate. -/
def charOf (halves : Halves) (code : Nat) : Char :=
  Char.ofNat (if 0xD800 ≤ code && code ≤ 0xDFFF then halves.first + (code - 0xD800) else code)

/-- Whether characters have bytes: none of them stands for a surrogate. -/
def areAbsent (halves : Halves) (cs : List Char) : Bool := cs.all fun c => (halves.code? c).isNone

def message (halves : Halves) (text : String) : String :=
  outsideMessage "utf-8" "surrogates not allowed" halves.code? text

end Halves

end Tailnet.Text
