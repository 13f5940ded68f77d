import Tailnet.Text.Digit
import Tailnet.Json.Reader

/-!
Percent escapes: every byte of a character that may not stand in a part of a URL is written as two
hexadecimal digits behind a percent sign.
-/

namespace Tailnet.Http

/-- The characters that stand for themselves in every part of a URL. -/
def isUnreserved (c : Char) : Bool :=
  c.isAlphanum || c == '-' || c == '.' || c == '_' || c == '~'

def hexDigit (n : Nat) : Char :=
  Char.ofNat (if n < 10 then 0x30 + n else 0x41 + (n - 10))

def escapeByte (b : UInt8) : List Char :=
  ['%', hexDigit (b.toNat / 16), hexDigit (b.toNat % 16)]

def escapeChar (c : Char) : List Char := (String.utf8EncodeChar c).flatMap escapeByte

/-- Escape the characters that may not stand for themselves. -/
def escape (isKept : Char → Bool) (cs : List Char) : List Char :=
  cs.flatMap fun c => if isKept c then [c] else escapeChar c

def segment (s : String) : List Char := escape isUnreserved s.toList

def byte? (high low : Char) : Option UInt8 :=
  match Json.hexValue? high, Json.hexValue? low with
  | some h, some l => some (UInt8.ofNat (16 * h + l))
  | _, _ => none

/-- The bytes that a text with escapes stands for. A percent sign without two digits behind it
stands for itself. -/
def unescape : List Char → List UInt8
  | '%' :: high :: low :: rest =>
    match byte? high low with
    | some b => b :: unescape rest
    | none => String.utf8EncodeChar '%' ++ unescape (high :: low :: rest)
  | c :: rest => String.utf8EncodeChar c ++ unescape rest
  | [] => []
termination_by cs => cs.length

/-- Escape the characters that may not stand for themselves, but leave escapes alone. -/
def escapeMore (isKept : Char → Bool) : List Char → List Char
  | '%' :: high :: low :: rest =>
    if (byte? high low).isSome then '%' :: high :: low :: escapeMore isKept rest
    else escape isKept ['%'] ++ escapeMore isKept (high :: low :: rest)
  | c :: rest => escape isKept [c] ++ escapeMore isKept rest
  | [] => []
termination_by cs => cs.length

end Tailnet.Http
