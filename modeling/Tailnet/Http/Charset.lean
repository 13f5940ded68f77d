import Tailnet.Http.Parameter
import Tailnet.Text.Codepage
import Tailnet.Text.Encoding

/-!
Character sets: which one a response announces, and the text that its bytes stand for in it.
-/

namespace Tailnet.Http

/-- How the bytes of a body stand for characters. -/
inductive Charset where
  /-- One to four bytes for each character. A byte order mark at the beginning may not count. -/
  | bytes (skipsMark : Bool)
  /-- Units of two bytes, in an order that is known or told by a byte order mark. -/
  | pairs (order : Option Text.ByteOrder)
  /-- Units of four bytes. -/
  | quads (order : Option Text.ByteOrder)
  /-- One byte for each character. -/
  | page (page : Text.Codepage)

/-- A name in its usual form: small letters, digits and dots, with one underscore for all that
stands between them. -/
def usualName (cs : List Char) : String :=
  let marked := cs.map fun c => if c.isAlphanum || c == '.' then c.toLower else ' '
  Text.joinWith "_" ((Text.words marked).map String.ofList)

namespace Charset

/-- The sets with more than one byte for some character, with all their names. -/
def wide : List (List String × Charset) :=
  [ (["utf_8", "u8", "utf", "utf8", "utf8_ucs2", "utf8_ucs4", "cp65001"], bytes false),
    (["utf_8_sig"], bytes true),
    (["utf_16", "u16", "utf16"], pairs none),
    (["utf_16_be", "unicodebigunmarked", "utf_16be"], pairs (some .big)),
    (["utf_16_le", "unicodelittleunmarked", "utf_16le"], pairs (some .little)),
    (["utf_32", "u32", "utf32"], quads none),
    (["utf_32_be", "utf_32be"], quads (some .big)),
    (["utf_32_le", "utf_32le"], quads (some .little)) ]

/-- All sets, with their names. -/
def all : List (List String × Charset) :=
  wide ++ Text.codepages.map fun page => (page.names, .page page)

/-- The set with a name. A dot counts for an underscore, but not in the first of several names. -/
def named? (name : List Char) : Option Charset :=
  let usual := usualName name
  let dotless := usual.map fun c => if c == '.' then '_' else c
  (all.find? fun entry => entry.1.contains usual || (entry.1.drop 1).contains dotless).map Prod.snd

/-- The set that the type of a body announces. A name with characters outside ASCII is none. -/
def announced? (type : String) : Option Charset := do
  let name ← parameter? type "charset"
  if name.all fun c => c.toNat < 0x80 then named? name else none

end Charset

/-- Units in no known order, of a number of bytes each. -/
structure Unmarked where
  width : Nat
deriving DecidableEq, Repr

def Unmarked.message (fault : Unmarked) : String :=
  "UTF-" ++ toString (8 * fault.width) ++ " stream does not start with BOM"

/-- Bytes in units whose order a mark should tell. They are a text's own bytes, which never begin
with one, so that only less than a unit can be read. -/
def Charset.readUnmarked (width : Nat) (data : List UInt8) : Except Unmarked (List Char) :=
  if data.isEmpty then .ok []
  else if data.length < width then .ok [Text.replacement]
  else .error ⟨width⟩

def Charset.decode (charset : Charset) (data : List UInt8) : Except Unmarked (List Char) :=
  match charset with
  | bytes skipsMark =>
    .ok (if skipsMark then Text.withoutMark (Text.ofBytes data) else Text.ofBytes data)
  | pairs none => readUnmarked 2 data
  | pairs (some order) => .ok (Text.ofPairs order data)
  | quads none => readUnmarked 4 data
  | quads (some order) => .ok (Text.ofQuads order data)
  | .page given => .ok (data.map given.char)

end Tailnet.Http
