import Tailnet.Json.Reader
import Tailnet.Text.Encoding

/-!
JSON texts in bytes. A text begins with a character that has a code below 256, so that the zeros
among the first bytes tell how long the units are and how their bytes are ordered.
-/

namespace Tailnet.Json

/-- How a text may be written in bytes. -/
inductive Form where
  | bytes
  | pairs (order : Text.ByteOrder)
  | quads (order : Text.ByteOrder)
deriving DecidableEq, Repr

def Form.ofBytes : List UInt8 → Form
  | a :: b :: c :: d :: _ =>
    if a = 0 then if b = 0 then quads .big else pairs .big
    else if b = 0 then if c = 0 && d = 0 then quads .little else pairs .little
    else bytes
  | [a, b] => if a = 0 then pairs .big else if b = 0 then pairs .little else bytes
  | _ => bytes

/-- The text in bytes, without the mark at its beginning. -/
def textOf (data : List UInt8) : Except Text.Unreadable (List Char) :=
  match Form.ofBytes data with
  | .bytes => .ok (Text.withoutMark (Text.ofBytes data))
  | .pairs order => Text.readPairs order data
  | .quads order => Text.readQuads order 0 data

end Tailnet.Json
