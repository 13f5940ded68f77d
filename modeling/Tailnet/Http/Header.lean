import Tailnet.Http.Percent
import Tailnet.Table
import Tailnet.Text.Encoding
import Tailnet.Value.Display

/-!
Headers of requests and responses: names and values in ASCII. The case of names does not matter when
one is looked up.
-/

namespace Tailnet.Http

abbrev Headers := Table String String

/-- Why something is no header. -/
inductive HeaderFault where
  /-- A text with a character outside ASCII. -/
  | notAscii (text : String)
  /-- A name of another type, given by name. -/
  | name (typeName : String)
  /-- A value of another type. -/
  | value (typeName : String)
deriving DecidableEq, Repr

def HeaderFault.message : HeaderFault → String
  | notAscii text => Text.asciiMessage text
  | name typeName => "'" ++ typeName ++ "' object has no attribute 'encode'"
  | value typeName => "Header value must be str or bytes, not <class '" ++ typeName ++ "'>"

def asciiText (s : String) : Except HeaderFault String :=
  if s.toList.all fun c => c.toNat < 0x80 then .ok s else .error (.notAscii s)

namespace Headers

/-- The header of an entry. Byte strings are taken as they are. -/
def header (entry : Scalar × Value) : Except HeaderFault (String × String) := do
  let name ← match entry.1 with
    | .text s => asciiText s
    | .bytes data => pure (String.ofList (Text.ofBytes data))
    | other => throw (.name other.typeName)
  let value ← match entry.2 with
    | .scalar (.text s) => asciiText s
    | .scalar (.bytes data) => pure (String.ofList (Text.ofBytes data))
    | other => throw (.value other.typeName)
  return (name, value)

def ofEntries (entries : Mapping) : Except HeaderFault Headers := entries.mapM header

/-- Whether two names are the same apart from their case. -/
def sameName (a b : String) : Bool := a.map Char.toLower == b.map Char.toLower

/-- All values of a header in one text, if there are any. -/
def get? (headers : Headers) (name : String) : Option String :=
  let same := headers.filter fun header => sameName header.1 name
  if same.isEmpty then none else some (Text.joinWith ", " (same.map Prod.snd))

/-- Give a header a value, in the place of those it has. -/
def put (headers : Headers) (name value : String) : Headers :=
  let (before, rest) := headers.span fun header => !sameName header.1 name
  before ++ (name, value) :: (rest.filter fun header => !sameName header.1 name)

end Headers

/-- The value of a header that tells a name and a password. -/
def basicAuthorization (name password : String) : String :=
  "Basic " ++ String.ofList (Text.Base64.encode (Text.bytesOf (name ++ ":" ++ password)))

end Tailnet.Http
