import Tailnet.Address.Reader
import Tailnet.Domain.Name
import Tailnet.Http.Percent
import Tailnet.Text.Lowercase

/-!
Hosts in URLs: addresses of both families, and names of domains in small letters. Names with
characters outside ASCII are written in their ASCII form.
-/

namespace Tailnet.Http

/-- What is wrong with a host. -/
inductive HostFault where
  | address4 (host : String)
  | address6 (host : String)
  | name (host : String)
deriving DecidableEq, Repr

def HostFault.message : HostFault → String
  | address4 host => "Invalid IPv4 address: " ++ Text.quoted host
  | address6 host => "Invalid IPv6 address: " ++ Text.quoted host
  | name host => "Invalid IDNA hostname: " ++ Text.quoted host

namespace Host

/-- Where a text may stand that is read as groups of digits: how many groups are still to begin, and
whether one has begun. -/
abbrev Standing := Nat × Bool

/-- Where a text may stand after one more character, which belongs to a group or separates two. -/
def advance (standings : List Standing) (c : Char) : List Standing :=
  (standings.flatMap fun (more, hasBegun) =>
    (if Json.isDigit c then [(more, true)] else []) ++
      (if hasBegun && 0 < more then [(more - 1, false)] else [])).eraseDups

/-- Whether a text has the form of an address of the older family: four groups of digits, with one
character between them, whichever it is. -/
def isDotted (cs : List Char) : Bool := (cs.foldl advance [(3, false)]).contains (0, true)

/-- What stands in brackets, if the whole text does. -/
def inBrackets? (cs : List Char) : Option (List Char) :=
  match cs, cs.getLast? with
  | '[' :: inside@(_ :: _), some ']' => some inside.dropLast
  | _, _ => none

/-- The characters that stand for themselves in a name. -/
def isNameChar (c : Char) : Bool :=
  isUnreserved c || "!$&'()*+,;=\"\x60\x7b\x7d%|\\".toList.contains c

/-- Bring a host into its usual form. An address in brackets stays as it is, but without them. -/
def normalize (cs : List Char) : Except HostFault String :=
  let host := String.ofList cs
  if isDotted cs then
    if (Address.readV4? cs).isSome then .ok host else .error (.address4 host)
  else
    match inBrackets? cs with
    | some inside =>
      if (Address.readV6? inside).isSome then .ok (String.ofList inside)
      else .error (.address6 host)
    | none =>
      if cs.all fun c => c.toNat < 0x80 then
        .ok (String.ofList (escapeMore isNameChar (cs.map Char.toLower)))
      else (Domain.encode (Text.lower host)).mapError fun _ => .name host

end Host

end Tailnet.Http
