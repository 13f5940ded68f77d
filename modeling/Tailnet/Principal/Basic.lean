import Tailnet.Text.Blank
import Tailnet.Text.Digit
import Tailnet.Text.Split

/-!
Principals: the users, groups, tags, hosts and addresses that policy rules
speak of. The kind of a principal is told from the shape of its token alone.
-/

namespace Tailnet

/-- What a principal is. -/
inductive PrincipalKind where
  | wildcard
  /-- A marker that the control plane resolves itself. -/
  | special
  | autogroup
  | tag
  | group
  | user
  | address
  | host
deriving DecidableEq, Repr

def PrincipalKind.name : PrincipalKind → String
  | wildcard => "wildcard"
  | special => "special"
  | autogroup => "autogroup"
  | tag => "tag"
  | group => "group"
  | user => "user"
  | address => "address"
  | host => "host"

/-- A principal with its name, which is the token without the mark of its kind, and the token
itself. -/
structure Principal where
  kind : PrincipalKind
  name : String
  raw : String
deriving DecidableEq, Repr

def tagMark : String := "tag:"

def groupMark : String := "group:"

/-- The mark of a group that the control plane defines. -/
def autogroupMark : String := "autogroup:"

/-- Markers without a mark of their own. They cannot be used as names. -/
def specialMarkers : List String := ["admin", "self", "nonroot"]

def knownAutogroups : List String :=
  ["admin", "auditor", "billing-admin", "danger-all", "internet", "it-admin", "member",
    "network-admin", "nonroot", "owner", "self", "shared", "tagged"]

def isHexDigit (c : Char) : Bool :=
  ('0' ≤ c && c ≤ '9') || ('a' ≤ c && c ≤ 'f') || ('A' ≤ c && c ≤ 'F')

/-- Two or more groups of digits with points between them. -/
def isDottedDigits (cs : List Char) : Bool :=
  let groups := Text.splitAt '.' cs
  2 ≤ groups.length && groups.all fun group => !group.isEmpty && group.all Text.isDecimal

/-- Hexadecimal digits and colons, with points only behind the first colon. -/
def isColonHex (cs : List Char) : Bool :=
  match Text.cutFirst? ':' cs with
  | some (before, after) =>
    before.all isHexDigit && after.all fun c => isHexDigit c || c == ':' || c == '.'
  | none => false

/-- The shape of an address, perhaps with a slash and a number of bits. -/
def hasAddressShape (cs : List Char) : Bool :=
  match Text.cutFirst? '/' cs with
  | some (body, bits) =>
    (isDottedDigits body || isColonHex body) && !bits.isEmpty && bits.all Text.isDecimal
  | none => isDottedDigits cs || isColonHex cs

/-- Whether a token is written like an address. A line break at its very end does not count. -/
def looksLikeAddress (s : String) : Bool :=
  hasAddressShape s.toList ||
    (s.toList.getLast? == some '\n' && hasAddressShape s.toList.dropLast)

namespace Principal

/-- The principal of a token that has no white space around it. -/
def ofToken (token : String) : Principal :=
  if token = "*" then ⟨.wildcard, token, token⟩
  else if token ∈ specialMarkers then ⟨.special, token, token⟩
  else
    match Text.afterStart? autogroupMark token with
    | some name => ⟨.autogroup, name, token⟩
    | none =>
      match Text.afterStart? tagMark token with
      | some name => ⟨.tag, name, token⟩
      | none =>
        match Text.afterStart? groupMark token with
        | some name => ⟨.group, name, token⟩
        | none =>
          if Text.mentions '@' token then ⟨.user, token, token⟩
          else if looksLikeAddress token then ⟨.address, token, token⟩
          else ⟨.host, token, token⟩

/-- The principal of a token. Every token has one; whether it makes sense is found out later. -/
def read (token : String) : Principal := ofToken (Text.trim token)

/-- Whether resolving the principal takes a look into the catalog. -/
def needsCatalog (p : Principal) : Bool :=
  p.kind = .tag || p.kind = .group || p.kind = .host

end Principal

end Tailnet
