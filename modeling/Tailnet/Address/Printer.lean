import Tailnet.Address.Reader
import Tailnet.Text.Quoted

/-!
The canonical text of addresses and networks: small letters, no leading zeros,
and two colons in place of the first longest run of zero groups, if it is longer
than one.
-/

namespace Tailnet

/-- The four octets of a number as a dotted address. -/
def dottedText (number : Nat) : String :=
  toString (number / Nat.pow 2 24 % 256) ++ "." ++ toString (number / Nat.pow 2 16 % 256) ++ "." ++
    toString (number / Nat.pow 2 8 % 256) ++ "." ++ toString (number % 256)

def groupsOf (number : Nat) : List Nat :=
  (List.range 8).map fun i => number / Nat.pow 2 (16 * (7 - i)) % 65536

/-- Where the first longest run of zeros starts and how long it is. -/
def longestZeros (groups : List Nat) : Nat × Nat :=
  (List.range groups.length).foldl
    (fun best start =>
      let size := ((groups.drop start).takeWhile (· == 0)).length
      if best.2 < size then (start, size) else best)
    (0, 0)

def colonText (groups : List Nat) : String :=
  Text.joinWith ":" (groups.map fun g => String.ofList (Nat.toDigits 16 g))

def groupsText (groups : List Nat) : String :=
  let (start, size) := longestZeros groups
  if 1 < size then colonText (groups.take start) ++ "::" ++ colonText (groups.drop (start + size))
  else colonText groups

def Address.text (address : Address) : String :=
  match address.family with
  | .v4 => dottedText address.number
  | .v6 =>
    let body := groupsText (groupsOf address.number)
    match address.zone with
    | some zone => body ++ "%" ++ zone
    | none => body

def Network.text (network : Network) : String :=
  network.address.text ++ "/" ++ toString network.length

def NetworkError.message : NetworkError → String
  | unrecognised text => Text.quoted text ++ " does not appear to be an IPv4 or IPv6 network"
  | hostBits network => network.text ++ " has host bits set"

/-- An address, or a network of addresses. -/
inductive AddressRange where
  | single (address : Address)
  | network (network : Network)

namespace AddressRange

/-- Read an address or, with a slash, a network around any of its addresses. White space around
the text does not count. -/
def read? (s : String) : Option AddressRange :=
  let text := Text.trim s
  if Text.mentions '/' text then (Network.readLoose? text).map fun found => network found.canonical
  else (Address.read? text).map single

def text : AddressRange → String
  | single address => address.text
  | network net => net.text

end AddressRange

end Tailnet
