/-!
Internet addresses and networks of both families. A network is an address with
the length of its fixed part; an address of the newer family may name a zone.
-/

namespace Tailnet

/-- The two families of addresses. -/
inductive Family where
  | v4
  | v6
deriving DecidableEq, Repr

def Family.width : Family → Nat
  | .v4 => 32
  | .v6 => 128

/-- An address: a number within its family's width, and a zone where the family has them. -/
structure Address where
  family : Family
  number : Nat
  zone : Option String
  number_lt : number < Nat.pow 2 family.width
deriving DecidableEq

/-- The addresses that share the first `length` bits with a given one. -/
structure Network where
  address : Address
  length : Nat
  length_le : length ≤ address.family.width
deriving DecidableEq

namespace Address

/-- The address with a given number, if it fits its family. -/
def ofNumber? (family : Family) (number : Nat) (zone : Option String) : Option Address :=
  if h : number < Nat.pow 2 family.width then some ⟨family, number, zone, h⟩ else none

end Address

namespace Network

/-- The part of the address beyond the fixed length. -/
def hostPart (network : Network) : Nat :=
  network.address.number % Nat.pow 2 (network.address.family.width - network.length)

/-- Whether the address is the first of its network. -/
def isCanonical (network : Network) : Bool := network.hostPart == 0

/-- The network described by its first address. If the address was not the first one, its zone is
not kept. -/
def canonical (network : Network) : Network :=
  if network.isCanonical then network
  else
    { address :=
        { family := network.address.family
          number := network.address.number - network.hostPart
          zone := none
          number_lt := Nat.lt_of_le_of_lt (Nat.sub_le _ _) network.address.number_lt }
      length := network.length
      length_le := network.length_le }

end Network

end Tailnet
