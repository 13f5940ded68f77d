import Tailnet.Integer.Numeral

/-!
Port specifications of destinations: all ports, or a list of ports and ranges of
ports.
-/

namespace Tailnet

/-- A non-empty range of valid ports, both ends included. -/
structure PortRange where
  first : Nat
  last : Nat
  one_le : 1 ≤ first
  first_le : first ≤ last
  last_le : last ≤ 65535
deriving DecidableEq

/-- The ports of a destination. -/
inductive PortSet where
  | all
  | ranges (list : List PortRange)
deriving DecidableEq

/-- What is wrong with a port specification. -/
inductive PortError where
  /-- A destination names no ports at all. -/
  | absent (destination : String)
  | missing
  | mixedWildcard (specification : String)
  | notANumber (text : String)
  | numeral (cause : Integer.NumeralError)
  | outOfRange (port : Int)
  | reversed (entry : String)
deriving DecidableEq

namespace PortError

def message : PortError → String
  | absent destination => "destination '" ++ destination ++ "' has no port specification"
  | missing => "missing port specification"
  | mixedWildcard specification =>
    "wildcard must be the whole port list, got '" ++ specification ++ "'"
  | notANumber text => "'" ++ text ++ "' is not a port number"
  | numeral cause => cause.message
  | outOfRange port => "port " ++ toString port ++ " out of range 1-65535"
  | reversed entry => "port range '" ++ entry ++ "' is reversed"

end PortError

/-- A number that is a valid port. -/
abbrev Port := { n : Nat // 1 ≤ n ∧ n ≤ 65535 }

/-- Read a single port. Digits of any kind are taken for a number; those without a value make it
a malformed one. -/
def readPort (cs : List Char) : Except PortError Port :=
  if cs.isEmpty || !cs.all Text.isDigit then .error (.notANumber (String.ofList cs))
  else
    match Integer.read (String.ofList cs) with
    | .error cause => .error (.numeral cause)
    | .ok n =>
      if h : 1 ≤ n.toNat ∧ n.toNat ≤ 65535 then .ok ⟨n.toNat, h⟩ else .error (.outOfRange n)

namespace PortRange

def ofPort (port : Port) : PortRange := ⟨port, port, port.2.1, Nat.le_refl _, port.2.2⟩

/-- Read one entry of a port list. The hyphen of a range is the first in the entry. -/
def read (specification entry : List Char) : Except PortError PortRange :=
  if entry.contains '*' then .error (.mixedWildcard (String.ofList specification))
  else
    match Text.cutFirst? '-' entry with
    | none => (readPort entry).map ofPort
    | some (before, after) => do
      let first ← readPort before
      let last ← readPort after
      if h : first.1 ≤ last.1 then
        return ⟨first, last, first.2.1, h, last.2.2⟩
      else throw (.reversed (String.ofList entry))

def text (range : PortRange) : String :=
  if range.first = range.last then toString range.first
  else toString range.first ++ "-" ++ toString range.last

end PortRange

namespace PortSet

/-- Read a port specification. White space around it and around its entries does not count. -/
def read (s : String) : Except PortError PortSet :=
  let specification := Text.trimChars s.toList
  if specification == ['*'] then .ok all
  else if specification.isEmpty then .error .missing
  else
    ((Text.splitAt ',' specification).mapM fun entry =>
      PortRange.read specification (Text.trimChars entry)).map ranges

def text : PortSet → String
  | all => "*"
  | ranges list => Text.joinWith "," (list.map PortRange.text)

end PortSet

end Tailnet
