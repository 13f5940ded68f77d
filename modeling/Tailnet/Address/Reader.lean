import Tailnet.Address.Basic
import Tailnet.Integer.Numeral
import Tailnet.Json.Reader
import Tailnet.Text.Split

/-!
Reading addresses and networks. The length of a network may be given as a number
of bits or, for the older family, as a mask of the fixed or of the free bits.
-/

namespace Tailnet

/-- The value of an octet: up to three ASCII digits without a leading zero. -/
def octet? (cs : List Char) : Option Nat :=
  let value := Json.digitsValue cs
  if !cs.isEmpty && cs.all Json.isDigit && cs.length ≤ 3 && (cs == ['0'] || cs.head? != some '0')
      && value ≤ 255 then some value
  else none

def dotted? (cs : List Char) : Option Nat :=
  match (Text.splitAt '.' cs).mapM octet? with
  | some [a, b, c, d] => some (((a * 256 + b) * 256 + c) * 256 + d)
  | _ => none

/-- The value of a group of one to four hexadecimal digits. -/
def group? (cs : List Char) : Option Nat :=
  if cs.isEmpty || 4 < cs.length then none
  else (cs.mapM Json.hexValue?).map fun digits => digits.foldl (fun n d => 16 * n + d) 0

/-- The groups on one side of a gap. Nothing at all may stand there. -/
def side? (parts : List (List Char)) : Option (List Nat) :=
  if parts == [[]] then some [] else parts.mapM group?

/-- The groups of an address between colons, in which one gap may stand for missing zeros. -/
def groups? (parts : List (List Char)) : Option (List Nat) :=
  let inner := (List.range parts.length).filter fun i =>
    0 < i && i + 1 < parts.length && (parts.getD i []).isEmpty
  match inner with
  | [] => if parts.length = 8 then parts.mapM group? else none
  | [gap] => do
    let before ← side? (parts.take gap)
    let after ← side? (parts.drop (gap + 1))
    if before.length + after.length ≤ 7 then
      return before ++ List.replicate (8 - (before.length + after.length)) 0 ++ after
    else none
  | _ => none

/-- The parts of an address between colons. A dotted address at the end counts as two groups. -/
def colonParts? (cs : List Char) : Option (List (List Char)) :=
  let parts := Text.splitAt ':' cs
  match parts.getLast? with
  | some last =>
    if parts.length < 3 then none
    else if last.contains '.' then
      (dotted? last).map fun number =>
        parts.dropLast ++ [Nat.toDigits 16 (number / 65536), Nat.toDigits 16 (number % 65536)]
    else some parts
  | none => none

def ofGroups (groups : List Nat) : Nat := groups.foldl (fun n g => 65536 * n + g) 0

namespace Address

def readV4? (cs : List Char) : Option Address := do
  let number ← dotted? cs
  ofNumber? .v4 number none

/-- Read an address of the newer family, with its zone after a percent sign. -/
def readV6? (cs : List Char) : Option Address := do
  let (body, zone) ←
    match Text.cutFirst? '%' cs with
    | none => some (cs, none)
    | some (body, zone) =>
      if zone.isEmpty || zone.contains '%' then none else some (body, some (String.ofList zone))
  let groups ← groups? (← colonParts? body)
  ofNumber? .v6 (ofGroups groups) zone

def read? (s : String) : Option Address := (readV4? s.toList).or (readV6? s.toList)

end Address

def bitCount? (width : Nat) (cs : List Char) : Option Nat :=
  if !cs.isEmpty && cs.all Json.isDigit && cs.length ≤ Integer.maxDigits
      && Json.digitsValue cs ≤ width then
    some (Json.digitsValue cs)
  else none

/-- The length of the fixed part given by a mask, in which either the fixed or the free bits are
set. -/
def maskLength? (mask : Nat) : Option Nat :=
  ((List.range 33).find? fun length => mask == Nat.pow 2 32 - Nat.pow 2 (32 - length)).or
    ((List.range 33).find? fun length => mask == Nat.pow 2 (32 - length) - 1)

/-- Why a text denotes no network. -/
inductive NetworkError where
  | unrecognised (text : String)
  /-- The address is not the first of its network. -/
  | hostBits (network : Network)

namespace Network

def ofLength? (address : Address) (length : Nat) : Option Network :=
  if h : length ≤ address.family.width then some ⟨address, length, h⟩ else none

/-- Read a network of the older family from its address and the length, if one is written. -/
def readV4? (address : List Char) (length : Option (List Char)) : Option Network := do
  let address ← Address.readV4? address
  match length with
  | none => ofLength? address 32
  | some cs => ofLength? address (← (bitCount? 32 cs).or ((dotted? cs).bind maskLength?))

/-- Read a network of the newer family from its address and the length, if one is written. -/
def readV6? (address : List Char) (length : Option (List Char)) : Option Network := do
  let address ← Address.readV6? address
  match length with
  | none => ofLength? address 128
  | some cs => ofLength? address (← bitCount? 128 cs)

/-- Read a network, whose address may lie anywhere in it. -/
def readLoose? (s : String) : Option Network :=
  match Text.splitAt '/' s.toList with
  | [address] => (readV4? address none).or (readV6? address none)
  | [address, length] => (readV4? address (some length)).or (readV6? address (some length))
  | _ => none

/-- Read a network, whose address must be its first. -/
def read (s : String) : Except NetworkError Network :=
  match readLoose? s with
  | none => .error (.unrecognised s)
  | some network => if network.isCanonical then .ok network else .error (.hostBits network)

end Network

end Tailnet
