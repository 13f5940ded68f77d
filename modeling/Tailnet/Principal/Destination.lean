import Tailnet.Port
import Tailnet.Principal.Basic

/-!
Destinations of access rules: a target principal and, after the last colon, its
ports.
-/

namespace Tailnet

/-- A destination. A faulty port specification is kept with the reason why it is refused. -/
structure Destination where
  target : Principal
  ports : String
  raw : String
  portSet : Except PortError PortSet

namespace Destination

/-- What is wrong with the ports, if anything. -/
def portError? (d : Destination) : Option PortError :=
  match d.portSet with
  | .error cause => some cause
  | .ok _ => none

def allPorts (d : Destination) : Bool :=
  match d.portSet with
  | .ok .all => true
  | _ => false

/-- A target without the square brackets around it, if it has both. -/
def unbracketed (head : List Char) : List Char :=
  if head.head? == some '[' && head.getLast? == some ']' then head.tail.dropLast else head

/-- The marks of principals, which are no targets without a name. -/
def bareMarks : List (List Char) := [tagMark.toList, groupMark.toList, autogroupMark.toList]

/-- Read a destination. Without a target before the last colon the whole token is the target and
the ports are missing. -/
def read (token : String) : Destination :=
  let raw := Text.trim token
  match Text.cutLast? ':' raw.toList with
  | some (head, ports) =>
    if head.isEmpty || bareMarks.contains (head ++ [':']) then
      ⟨Principal.read raw, "", raw, .error (.absent raw)⟩
    else
      ⟨Principal.read (String.ofList (unbracketed head)), String.ofList ports, raw,
        PortSet.read (String.ofList ports)⟩
  | none => ⟨Principal.read raw, "", raw, .error (.absent raw)⟩

end Destination

end Tailnet
