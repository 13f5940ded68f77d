import Tailnet.Source.Reader
import Tailnet.Value.Conversion

/-!
Overlays: an environment's changes on top of a base policy, both still free-form
data. Declarations override entry by entry, rules are appended, approvers are
united, and the options of the tailnet are merged at every depth.

A section of the base that has not its shape is taken for one as far as it goes:
pairs for a mapping, anything with elements for a list.
-/

namespace Tailnet

/-- Why an overlay could not be merged. -/
inductive OverlayError where
  /-- A section of the overlay, or a list of approvers, has not its shape. -/
  | shape (cause : SourceError)
  /-- A base section that cannot be gone through, or a key that has no place in it. -/
  | unusable
  /-- Base approvers that have no fields. -/
  | withoutFields
  /-- A position beyond the end of a base list. -/
  | outOfRange
  /-- A number looked for among bytes that is none. -/
  | byteRange
  /-- Mappings that are merged into each other without end. -/
  | endless
  /-- A base section that is no mapping and has not the form of one. -/
  | pairs (cause : PairsError)
deriving DecidableEq, Repr

namespace Overlay

def listAt (place : String) : Option Value → Except OverlayError (List Value)
  | none | some (.scalar .null) => .ok []
  | some (.scalar (.text s)) => .error (.shape (.textForList place s))
  | some (.list items) => .ok (Value.itemsAlone items)
  | some _ => .error (.shape (.notList place))

def mappingOf (name : String) : Value → Except OverlayError Mapping
  | .scalar .null => .ok []
  | .map entries => .ok (Value.entriesAlone entries)
  | _ => .error (.shape (.sectionNotMapping name))

def asMapping (value : Value) : Except OverlayError Mapping :=
  if !value.isTruthy then .ok [] else value.toMapping.mapError .pairs

def asItems (value : Value) : Except OverlayError (List Value) :=
  if !value.isTruthy then .ok []
  else
    match value with
    | .list items => .ok (Value.itemsAlone items)
    | other =>
      match other.elements? with
      | some items => .ok items
      | none => .error .unusable

def mergeDeclarations (name : String) (base overlay : Value) : Except OverlayError Value := do
  let below ← asMapping base
  return .map (below.update (← mappingOf name overlay))

def mergeRules (name : String) (base overlay : Value) : Except OverlayError Value := do
  let below ← asItems base
  return .list (below ++ (← listAt name (some overlay)))

/-- Approvers behind others, each that is not there yet. -/
def union (approvers more : List Value) : List Value :=
  more.foldl
    (fun acc approver =>
      if acc.any fun known => known.same approver then acc else acc ++ [approver])
    approvers

/-- Grants as a list of entries with a network and its approvers. -/
def routeEntries (routes : Option Value) : Except OverlayError (List Value) :=
  match routes with
  | none => .ok []
  | some value =>
    if !value.isTruthy then .ok []
    else
      match value with
      | .map entries =>
        (Value.entriesAlone entries).mapM fun (key, approvers) => do
          let name ← (Source.textOf (.scalar key)).mapError .shape
          let listed ← listAt ("autoApprovers.routes." ++ name) (some approvers)
          return .record [("cidr", .scalar key), ("approvers", .list listed)]
      | other => listAt "autoApprovers.routes" (some other)

/-- Approvers of the overlay united with those of the base. Grants are kept as a list, so that a
network in both is put together only when compiled. -/
def mergeApprovers (base overlay : Value) : Except OverlayError Value := do
  let overlay ← mappingOf "autoApprovers" overlay
  let base ←
    if !base.isTruthy then pure []
    else
      match base with
      | .map entries => pure (Value.entriesAlone entries)
      | _ => throw .withoutFields
  let below ← listAt "autoApprovers.exitNode" (Source.field? base "exitNode")
  let above ← listAt "autoApprovers.exitNode" (Source.field? overlay "exitNode")
  let routesBelow ← routeEntries (Source.field? base "routes")
  let routesAbove ← routeEntries (Source.field? overlay "routes")
  return .record
    [("exitNode", .list (union below above)), ("routes", .list (routesBelow ++ routesAbove))]

/-- A value over what was there, if anything: mappings are merged, anything else takes its place. -/
def mergeValue (merge : Mapping → Mapping → Except OverlayError Mapping) (below : Option Value)
    (above : Value) : Except OverlayError Value :=
  match below, above with
  | some (.map base), .map overlay => (merge base overlay).map .map
  | _, _ => .ok above

/-- Merge entries one after the other into a mapping, to a limited depth. A base that is a part of
itself is changed there too. -/
def mergeEntries : Nat → Mapping → Mapping → Except OverlayError Mapping
  | 0, _, _ => .error .endless
  | depth + 1, base, overlay =>
    (Value.entriesAlone overlay).foldlM (fun acc (key, value) => do
      return acc.insert key
        (← mergeValue (mergeEntries depth) (Table.get? (Value.entriesAlone acc) key) value)) base

/-- The depth beyond which two values are only deeper because they are parts of themselves. -/
def depthLimit (base overlay : Value) : Nat := (base.collections + 1) * overlay.collections

/-- The position in a list that a key stands for. Negative ones count from the end. -/
def position? (length : Nat) (key : Scalar) : Except OverlayError Nat :=
  let at? (n : Int) : Except OverlayError Nat :=
    let i := if n < 0 then n + length else n
    if 0 ≤ i ∧ i < length then .ok i.toNat else .error .outOfRange
  match key with
  | .int n => at? n
  | .bool b => at? (if b then 1 else 0)
  | _ => .error .unusable

/-- Put an entry at a position of a base list. It is merged with a mapping there only if its key
is also an item of the list. -/
def mergeItem (depth : Nat) (items : List Value) (entry : Scalar × Value) :
    Except OverlayError (List Value) := do
  let i ← position? items.length entry.1
  let listed := items.any fun item => item.same (.scalar entry.1)
  let below := if listed then items[i]? else none
  return items.set i (← mergeValue (mergeEntries depth) below entry.2)

/-- Why a key cannot be entered into bytes. They are never changed, but a number among them is
looked up as a position first. -/
def refusal (data : List UInt8) (key : Scalar) : OverlayError :=
  let look (n : Int) : OverlayError :=
    if n < 0 ∨ 256 ≤ n then .byteRange
    else if data.contains (UInt8.ofNat n.toNat) ∧ data.length ≤ n.toNat then .outOfRange
    else .unusable
  match key with
  | .int n => look n
  | .bool b => look (if b then 1 else 0)
  | _ => .unusable

/-- Why an entry cannot be entered into a tuple. If its key is also an item, what stands at the
key's position is merged first. -/
def tupleRefusal (depth : Nat) (items : List Value) (entry : Scalar × Value) : OverlayError :=
  if items.any fun item => item.same (.scalar entry.1) then
    match mergeItem depth items entry with
    | .error cause => cause
    | .ok _ => .unusable
  else .unusable

def mergeOptions (base overlay : Value) : Except OverlayError Value := do
  let overlay ← mappingOf "tailnet" overlay
  let depth := depthLimit base (.map overlay)
  if !base.isTruthy then return .map (← mergeEntries depth [] overlay)
  match base with
  | .map entries => return .map (← mergeEntries depth entries overlay)
  | .list items => return .list (← overlay.foldlM (mergeItem depth) (Value.itemsAlone items))
  | other =>
    match overlay, other with
    | [], _ => return other
    | (key, _) :: _, .scalar (.bytes data) => throw (refusal data key)
    | entry :: _, .tuple items => throw (tupleRefusal depth items entry)
    | _ :: _, _ => throw .unusable

def mergeSection (merge : Value → Value → Except OverlayError Value) (name : String)
    (overlay base : Mapping) : Except OverlayError Mapping :=
  match Source.field? overlay name with
  | none => .ok base
  | some above => do
    let merged ← merge ((Source.field? base name).getD .null) above
    return base.insert (.text name) merged

def merge (base overlay : Mapping) : Except OverlayError Mapping := do
  let result ← mergeSection (fun _ name => .ok name) "name" overlay base
  let result ← mergeSection (mergeDeclarations "groups") "groups" overlay result
  let result ← mergeSection (mergeDeclarations "tagOwners") "tagOwners" overlay result
  let result ← mergeSection (mergeDeclarations "hosts") "hosts" overlay result
  let result ← mergeSection (mergeRules "acls") "acls" overlay result
  let result ← mergeSection (mergeRules "ssh") "ssh" overlay result
  let result ← mergeSection mergeApprovers "autoApprovers" overlay result
  mergeSection mergeOptions "tailnet" overlay result

end Overlay

end Tailnet
