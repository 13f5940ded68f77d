import Tailnet.Plan.Apply

/-!
A control plane that only keeps a record of its calls, for trying plans out.
-/

namespace Tailnet

/-- A call that is refused whenever it is made, and the reason given. -/
structure Refusal where
  name : String
  reason : String

/-- The key that stands for one that was really made. -/
def placeholderKey (request : KeyRequest) : IssuedKey :=
  ⟨"id-" ++ request.name, .text "2030-01-01T00:00:00Z", none⟩

/-- A control plane whose state is the record of its calls, earliest first. A refused call is not
recorded. -/
def ControlPlane.recording (refusal : Option Refusal) : ControlPlane (List Call) where
  perform record call :=
    match refusal.filter fun r => r.name = call.name with
    | some r => (record, .error r.reason)
    | none =>
      (record ++ [call],
        match call with
        | .createKey request => .ok (placeholderKey request)
        | .setAcl _ | .setDnsPreferences _ | .setSearchPaths _ | .setNameservers _
        | .setSplitDns _ | .updateSettings _ | .updateContact .. => .ok ())

end Tailnet
