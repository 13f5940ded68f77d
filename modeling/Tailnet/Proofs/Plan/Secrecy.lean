import Tailnet.Plan.Apply
import Mathlib.Data.List.Forall2

/-!
The secrets of keys in an application. Whatever is shown of an application is a function of what is
left of it without them. So it depends only on what the control plane does apart from them: if calls
cannot tell two of its states apart, the secrets that they give back set aside, then applications
cannot either, and they are shown in the same way.
-/

namespace Tailnet

/-- A key without its secret. -/
def IssuedKey.withoutSecret (key : IssuedKey) : IssuedKey := { key with secret := none }

/-- What a call gives back, without the secret of a key. -/
def Call.withoutSecret : (call : Call) → call.Reply → call.Reply
  | .createKey _, key => IssuedKey.withoutSecret key
  | .setAcl _, reply | .setDnsPreferences _, reply | .setSearchPaths _, reply
  | .setNameservers _, reply | .setSplitDns _, reply | .updateSettings _, reply
  | .updateContact .., reply => reply

namespace Outcome

/-- An outcome whose keys have no secrets. -/
def withoutSecrets (outcome : Outcome) : Outcome :=
  { outcome with issued := outcome.issued.map fun entry => (entry.1, entry.2.withoutSecret) }

/-- Secrets are not shown. -/
theorem toValue_withoutSecrets (outcome : Outcome) (seconds : Float) :
    outcome.withoutSecrets.toValue seconds = outcome.toValue seconds := rfl

theorem withoutSecrets_closeStage (outcome : Outcome) (stage : Stage) (count : Nat)
    (failure : Option String) :
    (outcome.closeStage stage count failure).withoutSecrets =
      outcome.withoutSecrets.closeStage stage count failure := by
  cases failure with
  | none => rfl
  | some cause => rfl

/-- Of a key that is noted, the outputs show nothing but its number and its end. -/
theorem withoutSecrets_withKey (outcome : Outcome) (request : KeyRequest) (key : IssuedKey) :
    (outcome.withKey request key).withoutSecrets =
      outcome.withoutSecrets.withKey request key.withoutSecret := by
  have hIssued : (outcome.issued.insert request.name key).map
      (fun entry => (entry.1, entry.2.withoutSecret)) =
      Table.insert (outcome.issued.map fun entry => (entry.1, entry.2.withoutSecret))
        request.name key.withoutSecret := by
    induction outcome.issued with
    | nil => rfl
    | cons entry rest ih =>
        simp only [Table.insert, List.map_cons]
        split
        · rfl
        · rw [List.map_cons, ih]
  simp only [withKey]
  split
  · simp only [withoutSecrets, withOutput, hIssued]
    rfl
  · simp only [withoutSecrets, hIssued]

end Outcome

variable {σ : Type}

/-- Two states and the outcomes noted so far that are alike apart from secrets. -/
structure AlikeProgress (alike : σ → σ → Prop) (first second : σ × Outcome) : Prop where
  state : alike first.1 second.1
  outcome : first.2.withoutSecrets = second.2.withoutSecrets

/-- A control plane keeps secrets within a notion of states that are alike if calls neither tell two
such states apart, the secrets in what they give back set aside, nor make them unlike. -/
def ControlPlane.Conceals (plane : ControlPlane σ) (alike : σ → σ → Prop) : Prop :=
  ∀ first second, alike first second → ∀ call,
    alike (plane.perform first call).1 (plane.perform second call).1 ∧
    (plane.perform first call).2.map call.withoutSecret =
      (plane.perform second call).2.map call.withoutSecret

namespace ControlPlane.Conceals

variable {plane : ControlPlane σ} {alike : σ → σ → Prop} {first second : σ}

/-- A call fails in both of two states that are alike, for one reason, or in none of them. -/
theorem perform_cases (hPlane : plane.Conceals alike) (h : alike first second) (call : Call) :
    ∃ next other, alike next other ∧
      ((∃ cause, plane.perform first call = (next, .error cause) ∧
          plane.perform second call = (other, .error cause)) ∨
        ∃ given told, call.withoutSecret given = call.withoutSecret told ∧
          plane.perform first call = (next, .ok given) ∧
          plane.perform second call = (other, .ok told)) := by
  obtain ⟨hNext, hReply⟩ := hPlane first second h call
  rcases hFirst : plane.perform first call with ⟨next, cause | given⟩ <;>
    rcases hSecond : plane.perform second call with ⟨other, reason | told⟩ <;>
    rw [hFirst, hSecond] at hNext hReply
  · cases hReply
    exact ⟨next, other, hNext, .inl ⟨cause, rfl, rfl⟩⟩
  · cases hReply
  · cases hReply
  · exact ⟨next, other, hNext, .inr ⟨given, told, Except.ok.inj hReply, rfl, rfl⟩⟩

theorem performAll (hPlane : plane.Conceals alike) (h : alike first second) (calls : List Call) :
    alike (plane.performAll first calls).1 (plane.performAll second calls).1 ∧
      (plane.performAll first calls).2 = (plane.performAll second calls).2 := by
  induction calls generalizing first second with
  | nil => exact ⟨h, rfl⟩
  | cons call rest ih =>
      obtain ⟨next, other, hNext, hCases⟩ := hPlane.perform_cases h call
      rcases hCases with ⟨cause, hFirst, hSecond⟩ | ⟨given, told, -, hFirst, hSecond⟩
      · simp only [ControlPlane.performAll, hFirst, hSecond, and_true]
        exact hNext
      · simp only [ControlPlane.performAll, hFirst, hSecond]
        exact ih hNext

theorem createKeys (hPlane : plane.Conceals alike) (h : alike first second) {noted told : Outcome}
    (hNoted : noted.withoutSecrets = told.withoutSecrets) (requests : List KeyRequest) :
    alike (plane.createKeys first noted requests).1 (plane.createKeys second told requests).1 ∧
      (plane.createKeys first noted requests).2.1.withoutSecrets =
        (plane.createKeys second told requests).2.1.withoutSecrets ∧
      (plane.createKeys first noted requests).2.2 =
        (plane.createKeys second told requests).2.2 := by
  induction requests generalizing first second noted told with
  | nil => exact ⟨h, hNoted, rfl⟩
  | cons request rest ih =>
      obtain ⟨next, other, hNext, hCases⟩ := hPlane.perform_cases h (.createKey request)
      rcases hCases with ⟨cause, hFirst, hSecond⟩ | ⟨key, twin, hKeys, hFirst, hSecond⟩
      · simp only [ControlPlane.createKeys, hFirst, hSecond, and_true]
        exact ⟨hNext, hNoted⟩
      · have hKey : IssuedKey.withoutSecret key = IssuedKey.withoutSecret twin := hKeys
        have hAfter : (noted.withKey request key).withoutSecrets =
            (told.withKey request twin).withoutSecrets := by
          refine (Outcome.withoutSecrets_withKey noted request key).trans ?_
          rw [hNoted, hKey]
          exact (Outcome.withoutSecrets_withKey told request twin).symm
        simp only [ControlPlane.createKeys, hFirst, hSecond]
        exact ih hNext hAfter

/-- A stage of calls without results, which notes something if all of them succeed. -/
theorem closeStage (hPlane : plane.Conceals alike) (h : alike first second)
    {noted told : Outcome} (hNoted : noted.withoutSecrets = told.withoutSecrets)
    (calls : List Call) (stage : Stage) (count : Nat) (note : Outcome → Outcome)
    (hNote : (note noted).withoutSecrets = (note told).withoutSecrets) :
    AlikeProgress alike
      ((plane.performAll first calls).1,
        (if (plane.performAll first calls).2.isNone then note noted else noted).closeStage stage
          count (plane.performAll first calls).2)
      ((plane.performAll second calls).1,
        (if (plane.performAll second calls).2.isNone then note told else told).closeStage stage
          count (plane.performAll second calls).2) := by
  obtain ⟨hNext, hFailure⟩ := hPlane.performAll h calls
  refine ⟨hNext, ?_⟩
  dsimp only
  rw [hFailure, Outcome.withoutSecrets_closeStage, Outcome.withoutSecrets_closeStage]
  congr 1
  split
  · exact hNote
  · exact hNoted

/-- A stage keeps states and outcomes alike. -/
theorem runStage (hPlane : plane.Conceals alike) (plan : Plan) (document : String) (stage : Stage)
    {before twin : σ × Outcome} (h : AlikeProgress alike before twin) :
    AlikeProgress alike (plan.runStage document plane before stage)
      (plan.runStage document plane twin stage) := by
  obtain ⟨first, noted⟩ := before
  obtain ⟨second, told⟩ := twin
  obtain ⟨hState, hNoted⟩ := h
  dsimp only at hState hNoted
  have hSucceeded : noted.succeeded = told.succeeded :=
    congrArg (fun outcome => outcome.succeeded) hNoted
  unfold Plan.runStage
  dsimp only
  rw [hSucceeded]
  split
  · exact ⟨hState, hNoted⟩
  · cases stage with
    | acl =>
        exact hPlane.closeStage hState hNoted _ .acl _ (Plan.withPolicyOutput · document)
          (congrArg (Plan.withPolicyOutput · document) hNoted)
    | dns =>
        exact hPlane.closeStage hState hNoted _ .dns _ (Plan.withDnsOutputs plan.options)
          (congrArg (Plan.withDnsOutputs plan.options) hNoted)
    | keys =>
        obtain ⟨hNext, hKeys, hFailure⟩ := hPlane.createKeys hState hNoted plan.keys
        refine ⟨hNext, ?_⟩
        dsimp only
        rw [hFailure, Outcome.withoutSecrets_closeStage, Outcome.withoutSecrets_closeStage, hKeys]
    | settings =>
        exact hPlane.closeStage hState hNoted _ .settings _
          (·.withOutput "tailnetSettingsId" (.text plan.tailnet))
          (congrArg (·.withOutput "tailnetSettingsId" (.text plan.tailnet)) hNoted)

theorem foldl_runStage (hPlane : plane.Conceals alike) (plan : Plan) (document : String)
    (stages : List Stage) {before twin : σ × Outcome} (h : AlikeProgress alike before twin) :
    AlikeProgress alike (stages.foldl (plan.runStage document plane) before)
      (stages.foldl (plan.runStage document plane) twin) := by
  induction stages generalizing before twin with
  | nil => exact h
  | cons stage rest ih => exact ih (hPlane.runStage plan document stage h)

theorem apply (hPlane : plane.Conceals alike) (plan : Plan) (h : alike first second)
    (dryRun : Bool) :
    AlikeProgress alike (plan.apply plane first dryRun) (plan.apply plane second dryRun) := by
  unfold Plan.apply
  dsimp only
  split
  · split
    · exact ⟨h, rfl⟩
    · exact hPlane.foldl_runStage plan _ _ ⟨h, rfl⟩
  · exact ⟨h, rfl⟩

/-- Applications one after the other keep states alike, and their outcomes are shown in the same
way. -/
theorem applyAll (hPlane : plane.Conceals alike) (plan : Plan) (h : alike first second)
    (runs : List Bool) :
    alike (plan.applyAll plane first runs).1 (plan.applyAll plane second runs).1 ∧
      List.Forall₂ (fun outcome other => ∀ seconds, outcome.toValue seconds = other.toValue seconds)
        (plan.applyAll plane first runs).2 (plan.applyAll plane second runs).2 := by
  induction runs generalizing first second with
  | nil => exact ⟨h, .nil⟩
  | cons dryRun rest ih =>
      obtain ⟨hState, hOutcome⟩ := hPlane.apply plan h dryRun
      obtain ⟨hLast, hOthers⟩ := ih hState
      refine ⟨hLast, .cons (fun seconds => ?_) hOthers⟩
      calc (plan.apply plane first dryRun).2.toValue seconds
          = (plan.apply plane first dryRun).2.withoutSecrets.toValue seconds :=
            (Outcome.toValue_withoutSecrets _ seconds).symm
        _ = (plan.apply plane second dryRun).2.withoutSecrets.toValue seconds := by rw [hOutcome]
        _ = (plan.apply plane second dryRun).2.toValue seconds :=
            Outcome.toValue_withoutSecrets _ seconds

end ControlPlane.Conceals

end Tailnet
