import Tailnet.Proofs.Plan.Attempts
import Tailnet.Proofs.Table

/-!
Stages of an application. Each stage makes its calls in order and is noted with their number if all
of them return; otherwise it is named in an error and no later stage is gone through. What is noted
therefore depends on the plan and on the number of calls that returned, and on nothing else.
-/

namespace Tailnet

/-- The stages in their order. -/
def Stage.inOrder : List Stage := [.acl, .dns, .keys, .settings]

theorem Stage.name_injective : Function.Injective Stage.name := by
  intro stage other h
  cases stage <;> cases other <;> first | rfl | simp [name] at h

theorem Stage.nodup_names : (inOrder.map name).Nodup := by decide

/-- The stages before a stage. -/
def Stage.before (stage : Stage) : List Stage := inOrder.takeWhile (· != stage)

/-- The stages gone through when a number of calls returned, each with the number of its calls. A
stage without calls is gone through as soon as it is reached. -/
def completed (calls : Stage → List Call) : List Stage → Nat → Table String Nat
  | [], _ => []
  | stage :: rest, returned =>
    if (calls stage).length ≤ returned then
      (stage.name, (calls stage).length) ::
        completed calls rest (returned - (calls stage).length)
    else []

/-- The stage that is not gone through to its end when a number of calls returned. -/
def stoppedAt (calls : Stage → List Call) : List Stage → Nat → Option Stage
  | [], _ => none
  | stage :: rest, returned =>
    if (calls stage).length ≤ returned then
      stoppedAt calls rest (returned - (calls stage).length)
    else some stage

section Accounting

variable {calls : Stage → List Call} {stage : Stage} {block later : List Attempt}

theorem completed_of_none (h : Follows (calls stage) block none) (rest : List Stage) :
    completed calls (stage :: rest) (returnedCount (block ++ later)) =
      (stage.name, (calls stage).length) :: completed calls rest (returnedCount later) := by
  rw [completed, returnedCount_append, h.returnedCount_of_none, if_pos (Nat.le_add_right _ _),
    Nat.add_sub_cancel_left]

theorem stoppedAt_of_none (h : Follows (calls stage) block none) (rest : List Stage) :
    stoppedAt calls (stage :: rest) (returnedCount (block ++ later)) =
      stoppedAt calls rest (returnedCount later) := by
  rw [stoppedAt, returnedCount_append, h.returnedCount_of_none, if_pos (Nat.le_add_right _ _),
    Nat.add_sub_cancel_left]

theorem completed_of_some {cause : String} (h : Follows (calls stage) block (some cause))
    (rest : List Stage) : completed calls (stage :: rest) (returnedCount block) = [] := by
  rw [completed, if_neg (Nat.not_le.mpr h.returnedCount_of_some)]

theorem stoppedAt_of_some {cause : String} (h : Follows (calls stage) block (some cause))
    (rest : List Stage) : stoppedAt calls (stage :: rest) (returnedCount block) = some stage := by
  rw [stoppedAt, if_neg (Nat.not_le.mpr h.returnedCount_of_some)]

/-- If every call returned, every stage is completed. -/
theorem completed_of_all (calls : Stage → List Call) (stages : List Stage) :
    completed calls stages (stages.flatMap calls).length =
      stages.map fun stage => (stage.name, (calls stage).length) := by
  induction stages with
  | nil => rfl
  | cons stage rest ih =>
      rw [List.flatMap_cons, List.length_append, completed, if_pos (Nat.le_add_right _ _),
        Nat.add_sub_cancel_left, ih, List.map_cons]

/-- If the calls of some stages returned and no other, just these stages are completed as long as
the next one has calls. -/
theorem completed_of_front (h : calls stage ≠ []) (done rest : List Stage) :
    completed calls (done ++ stage :: rest) (done.flatMap calls).length =
      done.map fun other => (other.name, (calls other).length) := by
  induction done with
  | nil =>
      have hSome : ¬ (calls stage).length ≤ 0 := Nat.not_le.mpr (List.length_pos_iff.mpr h)
      rw [List.nil_append, List.flatMap_nil, List.length_nil, completed, if_neg hSome,
        List.map_nil]
  | cons other others ih =>
      rw [List.cons_append, List.flatMap_cons, List.length_append, completed,
        if_pos (Nat.le_add_right _ _), Nat.add_sub_cancel_left, ih, List.map_cons]

/-- The name service is not reached before the policy is published. -/
theorem acl_completed_of_dns {returned : Nat}
    (h : Stage.dns.name ∈ (completed calls Stage.inOrder returned).keys) :
    Stage.acl.name ∈ (completed calls Stage.inOrder returned).keys := by
  rw [Stage.inOrder, completed] at h ⊢
  split at h
  case isTrue hReturned =>
    rw [if_pos hReturned]
    exact List.mem_cons_self
  case isFalse => cases h

end Accounting

namespace Outcome

theorem closeStage_none (outcome : Outcome) (stage : Stage) (count : Nat) :
    outcome.closeStage stage count none =
      { outcome with applied := outcome.applied.insert stage.name count } := rfl

theorem closeStage_some (outcome : Outcome) (stage : Stage) (count : Nat) (cause : String) :
    outcome.closeStage stage count (some cause) =
      { outcome with errors := outcome.errors ++ [stage.title ++ " failed: " ++ cause] } := rfl

/-- Whether an output is there with its value. -/
def Shows (outcome : Outcome) (entry : String × Value) : Prop :=
  outcome.outputs.get? entry.1 = some entry.2

theorem shows_withOutput (outcome : Outcome) (name : String) (value : Value) :
    (outcome.withOutput name value).Shows (name, value) := by
  rw [Shows, withOutput, Table.get?_insert, if_pos (beq_self_eq_true name)]

theorem Shows.withOutput {outcome : Outcome} {entry : String × Value} (h : outcome.Shows entry)
    {name : String} (hName : name ≠ entry.1) (value : Value) :
    (outcome.withOutput name value).Shows entry := by
  rw [Shows, Outcome.withOutput, Table.get?_insert, if_neg (by simpa using hName)]
  exact h

/-- The same stages and errors are noted, and of the given outputs none is lost. -/
structure Keeps (entries : List (String × Value)) (outcome later : Outcome) : Prop where
  applied : later.applied = outcome.applied
  errors : later.errors = outcome.errors
  shows : ∀ entry ∈ entries, outcome.Shows entry → later.Shows entry

namespace Keeps

variable {entries : List (String × Value)} {first second third : Outcome}

theorem refl (entries : List (String × Value)) (outcome : Outcome) :
    Keeps entries outcome outcome :=
  ⟨rfl, rfl, fun _ _ h => h⟩

theorem trans (h : Keeps entries first second) (hNext : Keeps entries second third) :
    Keeps entries first third :=
  ⟨hNext.applied.trans h.applied, hNext.errors.trans h.errors,
    fun entry hEntry hShows => hNext.shows entry hEntry (h.shows entry hEntry hShows)⟩

/-- What is noted only if nothing failed is lost no more than what is noted anyway. -/
theorem unlessFailed (h : Keeps entries first second) (failure : Option String) :
    Keeps entries first (if failure.isNone then second else first) := by
  split
  · exact h
  · exact .refl entries first

/-- Noting an output loses none of the others, nor its own value. -/
theorem withOutput {name : String} {value : Value}
    (h : ∀ entry ∈ entries, entry.1 = name → entry.2 = value) (outcome : Outcome) :
    Keeps entries outcome (outcome.withOutput name value) := by
  refine ⟨rfl, rfl, ?_⟩
  intro entry hEntry hShows
  by_cases hName : entry.1 = name
  · obtain rfl := hName
    obtain rfl := h entry hEntry rfl
    exact shows_withOutput outcome entry.1 entry.2
  · exact hShows.withOutput (Ne.symm hName) value

end Keeps

end Outcome

namespace Plan

variable {σ : Type}

/-- The calls of a stage in order. -/
def stageCalls (plan : Plan) (document : String) : Stage → List Call
  | .acl => [.setAcl document]
  | .dns => plan.changes.map DnsChange.call
  | .keys => plan.keys.map Call.createKey
  | .settings => plan.settingsCalls

theorem calls_eq_flatMap (plan : Plan) (document : String) :
    plan.calls document = Stage.inOrder.flatMap (plan.stageCalls document) := by
  simp [calls, Stage.inOrder, stageCalls]

/-- The outputs that a stage makes known once it is gone through, as far as the plan decides
them. -/
def announcedBy (plan : Plan) (document : String) : Stage → List (String × Value)
  | .acl => [("aclId", .text (documentId document))]
  | .dns => [("magicDnsEnabled", .bool plan.options.magicDns),
      ("dnsSearchPaths", .texts plan.options.searchPaths)]
  | .keys | .settings => []

/-- All outputs that the plan decides and a dry run foresees. -/
def announcement (plan : Plan) (document : String) : List (String × Value) :=
  Stage.inOrder.flatMap (plan.announcedBy document)

theorem announcedBy_subset (plan : Plan) (document : String) (stage : Stage) :
    plan.announcedBy document stage ⊆ plan.announcement document := by
  intro entry hEntry
  refine List.mem_flatMap.mpr ⟨stage, ?_, hEntry⟩
  cases stage <;> simp [Stage.inOrder]

section Announcing

variable (plan : Plan) (document : String) (outcome : Outcome)

theorem keeps_withPolicyOutput :
    outcome.Keeps (plan.announcement document) (withPolicyOutput outcome document) := by
  apply Outcome.Keeps.withOutput
  simp [announcement, Stage.inOrder, announcedBy]

theorem keeps_withDnsOutputs :
    outcome.Keeps (plan.announcement document) (withDnsOutputs plan.options outcome) := by
  refine (Outcome.Keeps.withOutput ?_ outcome).trans (Outcome.Keeps.withOutput ?_ _)
  · simp [announcement, Stage.inOrder, announcedBy]
  · simp [announcement, Stage.inOrder, announcedBy]

theorem keeps_withSettingsOutput :
    outcome.Keeps (plan.announcement document)
      (outcome.withOutput "tailnetSettingsId" (.text plan.tailnet)) := by
  apply Outcome.Keeps.withOutput
  simp [announcement, Stage.inOrder, announcedBy]

theorem keeps_withKey (request : KeyRequest) (key : IssuedKey) :
    outcome.Keeps (plan.announcement document) (outcome.withKey request key) := by
  have hNoted : outcome.Keeps (plan.announcement document)
      { outcome with issued := outcome.issued.insert request.name key } :=
    ⟨rfl, rfl, fun _ _ h => h⟩
  unfold Outcome.withKey
  dsimp only
  split
  · refine hNoted.trans ((Outcome.Keeps.withOutput ?_ _).trans (Outcome.Keeps.withOutput ?_ _))
    · simp [announcement, Stage.inOrder, announcedBy]
    · simp [announcement, Stage.inOrder, announcedBy]
  · exact hNoted

theorem shows_withDnsOutputs :
    ∀ entry ∈ plan.announcedBy document .dns,
      (withDnsOutputs plan.options outcome).Shows entry := by
  have hNamed := outcome.shows_withOutput "magicDnsEnabled" (.bool plan.options.magicDns)
  simp only [announcedBy, List.forall_mem_cons, List.not_mem_nil, false_implies, implies_true,
    and_true]
  exact ⟨hNamed.withOutput (by simp) _, Outcome.shows_withOutput _ _ _⟩

end Announcing

/-- Keys are noted without touching what was noted of the stages. -/
theorem keeps_createKeys (plan : Plan) (document : String) (plane : ControlPlane σ) (state : σ)
    (outcome : Outcome) (requests : List KeyRequest) :
    outcome.Keeps (plan.announcement document) (plane.createKeys state outcome requests).2.1 := by
  induction requests generalizing state outcome with
  | nil => exact .refl _ outcome
  | cons request rest ih =>
      rcases hPerform : plane.perform state (.createKey request) with ⟨next, cause | key⟩
      · simp only [ControlPlane.createKeys, hPerform]
        exact .refl _ outcome
      · simp only [ControlPlane.createKeys, hPerform]
        exact (plan.keeps_withKey document outcome request key).trans (ih next _)

/-- After a failure every stage is passed over. -/
theorem runStage_of_failed {outcome : Outcome} (h : outcome.succeeded = false) (plan : Plan)
    (document : String) (plane : ControlPlane σ) (state : σ) (stage : Stage) :
    plan.runStage document plane (state, outcome) stage = (state, outcome) := by
  simp only [runStage, h, Bool.not_false, if_true]

theorem foldl_runStage_of_failed {outcome : Outcome} (h : outcome.succeeded = false) (plan : Plan)
    (document : String) (plane : ControlPlane σ) (state : σ) (stages : List Stage) :
    stages.foldl (plan.runStage document plane) (state, outcome) = (state, outcome) := by
  induction stages with
  | nil => rfl
  | cons stage rest ih => rw [List.foldl_cons, runStage_of_failed h, ih]

/-- A stage makes its calls in order until one fails, and closes with their number or the cause.
Before it closes only outputs and keys are noted, and among them what the stage announces, if no
call failed. -/
theorem runStage_watched {outcome : Outcome} (h : outcome.succeeded = true) (plan : Plan)
    (document : String) (plane : ControlPlane σ) (state : σ) (record : List Attempt)
    (stage : Stage) {next : σ} {failure : Option String}
    (hCalls : plane.performAll state (plan.stageCalls document stage) = (next, failure)) :
    ∃ attempts noted,
      Follows (plan.stageCalls document stage) attempts failure ∧
      outcome.Keeps (plan.announcement document) noted ∧
      (failure = none → ∀ entry ∈ plan.announcedBy document stage, noted.Shows entry) ∧
      plan.runStage document plane (state, outcome) stage =
        (next, noted.closeStage stage (plan.stageCalls document stage).length failure) ∧
      plan.runStage document plane.watched ((state, record), outcome) stage =
        ((next, record ++ attempts),
          noted.closeStage stage (plan.stageCalls document stage).length failure) := by
  cases stage with
  | acl =>
      obtain ⟨attempts, hFollows, hWatched⟩ :=
        plane.performAll_watched state record [.setAcl document]
      simp only [stageCalls] at hCalls
      rw [hCalls] at hFollows hWatched
      simp only [runStage, h, hCalls, hWatched, Bool.not_true]
      refine ⟨attempts, _, hFollows,
        (plan.keeps_withPolicyOutput document outcome).unlessFailed _, ?_, rfl, rfl⟩
      intro hNone
      rw [hNone, Option.isNone_none, if_pos rfl, announcedBy, List.forall_mem_singleton]
      exact outcome.shows_withOutput _ _
  | dns =>
      obtain ⟨attempts, hFollows, hWatched⟩ :=
        plane.performAll_watched state record (plan.changes.map DnsChange.call)
      simp only [stageCalls] at hCalls
      rw [hCalls] at hFollows hWatched
      simp only [runStage, h, hCalls, hWatched, Bool.not_true, stageCalls, List.length_map]
      refine ⟨attempts, _, hFollows,
        (plan.keeps_withDnsOutputs document outcome).unlessFailed _, ?_, rfl, rfl⟩
      intro hNone
      rw [hNone, Option.isNone_none, if_pos rfl]
      exact plan.shows_withDnsOutputs document outcome
  | keys =>
      obtain ⟨attempts, hFollows, hWatched⟩ :=
        plane.createKeys_watched state record outcome plan.keys
      obtain ⟨hNext, hFailure⟩ :=
        Prod.mk.inj ((plane.createKeys_eq_performAll state outcome plan.keys).trans hCalls)
      rw [hFailure] at hFollows
      simp only [runStage, h, hNext, hFailure, hWatched, Bool.not_true, stageCalls,
        List.length_map]
      exact ⟨attempts, _, hFollows,
        plan.keeps_createKeys document plane state outcome plan.keys,
        fun _ => List.forall_mem_nil _, rfl, rfl⟩
  | settings =>
      obtain ⟨attempts, hFollows, hWatched⟩ :=
        plane.performAll_watched state record plan.settingsCalls
      have hLength : (plan.stageCalls document .settings).length = 1 + plan.contacts.length := by
        simp [stageCalls, settingsCalls, Nat.add_comm]
      simp only [stageCalls] at hCalls
      rw [hCalls] at hFollows hWatched
      rw [hLength]
      simp only [runStage, h, hCalls, hWatched, Bool.not_true]
      exact ⟨attempts, _, hFollows,
        (plan.keeps_withSettingsOutput document outcome).unlessFailed _,
        fun _ => List.forall_mem_nil _, rfl, rfl⟩

/-- What is left when stages were gone through in order, until one of them failed: what was noted
before, the stages that were completed, and an error exactly if there was a failure, which then
names the stage. -/
structure GoneThrough (plan : Plan) (document : String) (stages : List Stage)
    (before after : Outcome) (attempts : List Attempt) (failure : Option String) : Prop where
  follows : Follows (stages.flatMap (plan.stageCalls document)) attempts failure
  applied : after.applied =
    before.applied ++ completed (plan.stageCalls document) stages (returnedCount attempts)
  errors_of_none : failure = none → after.errors = []
  errors_of_some : ∀ cause, failure = some cause →
    ∃ stage, stoppedAt (plan.stageCalls document) stages (returnedCount attempts) = some stage ∧
      after.errors = [stage.title ++ " failed: " ++ cause]
  kept : ∀ entry ∈ plan.announcement document, before.Shows entry → after.Shows entry
  announced : ∀ stage ∈ stages,
    stage.name ∈ (completed (plan.stageCalls document) stages (returnedCount attempts)).keys →
      ∀ entry ∈ plan.announcedBy document stage, after.Shows entry

namespace GoneThrough

variable {plan : Plan} {document : String} {stage : Stage} {outcome noted : Outcome}
  {block : List Attempt}

theorem nil (plan : Plan) (document : String) (h : outcome.errors = []) :
    plan.GoneThrough document [] outcome outcome [] none where
  follows := .done
  applied := by rw [completed, List.append_nil]
  errors_of_none := fun _ => h
  errors_of_some := fun _ hSome => by cases hSome
  kept := fun _ _ hShows => hShows
  announced := fun _ hStage => by cases hStage

/-- A stage that fails is the last. -/
theorem stop {cause : String} (h : outcome.errors = [])
    (hFollows : Follows (plan.stageCalls document stage) block (some cause))
    (hKeeps : outcome.Keeps (plan.announcement document) noted) (rest : List Stage) :
    plan.GoneThrough document (stage :: rest) outcome
      (noted.closeStage stage (plan.stageCalls document stage).length (some cause)) block
      (some cause) where
  follows := by
    rw [List.flatMap_cons]
    exact hFollows.append_of_some
  applied := by
    rw [completed_of_some hFollows, List.append_nil]
    exact hKeeps.applied
  errors_of_none := fun hNone => by cases hNone
  errors_of_some := by
    intro reason hSome
    cases hSome
    refine ⟨stage, stoppedAt_of_some hFollows rest, ?_⟩
    rw [Outcome.closeStage_some, hKeeps.errors, h, List.nil_append]
  kept := hKeeps.shows
  announced := by
    intro other _ hIn
    rw [completed_of_some hFollows] at hIn
    cases hIn

/-- A stage that does not fail is noted before those after it. -/
theorem cons {after : Outcome} {later : List Attempt} {failure : Option String}
    {rest : List Stage} (hFollows : Follows (plan.stageCalls document stage) block none)
    (hKeeps : outcome.Keeps (plan.announcement document) noted)
    (hShows : ∀ entry ∈ plan.announcedBy document stage, noted.Shows entry)
    (hFree : stage.name ∉ noted.applied.keys)
    (hRest : plan.GoneThrough document rest
      (noted.closeStage stage (plan.stageCalls document stage).length none) after later failure) :
    plan.GoneThrough document (stage :: rest) outcome after (block ++ later) failure where
  follows := by
    rw [List.flatMap_cons]
    exact hFollows.append_of_none hRest.follows
  applied := by
    rw [completed_of_none hFollows, hRest.applied, Outcome.closeStage_none,
      Table.insert_of_notMem hFree, hKeeps.applied]
    exact (List.append_cons _ _ _).symm
  errors_of_none := hRest.errors_of_none
  errors_of_some := by
    rw [stoppedAt_of_none hFollows]
    exact hRest.errors_of_some
  kept := fun entry hEntry hBefore => hRest.kept entry hEntry (hKeeps.shows entry hEntry hBefore)
  announced := by
    have hStage (entry : String × Value) (hEntry : entry ∈ plan.announcedBy document stage) :
        after.Shows entry :=
      hRest.kept entry (plan.announcedBy_subset document stage hEntry) (hShows entry hEntry)
    intro other hOther hIn entry hEntry
    rw [completed_of_none hFollows] at hIn
    rcases List.mem_cons.mp hIn with hName | hLater
    · obtain rfl := Stage.name_injective hName
      exact hStage entry hEntry
    · rcases List.mem_cons.mp hOther with rfl | hOther
      · exact hStage entry hEntry
      · exact hRest.announced other hOther hLater entry hEntry

end GoneThrough

/-- Stages are gone through in order until one fails, watched or not. They leave the control plane
as all their calls do, and fail as these do. -/
theorem foldl_runStage_watched (plan : Plan) (document : String) (plane : ControlPlane σ)
    (state : σ) (record : List Attempt) {outcome : Outcome} (h : outcome.errors = [])
    (stages : List Stage)
    (hNames : (outcome.applied.keys ++ stages.map Stage.name).Nodup) {next : σ}
    {failure : Option String}
    (hCalls : plane.performAll state (stages.flatMap (plan.stageCalls document)) =
      (next, failure)) :
    ∃ attempts after,
      plan.GoneThrough document stages outcome after attempts failure ∧
      stages.foldl (plan.runStage document plane) (state, outcome) = (next, after) ∧
      stages.foldl (plan.runStage document plane.watched) ((state, record), outcome) =
        ((next, record ++ attempts), after) := by
  -- The outcome has no errors as long as stages follow, so every stage met on the way is run.
  induction stages generalizing state record outcome with
  | nil =>
      cases hCalls
      exact ⟨[], outcome, .nil plan document h, rfl, by simp⟩
  | cons stage rest ih =>
      have hOpen : outcome.succeeded = true := List.isEmpty_iff.mpr h
      rcases hStage : plane.performAll state (plan.stageCalls document stage) with
        ⟨between, _ | cause⟩
      · obtain ⟨block, noted, hFollows, hKeeps, hShows, hRun, hWatched⟩ :=
          runStage_watched hOpen plan document plane state record stage hStage
        rw [List.foldl_cons, List.foldl_cons, hRun, hWatched]
        rw [List.flatMap_cons, ControlPlane.performAll_append_of_none hStage] at hCalls
        have hFree : stage.name ∉ noted.applied.keys := by
          rw [hKeeps.applied]
          intro hIn
          exact (List.nodup_append.mp hNames).2.2 _ hIn _ List.mem_cons_self rfl
        have hKeys : (noted.closeStage stage (plan.stageCalls document stage).length
            none).applied.keys = outcome.applied.keys ++ [stage.name] := by
          rw [Outcome.closeStage_none, Table.insert_of_notMem hFree, hKeeps.applied]
          exact List.map_append
        have hRestNames : ((noted.closeStage stage (plan.stageCalls document stage).length
            none).applied.keys ++ rest.map Stage.name).Nodup := by
          rw [hKeys, ← List.append_cons]
          exact hNames
        have hClosed : (noted.closeStage stage (plan.stageCalls document stage).length
            none).errors = [] := hKeeps.errors.trans h
        obtain ⟨later, after, hRest, hPlain, hRecord⟩ :=
          ih between (record ++ block) hClosed hRestNames hCalls
        rw [List.append_assoc] at hRecord
        exact ⟨block ++ later, after, .cons hFollows hKeeps (hShows rfl) hFree hRest, hPlain,
          hRecord⟩
      · obtain ⟨block, noted, hFollows, hKeeps, -, hRun, hWatched⟩ :=
          runStage_watched hOpen plan document plane state record stage hStage
        rw [List.foldl_cons, List.foldl_cons, hRun, hWatched]
        rw [List.flatMap_cons, ControlPlane.performAll_append_of_some hStage] at hCalls
        cases hCalls
        have hFailed : (noted.closeStage stage (plan.stageCalls document stage).length
            (some cause)).succeeded = false := by
          rw [Outcome.closeStage_some]
          simp [Outcome.succeeded]
        rw [foldl_runStage_of_failed hFailed, foldl_runStage_of_failed hFailed]
        exact ⟨block, _, .stop h hFollows hKeeps rest, rfl, rfl⟩

end Plan

end Tailnet
