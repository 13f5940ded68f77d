import Tailnet.Plan.Apply

/-!
Calls as they are attempted. A watched control plane notes every call that it is asked for and
whether it failed, and is otherwise the plane that it was. Calls made one after the other are
attempted up to and including the first that fails.
-/

namespace Tailnet

/-- A call that was attempted, with the cause if it failed. -/
structure Attempt where
  call : Call
  failure : Option String

/-- The attempts at calls that are made in order until one of them fails, and the cause if one
does. No call is skipped, and none is attempted after a failure. -/
inductive Follows : List Call → List Attempt → Option String → Prop where
  | done : Follows [] [] none
  | returned {call : Call} {rest : List Call} {attempts : List Attempt} {failure : Option String}
      (later : Follows rest attempts failure) :
      Follows (call :: rest) (⟨call, none⟩ :: attempts) failure
  | failed (call : Call) (rest : List Call) (cause : String) :
      Follows (call :: rest) [⟨call, some cause⟩] (some cause)

/-- The number of attempts that did not fail. -/
def returnedCount (attempts : List Attempt) : Nat :=
  attempts.countP fun attempt => attempt.failure.isNone

theorem returnedCount_append (attempts more : List Attempt) :
    returnedCount (attempts ++ more) = returnedCount attempts + returnedCount more :=
  List.countP_append

theorem returnedCount_returned (call : Call) (attempts : List Attempt) :
    returnedCount (⟨call, none⟩ :: attempts) = returnedCount attempts + 1 :=
  List.countP_cons_of_pos rfl

/-- Of calls attempted up to one that failed, the others returned. -/
theorem returnedCount_stopped (calls : List Call) (call : Call) (cause : String) :
    returnedCount ((calls.map fun call => ⟨call, none⟩) ++ [⟨call, some cause⟩]) =
      calls.length := by
  induction calls with
  | nil => rfl
  | cons first rest ih =>
      rw [List.map_cons, List.cons_append, returnedCount_returned, ih, List.length_cons]

namespace Follows

variable {calls more : List Call} {attempts later : List Attempt} {failure : Option String}

/-- If none fails, all calls are attempted and return. -/
theorem returnedCount_of_none (h : Follows calls attempts none) :
    returnedCount attempts = calls.length := by
  generalize hFailure : none = failure at h
  induction h with
  | done => rfl
  | returned _ ih =>
      rw [returnedCount_returned, ih hFailure, List.length_cons]
  | failed => cases hFailure

/-- If none fails, every call is attempted once, in order. -/
theorem attempts_of_none (h : Follows calls attempts none) :
    attempts = calls.map fun call => ⟨call, none⟩ := by
  generalize hNone : none = failure at h
  induction h with
  | done => rfl
  | returned _ ih =>
      subst hNone
      rw [List.map_cons, ← ih rfl]
  | failed => cases hNone

/-- If one fails, fewer calls return than were to be made. -/
theorem returnedCount_of_some {cause : String} (h : Follows calls attempts (some cause)) :
    returnedCount attempts < calls.length := by
  generalize hFailure : some cause = failure at h
  induction h with
  | done => cases hFailure
  | returned _ ih =>
      rw [returnedCount_returned, List.length_cons]
      exact Nat.succ_lt_succ (ih hFailure)
  | failed => exact Nat.zero_lt_succ _

/-- Further calls are attempted after calls that all returned. -/
theorem append_of_none (h : Follows calls attempts none) (hMore : Follows more later failure) :
    Follows (calls ++ more) (attempts ++ later) failure := by
  generalize hNone : none = first at h
  induction h with
  | done => exact hMore
  | returned _ ih => exact .returned (ih hNone)
  | failed => cases hNone

/-- No further calls are attempted after one that failed. -/
theorem append_of_some {cause : String} (h : Follows calls attempts (some cause)) :
    Follows (calls ++ more) attempts (some cause) := by
  generalize hSome : some cause = failure at h ⊢
  induction h with
  | done => cases hSome
  | returned _ ih => exact .returned (ih hSome)
  | failed call rest cause => exact .failed call (rest ++ more) cause

end Follows

/-- The cause of a failure. -/
def failureOf {α : Type} : Except String α → Option String
  | .ok _ => none
  | .error cause => some cause

namespace ControlPlane

variable {σ : Type}

/-- A control plane that notes every call that it is asked for, earliest first. -/
def watched (plane : ControlPlane σ) : ControlPlane (σ × List Attempt) where
  perform progress call :=
    let (next, reply) := plane.perform progress.1 call
    ((next, progress.2 ++ [⟨call, failureOf reply⟩]), reply)

theorem perform_watched {plane : ControlPlane σ} {state next : σ} {call : Call}
    {reply : Except String call.Reply} (h : plane.perform state call = (next, reply))
    (record : List Attempt) :
    plane.watched.perform (state, record) call =
      ((next, record ++ [⟨call, failureOf reply⟩]), reply) := by
  simp only [watched, h]

/-- Watching calls changes nothing about them. -/
theorem performAll_watched (plane : ControlPlane σ) (state : σ) (record : List Attempt)
    (calls : List Call) :
    ∃ attempts, Follows calls attempts (plane.performAll state calls).2 ∧
      plane.watched.performAll (state, record) calls =
        (((plane.performAll state calls).1, record ++ attempts),
          (plane.performAll state calls).2) := by
  induction calls generalizing state record with
  | nil => exact ⟨[], .done, by simp [performAll]⟩
  | cons call rest ih =>
      rcases hPerform : plane.perform state call with ⟨next, cause | reply⟩
      · have hWatched := perform_watched hPerform record
        simp only [performAll, hPerform, hWatched]
        exact ⟨_, .failed call rest cause, rfl⟩
      · have hWatched := perform_watched hPerform record
        simp only [performAll, hPerform, hWatched]
        obtain ⟨attempts, hFollows, hRest⟩ := ih next (record ++ [⟨call, none⟩])
        refine ⟨⟨call, none⟩ :: attempts, .returned hFollows, ?_⟩
        rw [List.append_assoc, List.singleton_append] at hRest
        exact hRest

/-- Keys are created by calls like any others. -/
theorem createKeys_eq_performAll (plane : ControlPlane σ) (state : σ) (outcome : Outcome)
    (requests : List KeyRequest) :
    ((plane.createKeys state outcome requests).1, (plane.createKeys state outcome requests).2.2) =
      plane.performAll state (requests.map Call.createKey) := by
  induction requests generalizing state outcome with
  | nil => rfl
  | cons request rest ih =>
      rw [List.map_cons]
      rcases hPerform : plane.perform state (.createKey request) with ⟨next, cause | key⟩
      · simp only [createKeys, performAll, hPerform]
      · simp only [createKeys, performAll, hPerform]
        exact ih next _

variable {plane : ControlPlane σ} {state next : σ} {calls : List Call}

theorem performAll_append_of_none (h : plane.performAll state calls = (next, none))
    (more : List Call) : plane.performAll state (calls ++ more) = plane.performAll next more := by
  induction calls generalizing state with
  | nil =>
      cases h
      rfl
  | cons call rest ih =>
      rw [List.cons_append]
      rcases hPerform : plane.perform state call with ⟨between, cause | reply⟩
      · simp only [performAll, hPerform] at h
        cases h
      · simp only [performAll, hPerform] at h ⊢
        exact ih h

theorem performAll_append_of_some {cause : String}
    (h : plane.performAll state calls = (next, some cause)) (more : List Call) :
    plane.performAll state (calls ++ more) = (next, some cause) := by
  induction calls generalizing state with
  | nil => cases h
  | cons call rest ih =>
      rw [List.cons_append]
      rcases hPerform : plane.perform state call with ⟨between, reason | reply⟩
      · simp only [performAll, hPerform] at h ⊢
        exact h
      · simp only [performAll, hPerform] at h ⊢
        exact ih h

/-- Calls that all return are attempted once each, in order. -/
theorem performAll_watched_of_none (h : plane.performAll state calls = (next, none))
    (record : List Attempt) :
    plane.watched.performAll (state, record) calls =
      ((next, record ++ calls.map fun call => ⟨call, none⟩), none) := by
  obtain ⟨attempts, hFollows, hWatched⟩ := plane.performAll_watched state record calls
  rw [h] at hFollows hWatched
  rw [hWatched, hFollows.attempts_of_none]

/-- A call that fails after others returned is the last to be attempted. -/
theorem performAll_watched_of_fails (h : plane.performAll state calls = (next, none))
    {call : Call} {last : σ} {cause : String}
    (hCall : plane.perform next call = (last, .error cause)) (more : List Call)
    (record : List Attempt) :
    plane.watched.performAll (state, record) (calls ++ call :: more) =
      ((last, record ++ (calls.map fun call => ⟨call, none⟩) ++ [⟨call, some cause⟩]),
        some cause) := by
  rw [performAll_append_of_none (performAll_watched_of_none h record)]
  simp only [performAll, perform_watched hCall]
  rfl

/-- A call returns whenever a condition on the state holds, and the condition still holds then. -/
def Serves (plane : ControlPlane σ) (holds : σ → Prop) (call : Call) : Prop :=
  ∀ state, holds state → ∃ next reply, plane.perform state call = (next, .ok reply) ∧ holds next

/-- Calls that are all served return one after the other. -/
theorem performAll_of_serves {holds : σ → Prop} (h : ∀ call ∈ calls, plane.Serves holds call)
    (hState : holds state) : ∃ next, plane.performAll state calls = (next, none) ∧ holds next := by
  induction calls generalizing state with
  | nil => exact ⟨state, rfl, hState⟩
  | cons call rest ih =>
      rw [List.forall_mem_cons] at h
      obtain ⟨between, reply, hPerform, hBetween⟩ := h.1 state hState
      simp only [performAll, hPerform]
      exact ih h.2 hBetween

/-- Watching the creation of keys changes nothing about it. -/
theorem createKeys_watched (plane : ControlPlane σ) (state : σ) (record : List Attempt)
    (outcome : Outcome) (requests : List KeyRequest) :
    ∃ attempts,
      Follows (requests.map Call.createKey) attempts
        (plane.createKeys state outcome requests).2.2 ∧
      plane.watched.createKeys (state, record) outcome requests =
        (((plane.createKeys state outcome requests).1, record ++ attempts),
          (plane.createKeys state outcome requests).2) := by
  induction requests generalizing state record outcome with
  | nil => exact ⟨[], .done, by simp [createKeys]⟩
  | cons request rest ih =>
      rcases hPerform : plane.perform state (.createKey request) with ⟨next, cause | key⟩
      · have hWatched := perform_watched hPerform record
        simp only [createKeys, hPerform, hWatched]
        exact ⟨_, .failed (.createKey request) (rest.map Call.createKey) cause, rfl⟩
      · have hWatched := perform_watched hPerform record
        simp only [createKeys, hPerform, hWatched]
        obtain ⟨attempts, hFollows, hRest⟩ :=
          ih next (record ++ [⟨.createKey request, none⟩]) (outcome.withKey request key)
        refine ⟨⟨.createKey request, none⟩ :: attempts, .returned hFollows, ?_⟩
        rw [List.append_assoc, List.singleton_append] at hRest
        exact hRest

end ControlPlane

end Tailnet
