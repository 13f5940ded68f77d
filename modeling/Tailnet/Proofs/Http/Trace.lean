import Tailnet.Proofs.Http.Breaker

/-!
The trace of a request: which attempts are made of it, what each of them finds and puts on the wire,
how long is waited between them, and what comes of it. This is said of every network, whatever it
answers and whatever became of the breaker before.
-/

namespace Tailnet.Http

theorem Wire.answers_note (wire : Wire) (outcome : Except SendError Value) :
    (wire.note outcome).answers = wire.answers := by
  unfold note
  split <;> rfl

theorem Wire.waits_note (wire : Wire) (outcome : Except SendError Value) :
    (wire.note outcome).waits = wire.waits := by
  unfold note
  split <;> rfl

/-- Whether an outcome may pass, in terms of what went wrong. -/
theorem isTransient_iff {outcome : Except SendError Value} :
    isTransient outcome = true ↔ ∃ message, outcome = .error (.retryable message) := by
  cases outcome with
  | ok value => simp [isTransient]
  | error cause => cases cause <;> simp [isTransient, SendError.isRetryable]

namespace Trial

/-- What a trial puts on the wire: its request, if it can be formed and the breaker lets it
through. -/
def sent (trial : Trial) : List Request :=
  match trial.request with
  | .ok request => if trial.isRejected then [] else [request]
  | .error _ => []

/-- What a trial leaves behind: its request is on the wire and an answer is used up if it was sent,
and nothing was waited for. -/
structure Leaves (trial : Trial) : Prop where
  requests : trial.after.requests = trial.before.requests ++ trial.sent
  answers : trial.after.answers = trial.before.answers.drop trial.sent.length
  waits : trial.after.waits = trial.before.waits

variable {trial : Trial}

theorem sent_of_error {cause : SendError} (hRequest : trial.request = .error cause) :
    trial.sent = [] := by
  simp [sent, hRequest]

theorem sent_of_not_admits (hAdmits : trial.before.breaker.admits trial.before.now = false) :
    trial.sent = [] := by
  cases hRequest : trial.request with
  | error cause => exact sent_of_error hRequest
  | ok request =>
      have hAlone : FailsAlone trial.request := hRequest ▸ .ok trivial
      simp [sent, hRequest, (isRejected_iff hAlone).mpr hAdmits]

theorem sent_of_admits {request : Request} (hRequest : trial.request = .ok request)
    (hAdmits : trial.before.breaker.admits trial.before.now = true) : trial.sent = [request] := by
  have hAlone : FailsAlone trial.request := hRequest ▸ .ok trivial
  simp [sent, hRequest, (isMade_of_admits hAdmits).isRejected_eq_false hAlone]

theorem leaves (trial : Trial) : trial.Leaves := by
  cases hAdmits : trial.before.breaker.admits trial.before.now with
  | false =>
      have hAfter : trial.after = trial.before := after_of_not_admits hAdmits
      have hSent : trial.sent = [] := sent_of_not_admits hAdmits
      constructor <;> simp [hAfter, hSent]
  | true =>
      cases hRequest : trial.request with
      | error cause =>
          have hAfter := (eq_of_error hRequest hAdmits).2
          have hSent : trial.sent = [] := sent_of_error hRequest
          constructor <;>
            simp [hAfter, hSent, Wire.requests_note, Wire.answers_note, Wire.waits_note]
      | ok request =>
          have hAfter := (eq_of_ok hRequest hAdmits).2
          have hSent : trial.sent = [request] := sent_of_admits hRequest hAdmits
          constructor <;>
            simp [hAfter, hSent, Wire.requests_note, Wire.answers_note, Wire.waits_note,
              Wire.exchange, Wire.delay, Wire.advance]

theorem request_eq_of_mem_sent {request : Request} (h : request ∈ trial.sent) :
    trial.request = .ok request := by
  cases hRequest : trial.request with
  | error cause => simp [sent_of_error hRequest] at h
  | ok own =>
      simp only [sent, hRequest, List.mem_ite_nil_left, List.mem_singleton] at h
      rw [h.2]

/-- How a trial ends. The breaker rejects it and nothing changes, or the trial is made. -/
structure Ends (trial : Trial) : Prop where
  rejected : trial.before.breaker.admits trial.before.now = false →
    trial.outcome = .error .breakerOpen ∧ trial.after = trial.before
  made : trial.before.breaker.admits trial.before.now = true → trial.IsMade

theorem ends (trial : Trial) : trial.Ends := by
  constructor
  · intro hAdmits
    have hAttempt := Wire.attempt_of_not_admits trial.request hAdmits
    exact ⟨congrArg Prod.snd hAttempt, congrArg Prod.fst hAttempt⟩
  · exact isMade_of_admits

end Trial

section Runs

variable {request : Except SendError Request} {left made : Nat} {wire : Wire} {trials : List Trial}
  {result : Wire × Except SendError Value}

/-- The network that a trial finds after earlier trials of the same request, each followed by a
wait. The first of them was attempt number `made`. -/
structure FoundBy (made : Nat) (wire : Wire) (earlier : List Trial) (before : Wire) : Prop where
  requests : before.requests = wire.requests ++ earlier.flatMap Trial.sent
  answers : before.answers = wire.answers.drop (earlier.flatMap Trial.sent).length
  waits : before.waits = wire.waits ++ (List.range' made earlier.length).map (Wire.waitAfter .usual)

theorem FoundBy.nil (made : Nat) (wire : Wire) : FoundBy made wire [] wire := by
  constructor <;> simp

/-- A trial and a wait come before everything that the next trials find. -/
theorem FoundBy.cons {trial : Trial} {earlier : List Trial} {before : Wire}
    (h : FoundBy (made + 1) (trial.after.wait (Wire.waitAfter .usual made)) earlier before) :
    FoundBy made trial.before (trial :: earlier) before := by
  have hLeaves := trial.leaves
  have hRequests := h.requests
  have hAnswers := h.answers
  have hWaits := h.waits
  simp only [Wire.wait, Wire.delay, Wire.advance, hLeaves.requests, hLeaves.answers,
    hLeaves.waits] at hRequests hAnswers hWaits
  constructor
  · simp [hRequests]
  · simp [hAnswers]
  · simp [hWaits, List.range'_succ]

namespace Tries

theorem request_eq (h : Tries request left made wire trials result) :
    ∀ trial ∈ trials, trial.request = request := by
  induction h with
  | last => simp
  | again _ _ ih => simpa using ih

/-- A trial is followed by another exactly if it failed in a way that may pass and more are
allowed. -/
theorem goes_on_iff (h : Tries request left made wire trials result) {earlier later : List Trial}
    {trial : Trial} (hTrials : trials = earlier ++ trial :: later) :
    later ≠ [] ↔ trial.hasFailed = true ∧ earlier.length < left := by
  induction h generalizing earlier with
  | @last left made wire hLast =>
      obtain ⟨rfl, hOne⟩ | ⟨rfl, hNone⟩ := List.singleton_eq_append_iff.mp hTrials
      · obtain ⟨rfl, rfl⟩ := List.cons.inj hOne
        obtain rfl | hFinal := hLast
        · simp
        · simp [hFinal]
      · cases hNone
  | @again left made wire more result hFailed hLater ih =>
      cases earlier with
      | nil =>
          obtain ⟨rfl, rfl⟩ := List.cons.inj hTrials
          obtain ⟨others, rfl⟩ := hLater.exists_first
          simp [hFailed]
      | cons first earlier =>
          obtain ⟨-, hRest⟩ := List.cons.inj hTrials
          simp [ih hRest]

/-- Between two trials that follow each other there is one wait. -/
theorem before_next (h : Tries request left made wire trials result) {earlier later : List Trial}
    {trial next : Trial} (hTrials : trials = earlier ++ trial :: next :: later) :
    next.before = trial.after.wait (Wire.waitAfter .usual (made + earlier.length)) := by
  induction h generalizing earlier with
  | last hLast =>
      have hLength := congrArg List.length hTrials
      simp at hLength
      omega
  | @again left made wire more result hFailed hLater ih =>
      cases earlier with
      | nil =>
          obtain ⟨rfl, rfl⟩ := List.cons.inj hTrials
          obtain ⟨others, hOthers⟩ := hLater.exists_first
          obtain ⟨rfl, -⟩ := List.cons.inj hOthers
          rfl
      | cons first earlier =>
          obtain ⟨-, hRest⟩ := List.cons.inj hTrials
          rw [ih hRest, List.length_cons, Nat.add_assoc, Nat.add_comm 1]

/-- What each trial finds is what those before it have left. -/
theorem found (h : Tries request left made wire trials result) {earlier later : List Trial}
    {trial : Trial} (hTrials : trials = earlier ++ trial :: later) :
    FoundBy made wire earlier trial.before := by
  induction h generalizing earlier with
  | @last left made wire hLast =>
      obtain ⟨rfl, hOne⟩ | ⟨rfl, hNone⟩ := List.singleton_eq_append_iff.mp hTrials
      · obtain ⟨rfl, rfl⟩ := List.cons.inj hOne
        exact .nil made wire
      · cases hNone
  | @again left made wire more result hFailed hLater ih =>
      cases earlier with
      | nil =>
          obtain ⟨rfl, rfl⟩ := List.cons.inj hTrials
          exact .nil made wire
      | cons first earlier =>
          obtain ⟨rfl, hRest⟩ := List.cons.inj hTrials
          exact (ih hRest).cons

end Tries

/-- The trace of a request of which a number of attempts may be made, and one is always made. An
attempt that comes after `earlier` ones has the number `earlier.length + 1`. -/
structure Trace (request : Except SendError Request) (most : Int) (wire : Wire)
    (trials : List Trial) (result : Wire × Except SendError Value) : Prop where
  /-- All attempts carry the same request. -/
  same : ∀ trial ∈ trials, trial.request = request
  first : ∃ later, trials = ⟨wire, request⟩ :: later
  ends : ∀ trial ∈ trials, trial.Ends
  goes_on_iff : ∀ earlier trial later, trials = earlier ++ trial :: later →
    (later ≠ [] ↔ (∃ message, trial.outcome = .error (.retryable message)) ∧
      (earlier.length + 1 : Int) < max most 1)
  /-- There is one wait between an attempt and the next, and nothing else happens there. -/
  waited : ∀ earlier trial next later, trials = earlier ++ trial :: next :: later →
    next.before = trial.after.wait (min (2 ^ (earlier.length + 1)) 30)
  /-- Each attempt meets the answers that those before it have left. -/
  answers : ∀ earlier trial later, trials = earlier ++ trial :: later →
    trial.before.answers = wire.answers.drop (earlier.flatMap Trial.sent).length
  /-- The last attempt decides. -/
  last : ∃ earlier final, trials = earlier ++ [final] ∧ result = (final.after, final.outcome)
  requests : result.1.requests = wire.requests ++ trials.flatMap Trial.sent
  waits : result.1.waits =
    wire.waits ++ (List.range (trials.length - 1)).map fun i => min (2 ^ (i + 1)) 30

/-- The trials of a request are its trace. -/
theorem Tries.trace {most : Int} (h : Tries request (most.toNat - 1) 1 wire trials result) :
    Trace request most wire trials result := by
  obtain ⟨before, final, hTrials, hResult⟩ := h.exists_final
  have hFound := h.found hTrials
  have hLeaves := final.leaves
  constructor
  case same => exact h.request_eq
  case first => exact h.exists_first
  case ends => exact fun trial _ => trial.ends
  case goes_on_iff =>
    intro earlier trial later hSplit
    have hCount : earlier.length < most.toNat - 1 ↔ (earlier.length + 1 : Int) < max most 1 := by
      omega
    rw [h.goes_on_iff hSplit, Trial.hasFailed, isTransient_iff, hCount]
  case waited =>
    intro earlier trial next later hSplit
    rw [h.before_next hSplit, Nat.add_comm 1, Wire.waitAfter_usual]
  case answers => exact fun earlier trial later hSplit => (h.found hSplit).answers
  case last => exact ⟨before, final, hTrials, hResult⟩
  case requests =>
    rw [hResult, hTrials, hLeaves.requests, hFound.requests]
    simp
  case waits =>
    rw [hResult, hTrials, hLeaves.waits, hFound.waits, List.range'_eq_map_range]
    simp [Wire.waitAfter_usual, Nat.add_comm]

end Runs

namespace Client

/-- What the request for an order carries. -/
structure Carries (client : Client) (order : Order) (request : Request) : Prop where
  method : request.method = order.method
  /-- The URL of the order, with the order's parameters in the place of a query of its own. -/
  url : ∃ url query, client.url order = .ok url ∧ Client.query order = .ok query ∧
    match query with
    | some query => url.withQuery query = .ok request.url
    | none => request.url = url
  headers : ∃ entries headers, client.orderHeaders order = .ok entries ∧
    Headers.ofEntries entries = .ok headers ∧
    request.headers = withCredentials headers request.url
  timeout : request.timeout = client.timeout
  body : client.bodyText order.body = .ok request.body

theorem carries_of_request {client : Client} {order : Order} {request : Request}
    (h : client.request order = .ok request) : client.Carries order request := by
  unfold Client.request at h
  obtain ⟨entries, hEntries, h⟩ := bind_eq_ok_iff.mp h
  obtain ⟨url, hUrl, h⟩ := bind_eq_ok_iff.mp h
  obtain ⟨headers, hHeaders, h⟩ := bind_eq_ok_iff.mp h
  obtain ⟨query, hQuery, h⟩ := bind_eq_ok_iff.mp h
  rw [mapError_eq_ok_iff] at hUrl hHeaders hQuery
  -- The query decides the URL, and what follows is the same for every URL.
  have hRest {target : Url} (hForm : (do
      let body ← client.bodyText order.body
      if (headers.get? "Host").isNone then checkHost target
      return ({
        method := order.method
        url := target
        headers := withCredentials headers target
        timeout := client.timeout
        body := body } : Request)) = .ok request)
      (hTarget : match query with
        | some query => url.withQuery query = .ok target
        | none => target = url) : client.Carries order request := by
    obtain ⟨body, hBody, hForm⟩ := bind_eq_ok_iff.mp hForm
    have hMade : Request.mk order.method target (withCredentials headers target) client.timeout
        body = request := by
      split at hForm
      · obtain ⟨_, _, hForm⟩ := bind_eq_ok_iff.mp hForm
        exact pure_eq_ok_iff.mp hForm
      · exact pure_eq_ok_iff.mp hForm
    obtain rfl := hMade
    exact ⟨rfl, ⟨url, query, hUrl, hQuery, hTarget⟩, ⟨entries, headers, hEntries, hHeaders, rfl⟩,
      rfl, hBody⟩
  cases query with
  | none => exact hRest h rfl
  | some query =>
      obtain ⟨target, hTarget, h⟩ := bind_eq_ok_iff.mp h
      rw [mapError_eq_ok_iff] at hTarget
      exact hRest h hTarget

/-- Whatever the network answers, whatever became of the breaker before and however many attempts a
client allows, an order is tried as the trace says. All that goes over the network is what the order
says, and a policy document goes as it is. -/
theorem place_traced (client : Client) (order : Order) (wire : Wire) :
    ∃ trials, Trace (client.request order) client.maxAttempts wire trials
        (client.place wire order) ∧
      ∀ request ∈ trials.flatMap Trial.sent, client.request order = .ok request ∧
        client.Carries order request ∧
        ∀ document, order = client.setAcl document → request.body = document := by
  obtain ⟨trials, hTries⟩ :=
    exists_tries (client.request order) (client.maxAttempts.toNat - 1) 1 wire
  refine ⟨trials, hTries.trace, fun request hSent => ?_⟩
  obtain ⟨trial, hTrial, hRequest⟩ := List.mem_flatMap.mp hSent
  have hForm : client.request order = .ok request := by
    rw [← hTries.request_eq trial hTrial]
    exact Trial.request_eq_of_mem_sent hRequest
  have hCarries := carries_of_request hForm
  refine ⟨hForm, hCarries, ?_⟩
  rintro document rfl
  exact (Except.ok.inj (bodyText_eq_ok_iff.mp hCarries.body).1).symm

end Client

end Tailnet.Http
