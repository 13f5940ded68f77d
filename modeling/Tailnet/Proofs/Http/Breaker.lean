import Mathlib.Data.List.DropRight
import Tailnet.Proofs.Http.Retry

/-!
The breaker over whole runs. All clients of a process share it, and each of their requests is tried
once or several times. At every trial, whatever the answers and the clock, the breaker is what the
sends before it make of it: it lets the trial through unless the last five sends have all failed and
the last of them ended less than a minute ago.
-/

namespace Tailnet.Http

/-- Whether an outcome says that the breaker is open. -/
def isRejection : Except SendError Value → Bool
  | .error .breakerOpen => true
  | _ => false

/-- One trial of a request: the network that it found, and the request if it can be formed. -/
structure Trial where
  before : Wire
  request : Except SendError Request

namespace Trial

/-- The network that a trial leaves behind. -/
def after (trial : Trial) : Wire := (trial.before.attempt trial.request).1

/-- What a trial gave. -/
def outcome (trial : Trial) : Except SendError Value := (trial.before.attempt trial.request).2

/-- Whether a trial failed in a way that may pass. -/
def hasFailed (trial : Trial) : Bool := isTransient trial.outcome

/-- Whether a trial was not let through by the breaker. -/
def isRejected (trial : Trial) : Bool := isRejection trial.outcome

end Trial

/-- The sends among some trials: those that were let through. -/
def sendsOf (trials : List Trial) : List Trial := trials.filter fun trial => !trial.isRejected

/-- The number of failures in a row at the end of some sends. -/
def failuresInARow (sends : List Trial) : Nat := (sends.rtakeWhile Trial.hasFailed).length

/-- The last five sends have all failed, and the last of them ended less than a minute ago. -/
structure Blocks (sends : List Trial) (now : Time) : Prop where
  failed : ∃ earlier recent, sends = earlier ++ recent ∧ recent.length = 5 ∧
    ∀ send ∈ recent, send.hasFailed = true
  recent : ∃ last, sends.getLast? = some last ∧ now - last.after.now < 60

/-- The trials of a request, when some more are allowed after the first and some were made before,
and what comes of them. A trial that failed in a way that may pass is followed by a wait and by
another trial, as long as more are allowed. Any other is the last. -/
inductive Tries (request : Except SendError Request) :
    (left made : Nat) → Wire → List Trial → Wire × Except SendError Value → Prop where
  | last {left made : Nat} {wire : Wire}
      (h : left = 0 ∨ (Trial.mk wire request).hasFailed = false) :
      Tries request left made wire [⟨wire, request⟩] (wire.attempt request)
  | again {left made : Nat} {wire : Wire} {later : List Trial}
      {result : Wire × Except SendError Value}
      (hFailed : (Trial.mk wire request).hasFailed = true)
      (hLater : Tries request left (made + 1)
        ((Trial.mk wire request).after.wait (Wire.waitAfter .usual made)) later result) :
      Tries request (left + 1) made wire (⟨wire, request⟩ :: later) result

/-- What has happened in a process: the trials of all requests of its clients so far, earliest
first, and the network as it is now. The clock may run as it will. -/
inductive History : List Trial → Wire → Prop where
  | start (answers : List Answer) (delays : List Time) :
      History [] { Wire.ofAnswers answers with delays }
  | advance {trials : List Trial} {wire : Wire} (seconds : Time) (before : History trials wire) :
      History trials (wire.advance seconds)
  | place {trials more : List Trial} {wire : Wire} (client : Client) (order : Order)
      (before : History trials wire)
      (h : Tries (client.request order) (client.maxAttempts.toNat - 1) 1 wire more
        (client.place wire order)) :
      History (trials ++ more) (client.place wire order).1

/-- A trial that was let through: its request is sent and the answer decides, or the request cannot
be formed. -/
inductive Trial.IsMade (trial : Trial) : Prop where
  | sent {request : Request} (hRequest : trial.request = .ok request)
      (hSent : trial.after.requests = trial.before.requests ++ [request])
      (hOutcome : trial.outcome =
        (trial.before.answers.headD Wire.lastAnswer).result request.url)
  | unformed {cause : SendError} (hRequest : trial.request = .error cause)
      (hSent : trial.after.requests = trial.before.requests)
      (hOutcome : trial.outcome = .error cause)

/-- What the breaker does at a trial that comes after some sends. A trial is rejected exactly if
these block it, and then nothing changes; any other is made. The failures in a row are counted,
whatever is no failure ends the row, and one more failure after five blocks for another minute. -/
structure Obeys (sends : List Trial) (trial : Trial) : Prop where
  isRejected_iff : trial.isRejected = true ↔ Blocks sends trial.before.now
  unchanged : trial.isRejected = true → trial.after = trial.before
  isMade : trial.isRejected = false → trial.IsMade
  counts : trial.before.breaker.failures = failuresInARow sends
  resets : trial.isRejected = false → trial.hasFailed = false →
    trial.after.breaker.failures = 0 ∧ trial.after.breaker.openedAt = none
  reopens : 5 ≤ failuresInARow sends → trial.hasFailed = true →
    ∀ now, now - trial.after.now < 60 → trial.after.breaker.admits now = false

section Reasons

/-- Whether a computation fails for reasons of its own, if it fails, and not because of the
breaker. -/
abbrev FailsAlone {α : Type} (x : Except SendError α) : Prop :=
  Meets (fun _ => True) (fun cause : SendError => cause ≠ .breakerOpen) x

theorem checkName_failsAlone (host : String) : FailsAlone (checkName host) := by
  unfold checkName
  split
  · cases (Domain.decode host) with
    | ok => exact .ok trivial
    | error => exact .error (by simp)
  · exact .ok trivial

theorem checkHost_failsAlone (url : Url) : FailsAlone (checkHost url) :=
  (checkName_failsAlone _).bind fun _ _ => (Meets.mapError (by simp) _).bind fun _ _ =>
    .ok trivial

theorem checkRedirect_failsAlone (url : Url) (location : String) :
    FailsAlone (checkRedirect url location) := by
  unfold checkRedirect
  refine (Meets.mapError (by simp) _).bind fun target _ => ?_
  refine .guarded ?_ fun h => (checkName_failsAlone _).bind fun _ _ => h
  refine .guarded ?_ fun h => (checkName_failsAlone _).bind fun _ _ =>
    (Meets.mapError (by simp) _).bind fun _ _ => h
  refine .guarded ?_ fun h => (Meets.mapError (by simp) _).bind fun _ _ => h
  refine .guarded ?_ fun h => (checkHost_failsAlone _).bind fun _ _ => h
  exact checkName_failsAlone _

theorem value_failsAlone (response : Response) : FailsAlone response.value := by
  unfold Response.value
  split
  · exact .ok trivial
  · exact (Meets.mapError (by simp) _).bind fun _ _ => .mapError (by simp) _

theorem checkCompression_failsAlone (response : Response) (headers : Headers) :
    FailsAlone (response.checkCompression headers) := by
  unfold Response.checkCompression
  split
  · exact .error (by simp)
  · exact .ok trivial

/-- No answer is told as if the breaker were open. -/
theorem result_failsAlone (answer : Answer) (url : Url) : FailsAlone (answer.result url) := by
  cases answer with
  | failure cause =>
      rw [Answer.result]
      split
      · exact .error (by simp)
      · exact .error (by simp)
  | response response =>
      rw [Answer.result, Response.result]
      refine (Meets.mapError (by simp) _).bind fun headers _ => ?_
      refine (checkCompression_failsAlone response headers).bind fun _ _ => ?_
      refine .guarded ?_ fun _ => .error (by simp)
      refine (Meets.forOption (checkRedirect_failsAlone url) _).bind fun _ _ => ?_
      split
      · exact (Meets.mapError (by simp) _).bind fun _ _ => .error (by simp)
      · split
        · exact value_failsAlone response
        · exact .error (by simp)

/-- No request is refused as if the breaker were open. -/
theorem request_failsAlone (client : Client) (order : Order) :
    FailsAlone (client.request order) := by
  have hPairs {α : Type} (x : Except PairsError α) : FailsAlone (x.mapError .pairs) :=
    .mapError (by simp) x
  have hHeaders : FailsAlone (client.orderHeaders order) := by
    unfold Client.orderHeaders
    split
    · exact (hPairs _).bind fun _ _ => .ok trivial
    · exact .ok trivial
  have hBody : FailsAlone (client.bodyText order.body) := by
    unfold Client.bodyText
    refine (Meets.mapError (by simp) _).bind fun text _ => ?_
    split
    · exact .ok trivial
    · exact .error (by simp)
  have hRest (headers : Headers) (url : Url) : FailsAlone (do
      let body ← client.bodyText order.body
      if (headers.get? "Host").isNone then checkHost url
      return ({
        method := order.method
        url := url
        headers := Client.withCredentials headers url
        timeout := client.timeout
        body := body } : Request)) :=
    hBody.bind fun _ _ => .guarded (.ok trivial) fun h => (checkHost_failsAlone _).bind fun _ _ => h
  unfold Client.request
  refine hHeaders.bind fun entries _ => (Meets.mapError (by simp) _).bind fun url _ =>
    (Meets.mapError (by simp) _).bind fun headers _ => (Meets.mapError (by simp) _).bind
    fun query _ => ?_
  cases query with
  | none => exact hRest headers url
  | some query => exact (Meets.mapError (by simp) _).bind fun url _ => hRest headers url

end Reasons

section Counting

/-- The breaker as some sends leave it: open since the last of them, or on trial, if they end in
enough failures. -/
def Breaker.ofSends (sends : List Trial) : Breaker :=
  ⟨failuresInARow sends,
    if 5 ≤ failuresInARow sends then sends.getLast?.map fun send => send.after.now else none⟩

variable {sends : List Trial} {trial : Trial}

theorem sendsOf_append (trials more : List Trial) :
    sendsOf (trials ++ more) = sendsOf trials ++ sendsOf more := List.filter_append ..

theorem sendsOf_of_made (h : trial.isRejected = false) : sendsOf [trial] = [trial] := by
  simp [sendsOf, h]

theorem failuresInARow_append (sends : List Trial) (trial : Trial) :
    failuresInARow (sends ++ [trial]) =
      if trial.hasFailed then failuresInARow sends + 1 else 0 := by
  rw [failuresInARow, List.rtakeWhile_concat]
  split
  · rw [List.length_append, List.length_singleton, failuresInARow]
  · rfl

/-- There are some failures in a row at the end exactly if the last sends, as many as that, have all
failed. -/
theorem le_failuresInARow_iff {count : Nat} :
    count ≤ failuresInARow sends ↔
      ∃ earlier recent, sends = earlier ++ recent ∧ recent.length = count ∧
        ∀ send ∈ recent, send.hasFailed = true := by
  constructor
  · intro h
    obtain ⟨before, hBefore⟩ := sends.rtakeWhile_suffix Trial.hasFailed
    let row := sends.rtakeWhile Trial.hasFailed
    refine ⟨before ++ row.take (row.length - count), row.drop (row.length - count), ?_, ?_, ?_⟩
    · rw [List.append_assoc, List.take_append_drop, hBefore]
    · rw [List.length_drop]
      exact Nat.sub_sub_self h
    · exact fun send hIn => List.mem_rtakeWhile_imp (List.mem_of_mem_drop hIn)
  · rintro ⟨earlier, recent, rfl, rfl, hRecent⟩
    induction recent using List.reverseRecOn with
    | nil => exact Nat.zero_le _
    | append_singleton recent last ih =>
        rw [List.forall_mem_append, List.forall_mem_singleton] at hRecent
        rw [← List.append_assoc, failuresInARow_append, if_pos hRecent.2, List.length_append]
        exact Nat.succ_le_succ (ih hRecent.1)

/-- The breaker lets nothing through exactly if the sends that it counted block the next trial. -/
theorem admits_ofSends_iff {now : Time} :
    (Breaker.ofSends sends).admits now = false ↔ Blocks sends now := by
  by_cases hMany : 5 ≤ failuresInARow sends
  · obtain ⟨last, hLast⟩ : ∃ last, sends.getLast? = some last := by
      cases hNone : sends.getLast? with
      | some last => exact ⟨last, rfl⟩
      | none =>
          rw [List.getLast?_eq_none_iff.mp hNone] at hMany
          exact absurd hMany (by decide)
    have hOpened : (Breaker.ofSends sends).openedAt = some last.after.now := by
      rw [Breaker.ofSends, if_pos hMany, hLast]
      rfl
    have hAdmits := Breaker.admits_of_some hOpened now
    rw [← Bool.not_eq_true, hAdmits, not_le]
    constructor
    · exact fun hSoon => ⟨le_failuresInARow_iff.mp hMany, last, hLast, hSoon⟩
    · rintro ⟨-, other, hOther, hSoon⟩
      rw [hLast, Option.some.injEq] at hOther
      rwa [← hOther] at hSoon
  · have hOpened : (Breaker.ofSends sends).openedAt = none := if_neg hMany
    rw [Breaker.admits_of_none hOpened]
    exact iff_of_false nofun fun hBlocks => hMany (le_failuresInARow_iff.mpr hBlocks.failed)

end Counting

section Trials

variable {sends : List Trial} {trial : Trial}

theorem Wire.requests_note (wire : Wire) (outcome : Except SendError Value) :
    (wire.note outcome).requests = wire.requests := by
  unfold note
  split <;> rfl

theorem Wire.now_note (wire : Wire) (outcome : Except SendError Value) :
    (wire.note outcome).now = wire.now := by
  unfold note
  split <;> rfl

theorem Wire.breaker_note (wire : Wire) (outcome : Except SendError Value) :
    (wire.note outcome).breaker =
      if isTransient outcome then wire.breaker.afterFailure wire.now else .fresh := by
  cases outcome with
  | ok => rfl
  | error cause =>
      cases cause with
      | _ => rfl

theorem Trial.eq_of_error {cause : SendError} (hRequest : trial.request = .error cause)
    (hAdmits : trial.before.breaker.admits trial.before.now = true) :
    trial.outcome = .error cause ∧ trial.after = trial.before.note trial.outcome := by
  have hAttempt : trial.before.attempt trial.request =
      (trial.before.note (α := Value) (.error cause), .error cause) := by
    rw [hRequest, Wire.attempt, hAdmits]
    rfl
  rw [after, outcome, hAttempt]
  exact ⟨rfl, rfl⟩

theorem Trial.eq_of_ok {request : Request} (hRequest : trial.request = .ok request)
    (hAdmits : trial.before.breaker.admits trial.before.now = true) :
    trial.outcome = (trial.before.exchange request).2.result request.url ∧
      trial.after = (trial.before.exchange request).1.note trial.outcome := by
  have hAttempt : trial.before.attempt trial.request =
      ((trial.before.exchange request).1.note
        ((trial.before.exchange request).2.result request.url),
        (trial.before.exchange request).2.result request.url) := by
    rw [hRequest, Wire.attempt, hAdmits]
    rfl
  rw [after, outcome, hAttempt]
  exact ⟨rfl, rfl⟩

/-- A trial that is let through is made. -/
theorem isMade_of_admits (hAdmits : trial.before.breaker.admits trial.before.now = true) :
    trial.IsMade := by
  cases hRequest : trial.request with
  | error cause =>
      obtain ⟨hOutcome, hAfter⟩ := Trial.eq_of_error hRequest hAdmits
      exact .unformed hRequest (by rw [hAfter, Wire.requests_note]) hOutcome
  | ok request =>
      obtain ⟨hOutcome, hAfter⟩ := Trial.eq_of_ok hRequest hAdmits
      exact .sent hRequest (by rw [hAfter, Wire.requests_note]; rfl) hOutcome

/-- The outcome of a trial that is let through decides what becomes of the breaker. -/
theorem breaker_of_admits (hAdmits : trial.before.breaker.admits trial.before.now = true) :
    trial.after.breaker =
      if trial.hasFailed then trial.before.breaker.afterFailure trial.after.now else .fresh := by
  cases hRequest : trial.request with
  | error cause =>
      rw [(Trial.eq_of_error hRequest hAdmits).2, Wire.breaker_note, Wire.now_note]
      rfl
  | ok request =>
      rw [(Trial.eq_of_ok hRequest hAdmits).2, Wire.breaker_note, Wire.now_note]
      rfl

/-- No trial that was made ends as if the breaker were open. -/
theorem Trial.IsMade.isRejected_eq_false (h : trial.IsMade) (hRequest : FailsAlone trial.request) :
    trial.isRejected = false := by
  have hAlone : FailsAlone trial.outcome := by
    cases h with
    | sent _ _ hOutcome => exact hOutcome ▸ result_failsAlone _ _
    | unformed hCause _ hOutcome =>
        rw [hCause] at hRequest
        cases hRequest with
        | error h => exact hOutcome ▸ .error h
  rw [isRejected]
  generalize trial.outcome = outcome at hAlone
  cases hAlone with
  | ok => rfl
  | @error cause hCause =>
      cases cause with
      | breakerOpen => exact absurd rfl hCause
      | _ => rfl

theorem isRejected_iff (hRequest : FailsAlone trial.request) :
    trial.isRejected = true ↔ trial.before.breaker.admits trial.before.now = false := by
  cases hAdmits : trial.before.breaker.admits trial.before.now with
  | true =>
      rw [(isMade_of_admits hAdmits).isRejected_eq_false hRequest]
      decide
  | false =>
      rw [Trial.isRejected, Trial.outcome, Wire.attempt_of_not_admits _ hAdmits]
      exact iff_of_true rfl rfl

theorem after_of_not_admits (hAdmits : trial.before.breaker.admits trial.before.now = false) :
    trial.after = trial.before := by
  rw [Trial.after, Wire.attempt_of_not_admits _ hAdmits]

/-- A rejection is not worth another trial. -/
theorem isTransient_eq_false {outcome : Except SendError Value} (h : isRejection outcome = true) :
    isTransient outcome = false := by
  unfold isRejection at h
  split at h
  · rfl
  · cases h

/-- A trial counts for the breaker exactly if it is let through. -/
theorem breaker_after (hRequest : FailsAlone trial.request)
    (h : trial.before.breaker = .ofSends sends) :
    trial.after.breaker = .ofSends (sends ++ sendsOf [trial]) := by
  cases hAdmits : trial.before.breaker.admits trial.before.now with
  | false =>
      have hNone : sendsOf [trial] = [] := by
        simp [sendsOf, (isRejected_iff hRequest).mpr hAdmits]
      rw [after_of_not_admits hAdmits, h, hNone, List.append_nil]
  | true =>
      have hMade := (isMade_of_admits hAdmits).isRejected_eq_false hRequest
      rw [breaker_of_admits hAdmits, sendsOf_of_made hMade, Breaker.ofSends,
        failuresInARow_append, h, List.getLast?_append]
      cases trial.hasFailed with
      | false => rfl
      | true =>
          have hThreshold : Breaker.threshold = 5 := rfl
          simp only [if_true, Breaker.afterFailure, Breaker.ofSends, hThreshold]
          congr 1
          split
          · rfl
          · rw [if_neg (by omega)]

/-- What holds of a trial before which the breaker is as some sends leave it. -/
theorem obeys_of_breaker_eq (hRequest : FailsAlone trial.request)
    (h : trial.before.breaker = .ofSends sends) : Obeys sends trial := by
  have hRejected : trial.isRejected = true ↔ Blocks sends trial.before.now := by
    rw [isRejected_iff hRequest, h, admits_ofSends_iff]
  have hAdmitted (hMade : trial.isRejected = false) :
      trial.before.breaker.admits trial.before.now = true := by
    rw [← Bool.not_eq_false, ← isRejected_iff hRequest, hMade]
    exact Bool.false_ne_true
  refine ⟨hRejected, fun hYes => after_of_not_admits ((isRejected_iff hRequest).mp hYes),
    fun hMade => isMade_of_admits (hAdmitted hMade), congrArg Breaker.failures h, ?_, ?_⟩
  · intro hMade hFailed
    rw [breaker_of_admits (hAdmitted hMade), hFailed]
    exact ⟨rfl, rfl⟩
  · intro hMany hFailed now hSoon
    have hMade : trial.isRejected = false := by
      rw [← Bool.not_eq_true]
      exact fun hYes => Bool.false_ne_true ((isTransient_eq_false hYes).symm.trans hFailed)
    have hAfter := breaker_after hRequest h
    rw [sendsOf_of_made hMade] at hAfter
    rw [hAfter, admits_ofSends_iff]
    refine ⟨le_failuresInARow_iff.mp ?_, trial, List.getLast?_concat .., hSoon⟩
    rw [failuresInARow_append, if_pos hFailed]
    exact Nat.le_succ_of_le hMany

end Trials

section Runs

variable {request : Except SendError Request} {wire : Wire}

/-- Sending a request makes trials of it. -/
theorem exists_tries (request : Except SendError Request) (left made : Nat) (wire : Wire) :
    ∃ trials, Tries request left made wire trials
      (Wire.retry request left made (wire.attempt request).1 (wire.attempt request).2) := by
  induction left generalizing made wire with
  | zero => exact ⟨_, .last (Or.inl rfl)⟩
  | succ left ih =>
      cases hFailed : (Trial.mk wire request).hasFailed with
      | false =>
          have hFinal : isTransient (wire.attempt request).2 = false := hFailed
          rw [(Wire.isRetrying request).final _ _ _ hFinal]
          exact ⟨_, .last (Or.inr hFailed)⟩
      | true =>
          have hAgain : isTransient (wire.attempt request).2 = true := hFailed
          rw [(Wire.isRetrying request).again _ _ _ hAgain]
          obtain ⟨trials, hLater⟩ :=
            ih (made + 1) ((Trial.mk wire request).after.wait (Wire.waitAfter .usual made))
          exact ⟨_, .again hFailed hLater⟩

/-- The first trial of a request finds the network as the request does. -/
theorem Tries.exists_first {left made : Nat} {trials : List Trial}
    {result : Wire × Except SendError Value} (h : Tries request left made wire trials result) :
    ∃ later, trials = ⟨wire, request⟩ :: later := by
  cases h with
  | last => exact ⟨_, rfl⟩
  | again => exact ⟨_, rfl⟩

/-- The last trial of a request decides what comes of it. -/
theorem Tries.exists_final {left made : Nat} {trials : List Trial}
    {result : Wire × Except SendError Value} (h : Tries request left made wire trials result) :
    ∃ earlier final, trials = earlier ++ [final] ∧ result = (final.after, final.outcome) := by
  induction h with
  | last => exact ⟨[], _, rfl, rfl⟩
  | again _ _ ih =>
      obtain ⟨earlier, final, rfl, hResult⟩ := ih
      exact ⟨_ :: earlier, final, rfl, hResult⟩

/-- Each trial of a request comes after the sends before the request and those among its own trials
so far. None follows a rejected one. The induction is on the trials: what one leaves behind is where
the next begins. -/
theorem Tries.obeys {left made : Nat} {trials : List Trial}
    {result : Wire × Except SendError Value} (h : Tries request left made wire trials result)
    (hRequest : FailsAlone request) {sends : List Trial}
    (hBreaker : wire.breaker = .ofSends sends) :
    result.1.breaker = .ofSends (sends ++ sendsOf trials) ∧
    ∀ earlier trial later, trials = earlier ++ trial :: later →
      Obeys (sends ++ sendsOf earlier) trial ∧
      (trial.isRejected = true → later = [] ∧ result = (trial.before, .error .breakerOpen)) := by
  induction h generalizing sends with
  | @last left made wire hLast =>
      have hTrial : (Trial.mk wire request).before.breaker = .ofSends sends := hBreaker
      refine ⟨breaker_after hRequest hTrial, fun earlier trial later hTrials => ?_⟩
      obtain ⟨rfl, hTrials⟩ | ⟨rfl, hTrials⟩ := List.singleton_eq_append_iff.mp hTrials
      · obtain ⟨rfl, rfl⟩ := List.cons.inj hTrials
        rw [show sendsOf [] = [] from rfl, List.append_nil]
        refine ⟨obeys_of_breaker_eq hRequest hTrial, fun hRejected => ⟨rfl, ?_⟩⟩
        exact Wire.attempt_of_not_admits request ((isRejected_iff hRequest).mp hRejected)
      · cases hTrials
  | @again left made wire more result hFailed hLater ih =>
      have hTrial : (Trial.mk wire request).before.breaker = .ofSends sends := hBreaker
      obtain ⟨hResult, hMore⟩ := ih (breaker_after hRequest hTrial)
      refine ⟨?_, fun earlier trial later hTrials => ?_⟩
      · rw [hResult, List.append_assoc, ← sendsOf_append, List.singleton_append]
      · cases earlier with
        | nil =>
            obtain ⟨rfl, rfl⟩ := List.cons.inj hTrials
            rw [show sendsOf [] = [] from rfl, List.append_nil]
            refine ⟨obeys_of_breaker_eq hRequest hTrial, fun hRejected => ?_⟩
            cases (isTransient_eq_false hRejected).symm.trans hFailed
        | cons first earlier =>
            obtain ⟨rfl, hRest⟩ := List.cons.inj hTrials
            obtain ⟨hObeys, hLast⟩ := hMore earlier trial later hRest
            rw [List.append_assoc, ← sendsOf_append, List.singleton_append] at hObeys
            exact ⟨hObeys, hLast⟩

/-- The breaker is at any time what the sends so far make of it. -/
theorem History.breaker_eq {trials : List Trial} (h : History trials wire) :
    wire.breaker = .ofSends (sendsOf trials) := by
  induction h with
  | start => rfl
  | advance _ _ ih => exact ih
  | place client order _ hTries ih =>
      rw [sendsOf_append]
      exact (hTries.obeys (request_failsAlone client order) ih).1

/-- Whatever happened in a process before, each trial of the next request is rejected exactly if the
last five sends until then have all failed and the last of them ended less than a minute ago. Then
nothing is sent, no time passes, and the request fails at once without being tried again. Otherwise
the trial is made. -/
theorem History.trials_obey {trials : List Trial} (h : History trials wire) (client : Client)
    (order : Order) :
    ∃ more, Tries (client.request order) (client.maxAttempts.toNat - 1) 1 wire more
        (client.place wire order) ∧
      ∀ earlier trial later, more = earlier ++ trial :: later →
        Obeys (sendsOf (trials ++ earlier)) trial ∧
        (trial.isRejected = true →
          later = [] ∧ client.place wire order = (trial.before, .error .breakerOpen)) := by
  obtain ⟨more, hTries⟩ :=
    exists_tries (client.request order) (client.maxAttempts.toNat - 1) 1 wire
  refine ⟨more, hTries, fun earlier trial later hMore => ?_⟩
  rw [sendsOf_append]
  exact (hTries.obeys (request_failsAlone client order) h.breaker_eq).2 earlier trial later hMore

/-- After five failures of a control plane that is out of service the sixth trial is rejected, and
so is at once the next request. -/
theorem History.trials_obey_unavailable :
    ∃ trials wire, History trials wire ∧ Blocks (sendsOf trials) wire.now ∧
      (Client.usualClient 3).place wire ((Client.usualClient 3).setDnsPreferences (.bool true)) =
        (wire, .error .breakerOpen) := by
  let order := (Client.usualClient 6).setDnsPreferences (.bool true)
  let wire := Wire.ofAnswers (List.replicate 6 Client.unavailable)
  obtain ⟨request, -, -, -, hAll⟩ := Client.exhausts_unavailable
  have hOpen : ((Client.usualClient 6).place wire order).2 = .error .breakerOpen :=
    (hAll.rejected (by decide)).2
  have hStart := History.start (List.replicate 6 Client.unavailable) []
  obtain ⟨trials, hTries, hTrials⟩ := hStart.trials_obey (Client.usualClient 6) order
  obtain ⟨earlier, final, rfl, hResult⟩ := hTries.exists_final
  have hRejected : final.isRejected = true :=
    congrArg isRejection ((congrArg Prod.snd hResult).symm.trans hOpen)
  have hFinal := (hTrials earlier final [] rfl).1
  have hUnchanged := hFinal.unchanged hRejected
  have hSends : sendsOf (earlier ++ [final]) = sendsOf earlier := by
    simp [sendsOf, hRejected]
  have hBlocks : Blocks (sendsOf (earlier ++ [final])) final.after.now := by
    rw [hSends, hUnchanged]
    exact hFinal.isRejected_iff.mp hRejected
  have hHistory := History.place (Client.usualClient 6) order hStart hTries
  rw [List.nil_append, hResult] at hHistory
  refine ⟨_, _, hHistory, hBlocks, ?_⟩
  obtain ⟨more, hNext, hMore⟩ := hHistory.trials_obey (Client.usualClient 3)
    ((Client.usualClient 3).setDnsPreferences (.bool true))
  obtain ⟨later, rfl⟩ := hNext.exists_first
  obtain ⟨hObeys, hLast⟩ := hMore [] _ later rfl
  rw [List.append_nil] at hObeys
  exact (hLast (hObeys.isRejected_iff.mpr hBlocks)).2

end Runs

end Tailnet.Http
