import Mathlib.Data.Nat.Cast.Order.Ring
import Tailnet.Proofs.Http.Client

/-!
Requests that meet nothing but failures which may pass. Such a request is sent again until the
client's attempts are used up or the breaker lets one not through: the breaker counts the failures
of all requests together, and once it has opened it lets nothing through for longer than any wait
that is asked for. Only a wait that lasts much longer than that leads past it.
-/

namespace Tailnet.Http

/-- An answer after which a request to a URL may be sent again. -/
def Answer.IsTransient (answer : Answer) (url : Url) : Prop :=
  ∃ message, answer.result url = .error (.retryable message)

namespace Answer

/-- Of responses without headers, those with certain statuses may pass. -/
theorem isTransient_response {status : Nat} {body : String} {url : Url}
    (hUrl : url.isFull = true) (hStatus : isRetryableStatus status = true) :
    (response ⟨status, [], body⟩).IsTransient url := by
  have hHeaders : Headers.ofEntries [] = .ok [] := rfl
  have hCompression : Response.checkCompression ⟨status, [], body⟩ [] = .ok () := rfl
  have hRedirect : Response.redirect? ⟨status, [], body⟩ [] = none := ite_self none
  have hText : Response.text ⟨status, [], body⟩ [] =
      .ok (String.ofList (Text.ofBytes (Text.bytesOf body))) := rfl
  refine ⟨"HTTP " ++ toString status ++ ": " ++
    String.ofList (Text.ofBytes (Text.bytesOf body)), ?_⟩
  rw [result, Response.result]
  simp only [hHeaders, Except.mapError, ok_bind, hCompression, hUrl, hRedirect, hStatus, hText,
    Bool.not_true, Bool.false_eq_true, if_false, if_true]
  rfl

end Answer

namespace Breaker

/-- The number of failures in a row that a breaker lets happen: while it is closed those that are
missing to the threshold, one on trial, and none while it is open. -/
def room (breaker : Breaker) (now : Time) : Nat :=
  match breaker.state now with
  | .closed => threshold - breaker.failures
  | .halfOpen => 1
  | .open => 0

theorem room_of_few {failures : List Time} (h : failures.length < threshold) (now : Time) :
    (afterFailures failures).room now = threshold - failures.length := by
  rw [room, state, openedAt_eq_none h, failures_afterFailures]

theorem room_of_many {earlier : List Time} {last : Time} (h : threshold ≤ earlier.length + 1)
    (now : Time) :
    (afterFailures (earlier ++ [last])).room now = if recovery ≤ now - last then 1 else 0 := by
  have hOpened : (afterFailures (earlier ++ [last])).openedAt = some last :=
    (openedAt_afterFailures earlier last).trans (if_pos h)
  rw [room, state, hOpened]
  dsimp only
  by_cases hSoon : now - last < recovery
  · rw [if_pos hSoon, if_neg (not_le.mpr hSoon)]
  · rw [if_neg hSoon, if_pos (not_lt.mp hSoon)]

end Breaker

namespace Wire

/-- The networks on which some clients have placed orders, one after the other and with time passing
in between. Answers and waits may take as long as they will. -/
inductive Reached : Wire → Prop where
  | start (answers : List Answer) (delays : List Time) :
      Reached { Wire.ofAnswers answers with delays }
  | place {wire : Wire} (client : Client) (order : Order) (before : Reached wire) :
      Reached (client.place wire order).1
  | advance {wire : Wire} {seconds : Time} (hForward : 0 ≤ seconds) (before : Reached wire) :
      Reached (wire.advance seconds)

/-- The breaker of a network is what some failures in a row have made of it. -/
def Counts (wire : Wire) : Prop := ∃ failures, wire.breaker = .afterFailures failures

section Counting

variable {wire : Wire} (request : Except SendError Request)

theorem counts_note {α : Type} (h : wire.Counts) (outcome : Except SendError α) :
    (wire.note outcome).Counts := by
  unfold note
  split
  · obtain ⟨failures, hBreaker⟩ := h
    refine ⟨failures ++ [wire.now], ?_⟩
    rw [Breaker.afterFailures_concat, ← hBreaker]
  · exact ⟨[], Breaker.isBreaker.resets⟩

theorem counts_attempt (h : wire.Counts) : (wire.attempt request).1.Counts := by
  unfold attempt
  split
  · exact h
  · split
    · exact counts_note h _
    · refine counts_note ?_ _
      exact h

theorem counts_retry (left made : Nat) (outcome : Except SendError Value) (h : wire.Counts) :
    (retry request left made wire outcome).1.Counts := by
  induction left generalizing made wire outcome with
  | zero => exact h
  | succ left ih =>
      unfold retry
      split
      · refine ih _ _ (counts_attempt request ?_)
        exact h
      · exact h

theorem Reached.counts (h : wire.Reached) : wire.Counts := by
  induction h with
  | start => exact ⟨[], rfl⟩
  | place client order _ ih => exact counts_retry _ _ _ _ (counts_attempt _ ih)
  | advance _ _ ih => exact ih

end Counting

/-- The failures in a row for which the breaker has room now, if every wait from now on is shorter
than the time for which it stays open. -/
def room (wire : Wire) : Nat := wire.breaker.room wire.now

/-- How long it takes from the end of an attempt to the beginning of the next one, when some
attempts were made before and some more have failed since. -/
def pause (wire : Wire) (made failed : Nat) : Time :=
  wire.delays[2 * failed - 1]?.getD 0 + waitAfter .usual (made + failed)

/-- Whether the breaker lets the next attempt through, when some attempts were made before and some
more have failed since. As long as there are too few failures in a row it does; then only if it has
been open for long enough. -/
def admitsAfter (wire : Wire) (made : Nat) : Nat → Bool
  | 0 => wire.breaker.admits wire.now
  | failed + 1 =>
    wire.breaker.failures + (failed + 1) < Breaker.threshold ||
      Breaker.recovery ≤ wire.pause made (failed + 1)

/-- The next answers, at least a number of them, are failures that may pass. -/
structure Fails (wire : Wire) (count : Nat) (url : Url) : Prop where
  enough : count ≤ wire.answers.length
  transient : ∀ answer ∈ wire.answers.take count, answer.IsTransient url

/-- The network after a request was sent and failed in a way that may pass. -/
def failed (wire : Wire) (request : Request) : Wire :=
  let after := (wire.exchange request).1
  { after with breaker := wire.breaker.afterFailure after.now }

/-- What comes of a number of attempts, when some were made before: as many are sent as the breaker
lets through, and the attempt that it does not let through is the last. -/
structure Exhausts (request : Request) (made attempts : Nat) (before : Wire)
    (result : Wire × Except SendError Value) (sent : Nat) : Prop where
  le : sent ≤ attempts
  admitted : ∀ failed < sent, before.admitsAfter made failed = true
  requests : result.1.requests = before.requests ++ List.replicate sent request
  transient : sent = attempts → ∃ message, result.2 = .error (.retryable message)
  rejected : sent < attempts →
    before.admitsAfter made sent = false ∧ result.2 = .error .breakerOpen

section Attempts

variable {wire : Wire} {request : Request}

theorem attempt_of_not_admits (request : Except SendError Request)
    (h : wire.breaker.admits wire.now = false) :
    wire.attempt request = (wire, .error .breakerOpen) := by
  simp only [attempt, h, Bool.not_false, if_true]

theorem Fails.attempt_eq {count : Nat} (h : wire.Fails (count + 1) request.url)
    (hAdmits : wire.breaker.admits wire.now = true) :
    ∃ message, wire.attempt (.ok request) = (wire.failed request, .error (.retryable message)) := by
  obtain ⟨answer, rest, hAnswers⟩ :=
    List.exists_cons_of_length_pos (Nat.zero_lt_of_lt (Nat.lt_of_succ_le h.enough))
  obtain ⟨message, hAnswer⟩ := h.transient answer (by simp [hAnswers])
  refine ⟨message, ?_⟩
  rw [attempt, hAdmits, Bool.not_true, if_neg Bool.false_ne_true]
  simp only [exchange, hAnswers, List.headD_cons, hAnswer]
  simp only [note, failed, exchange, hAnswers]
  rfl

theorem Fails.failed {count : Nat} {url : Url} (h : wire.Fails (count + 1) url)
    (request : Request) : (wire.failed request).Fails count url := by
  have hAnswers : (wire.failed request).answers = wire.answers.drop 1 := rfl
  constructor
  · rw [hAnswers, List.length_drop]
    exact Nat.le_sub_one_of_lt h.enough
  · intro answer hIn
    rw [hAnswers, List.take_drop] at hIn
    exact h.transient answer (Nat.add_comm 1 count ▸ List.mem_of_mem_drop hIn)

theorem breaker_failed {failures : List Time} (h : wire.breaker = .afterFailures failures)
    (request : Request) : (wire.failed request).breaker =
      .afterFailures (failures ++ [(wire.failed request).now]) := by
  rw [Breaker.afterFailures_concat, ← h]
  rfl

/-- The network at the next attempt, after one that failed. -/
def next (wire : Wire) (request : Request) (made : Nat) : Wire :=
  (wire.failed request).wait (waitAfter .usual made)

theorem Counts.next (h : wire.Counts) (request : Request) (made : Nat) :
    (wire.next request made).Counts := by
  obtain ⟨failures, hBreaker⟩ := h
  exact ⟨_, breaker_failed hBreaker request⟩

theorem pause_next (request : Request) (made failed : Nat) :
    (wire.next request (made + 1)).pause (made + 1) (failed + 1) =
      wire.pause made (failed + 2) := by
  have hDelays : (wire.next request (made + 1)).delays = (wire.delays.drop 1).drop 1 := rfl
  have hIndex : 1 + (1 + (2 * (failed + 1) - 1)) = 2 * (failed + 2) - 1 := by omega
  have hMade : made + 1 + (failed + 1) = made + (failed + 2) := by omega
  rw [pause, pause, hDelays, List.getElem?_drop, List.getElem?_drop, hIndex, hMade]

theorem pause_lt_of_undelayed (h : wire.delays = []) (made failed : Nat) :
    wire.pause made failed < Breaker.recovery := by
  have hWait : waitAfter .usual (made + failed) < 60 :=
    Nat.lt_of_le_of_lt (waitAfter_usual_le _) (by decide)
  have hCast : (waitAfter .usual (made + failed) : Time) < (60 : Nat) := Nat.cast_lt.mpr hWait
  rw [pause, h, List.getElem?_nil, Option.getD_none, zero_add]
  exact hCast

/-- The breaker lets the next attempt through like one that comes after one more failure. -/
theorem admitsAfter_next (h : wire.Counts) (request : Request) (made failed : Nat) :
    (wire.next request (made + 1)).admitsAfter (made + 1) failed =
      wire.admitsAfter made (failed + 1) := by
  obtain ⟨failures, hBreaker⟩ := h
  have hNext : (wire.next request (made + 1)).breaker =
      .afterFailures (failures ++ [(wire.failed request).now]) := breaker_failed hBreaker request
  have hCount : (wire.next request (made + 1)).breaker.failures = failures.length + 1 := by
    rw [hNext, Breaker.failures_afterFailures, List.length_append, List.length_singleton]
  have hBefore : wire.breaker.failures = failures.length := by
    rw [hBreaker, Breaker.failures_afterFailures]
  cases failed with
  | succ failed =>
      rw [admitsAfter, admitsAfter, pause_next, hCount, hBefore, Nat.add_assoc, Nat.add_comm 1]
  | zero =>
      have hPause : (wire.next request (made + 1)).now - (wire.failed request).now =
          wire.pause made 1 := by
        have hNow : (wire.next request (made + 1)).now =
            (wire.failed request).now + (wire.delays.drop 1).headD 0 +
              (waitAfter .usual (made + 1) : Time) := rfl
        rw [hNow, pause, add_assoc, add_sub_cancel_left, List.headD_eq_head?_getD, List.head?_drop]
      rw [admitsAfter, admitsAfter, hBefore, ← hPause, hNext]
      by_cases hFew : failures.length + 1 < Breaker.threshold
      · have hClosed := Breaker.isBreaker.closed (failures ++ [(wire.failed request).now])
          (by simpa using hFew) (wire.next request (made + 1)).now
        rw [decide_eq_true hFew, Bool.true_or]
        exact hClosed
      · have hOpened := Breaker.isBreaker.opened failures (wire.failed request).now
          (wire.next request (made + 1)).now (Nat.not_lt.mp hFew)
        rw [decide_eq_false hFew, Bool.false_or, Bool.eq_iff_iff, decide_eq_true_iff]
        exact hOpened

/-- As long as no pause is as long as the breaker stays open, it lets through as many attempts as
there is room for. -/
theorem admitsAfter_iff_lt_room (h : wire.Counts) {made failed : Nat}
    (hShort : 0 < failed → wire.pause made failed < Breaker.recovery) :
    wire.admitsAfter made failed = true ↔ failed < wire.room := by
  obtain ⟨failures, hBreaker⟩ := h
  have hCount : wire.breaker.failures = failures.length := by
    rw [hBreaker, Breaker.failures_afterFailures]
  have hLater (failed : Nat) (hPause : wire.pause made (failed + 1) < Breaker.recovery) :
      wire.admitsAfter made (failed + 1) = true ↔
        failures.length + (failed + 1) < Breaker.threshold := by
    rw [admitsAfter, hCount, decide_eq_false (not_le.mpr hPause), Bool.or_false, decide_eq_true_iff]
  rw [room, hBreaker]
  obtain hFew | hMany := Nat.lt_or_ge failures.length Breaker.threshold
  · rw [Breaker.room_of_few hFew]
    cases failed with
    | zero =>
        have hAdmits : wire.admitsAfter made 0 = true := by
          rw [admitsAfter, hBreaker]
          exact Breaker.isBreaker.closed failures hFew wire.now
        exact iff_of_true hAdmits (Nat.sub_pos_of_lt hFew)
    | succ failed =>
        rw [hLater failed (hShort (Nat.succ_pos failed))]
        omega
  · obtain rfl | ⟨earlier, last, rfl⟩ := failures.eq_nil_or_concat'
    · exact absurd hMany (by decide)
    · rw [List.length_append, List.length_singleton] at hMany hLater
      rw [Breaker.room_of_many hMany]
      cases failed with
      | zero =>
          have hOpened := Breaker.isBreaker.opened earlier last wire.now hMany
          rw [admitsAfter, hBreaker]
          refine hOpened.trans ?_
          split <;> simp [*]
      | succ failed =>
          rw [hLater failed (hShort (Nat.succ_pos failed))]
          refine iff_of_false (by omega) ?_
          split <;> simp

/-- An attempt and those that may follow it. The induction is on the attempts that are left: what
the breaker lets through after an attempt that fails is what it lets through after one more
failure. -/
theorem exhausts_attempt (hCounts : wire.Counts) (left made : Nat)
    (hFails : wire.Fails (left + 1) request.url) :
    ∃ sent, Exhausts request made (left + 1) wire
      (retry (.ok request) left (made + 1) (wire.attempt (.ok request)).1
        (wire.attempt (.ok request)).2) sent := by
  induction left generalizing wire made with
  | zero =>
      cases hAdmits : wire.breaker.admits wire.now with
      | false =>
          rw [attempt_of_not_admits _ hAdmits]
          exact ⟨0, Nat.zero_le _, nofun, by simp [retry], nofun, fun _ => ⟨hAdmits, rfl⟩⟩
      | true =>
          obtain ⟨message, hAttempt⟩ := hFails.attempt_eq hAdmits
          rw [hAttempt]
          refine ⟨1, le_rfl, fun failed hFirst => ?_, rfl, fun _ => ⟨message, rfl⟩,
            fun hNone => absurd hNone (Nat.lt_irrefl 1)⟩
          obtain rfl := Nat.lt_one_iff.mp hFirst
          exact hAdmits
  | succ left ih =>
      cases hAdmits : wire.breaker.admits wire.now with
      | false =>
          rw [attempt_of_not_admits _ hAdmits, (isRetrying _).final _ _ _ rfl]
          exact ⟨0, Nat.zero_le _, nofun, by simp, nofun, fun _ => ⟨hAdmits, rfl⟩⟩
      | true =>
          obtain ⟨message, hAttempt⟩ := hFails.attempt_eq hAdmits
          obtain ⟨sent, hNext⟩ := @ih (wire.next request (made + 1)) (hCounts.next request _)
            (made + 1) ⟨(hFails.failed request).enough, (hFails.failed request).transient⟩
          rw [hAttempt, (isRetrying _).again _ _ _ rfl]
          refine ⟨sent + 1, Nat.succ_le_succ hNext.le, fun failed hBefore => ?_, ?_,
            fun hAll => hNext.transient (Nat.succ.inj hAll), fun hSome => ?_⟩
          · cases failed with
            | zero => exact hAdmits
            | succ failed =>
                rw [← admitsAfter_next hCounts request]
                exact hNext.admitted failed (Nat.lt_of_succ_lt_succ hBefore)
          · have hSent : (wire.next request (made + 1)).requests = wire.requests ++ [request] := rfl
            refine hNext.requests.trans ?_
            rw [hSent, List.replicate_succ, List.append_assoc, List.singleton_append]
          · rw [← admitsAfter_next hCounts request]
            exact hNext.rejected (Nat.lt_of_succ_lt_succ hSome)

theorem exhausts_send (hCounts : wire.Counts) {maxAttempts : Int} (hMax : 1 ≤ maxAttempts)
    (hFails : wire.Fails maxAttempts.toNat request.url) :
    ∃ sent,
      Exhausts request 0 maxAttempts.toNat wire (wire.send maxAttempts (.ok request)) sent := by
  have hCount : maxAttempts.toNat - 1 + 1 = maxAttempts.toNat := by omega
  obtain ⟨sent, hAll⟩ := exhausts_attempt hCounts (maxAttempts.toNat - 1) 0 (hCount ▸ hFails)
  rw [hCount] at hAll
  exact ⟨sent, hAll⟩

/-- As long as no wait leads past the time for which the breaker stays open, as many attempts are
sent as there is room for. -/
theorem Exhausts.sent_eq {attempts sent : Nat} {result : Wire × Except SendError Value}
    (h : Exhausts request 0 attempts wire result sent) (hCounts : wire.Counts)
    (hShort : ∀ failed, 0 < failed → failed < attempts → wire.pause 0 failed < Breaker.recovery) :
    sent = min attempts wire.room := by
  have hRoom {failed : Nat} (hBefore : failed < attempts) :
      wire.admitsAfter 0 failed = true ↔ failed < wire.room :=
    admitsAfter_iff_lt_room hCounts fun hSome => hShort failed hSome hBefore
  have hLe := h.le
  have hUpper : sent ≤ wire.room := by
    cases hSent : sent with
    | zero => exact Nat.zero_le _
    | succ failed =>
        exact (hRoom (by omega)).mp (h.admitted failed (by omega))
  obtain hFew | hAll := Nat.lt_or_ge sent attempts
  · have hStop := (h.rejected hFew).1
    have hNone : ¬sent < wire.room := fun hMore =>
      Bool.false_ne_true (hStop.symm.trans ((hRoom hFew).mpr hMore))
    omega
  · omega

end Attempts

end Wire

namespace Client

/-- Whatever requests were made before and however long everything takes, a request that meets
nothing but failures which may pass is sent as often as the client has attempts that the breaker
lets through one after the other. It fails like its last attempt if these are all, and because of
the breaker otherwise. So it is sent exactly as often as the client has attempts, and then fails in
a way that may pass, exactly if all of them are let through. As long as no wait leads past the time
for which the breaker stays open, these are the attempts for which it has room at the beginning. -/
theorem place_exhausts {client : Client} {wire : Wire} {order : Order} {request : Request}
    (hMax : 1 ≤ client.maxAttempts) (hWire : wire.Reached)
    (hRequest : client.request order = .ok request)
    (hFails : wire.Fails client.maxAttempts.toNat request.url) :
    ∃ sent, Wire.Exhausts request 0 client.maxAttempts.toNat wire (client.place wire order) sent ∧
      ((client.place wire order).1.requests =
          wire.requests ++ List.replicate client.maxAttempts.toNat request ∧
        (∃ message, (client.place wire order).2 = .error (.retryable message)) ↔
        ∀ failed < client.maxAttempts.toNat, wire.admitsAfter 0 failed = true) ∧
      ((∀ failed, 0 < failed → failed < client.maxAttempts.toNat →
          wire.pause 0 failed < Breaker.recovery) →
        sent = min client.maxAttempts.toNat wire.room) := by
  obtain ⟨sent, hAll⟩ : ∃ sent, Wire.Exhausts request 0 client.maxAttempts.toNat wire
      (client.place wire order) sent := by
    rw [place, hRequest]
    exact Wire.exhausts_send hWire.counts hMax hFails
  refine ⟨sent, hAll, ⟨fun hBoth => ?_, fun hAdmitted => ?_⟩, hAll.sent_eq hWire.counts⟩
  · have hCount := congrArg List.length (List.append_cancel_left (hAll.requests.symm.trans hBoth.1))
    rw [List.length_replicate, List.length_replicate] at hCount
    exact fun failed hBefore => hAll.admitted failed (hCount ▸ hBefore)
  · have hSent : sent = client.maxAttempts.toNat := by
      refine Nat.le_antisymm hAll.le (Nat.le_of_not_lt fun hSome => ?_)
      exact Bool.false_ne_true ((hAll.rejected hSome).1.symm.trans (hAdmitted sent hSome))
    exact ⟨hSent ▸ hAll.requests, hAll.transient hSent⟩

/-- A client of the default tailnet at the usual place, with some attempts. -/
def usualClient (maxAttempts : Int) : Client :=
  { apiKey := none, tailnet := "-", baseUrl := defaultBaseUrl, timeout := .int 30, maxAttempts }

/-- The answer of a control plane that is out of service. -/
def unavailable : Answer := .response ⟨503, [], ""⟩

/-- While the control plane is out of service every attempt to switch on the name service fails in a
way that may pass. -/
theorem exists_request_unavailable (maxAttempts : Int) :
    ∃ request, (usualClient maxAttempts).request
        ((usualClient maxAttempts).setDnsPreferences (.bool true)) = .ok request ∧
      ∀ count, (Wire.ofAnswers (List.replicate count unavailable)).Fails count request.url := by
  have hReady : (usualClient maxAttempts).Ready :=
    ready_of_default rfl nofun (by decide +kernel : ∀ suffix ∈ suffixes,
      (defaultBaseUrl ++ (usualClient 0).path suffix).toList.length ≤ Url.maxLength)
  obtain ⟨url, hReaches⟩ := hReady.reaches "dns/preferences" (by decide)
  let order := (usualClient maxAttempts).setDnsPreferences (.bool true)
  have hPath : (usualClient maxAttempts).Reaches order.path url := hReaches
  obtain ⟨headers, hRequest⟩ := request_eq hReady hPath rfl rfl
  refine ⟨_, hRequest, fun count => ⟨?_, fun answer hIn => ?_⟩⟩
  · exact (List.length_replicate).ge
  · rw [List.eq_of_mem_replicate (List.mem_of_mem_take hIn)]
    exact Answer.isTransient_response hReaches.isFull rfl

/-- Six attempts while the control plane is out of service, if no time passes but that which is
waited for: five of them open the breaker, and the sixth is rejected. -/
theorem exhausts_unavailable :
    ∃ request, (Wire.ofAnswers (List.replicate 6 unavailable)).Reached ∧
      (usualClient 6).request ((usualClient 6).setDnsPreferences (.bool true)) = .ok request ∧
      (Wire.ofAnswers (List.replicate 6 unavailable)).Fails 6 request.url ∧
      Wire.Exhausts request 0 6 (.ofAnswers (List.replicate 6 unavailable))
        ((usualClient 6).place (.ofAnswers (List.replicate 6 unavailable))
          ((usualClient 6).setDnsPreferences (.bool true))) 5 := by
  obtain ⟨request, hRequest, hFails⟩ := exists_request_unavailable 6
  have hReached : (Wire.ofAnswers (List.replicate 6 unavailable)).Reached := .start _ []
  refine ⟨request, hReached, hRequest, hFails 6, ?_⟩
  obtain ⟨sent, hAll⟩ := Wire.exhausts_send hReached.counts (by decide : (1 : Int) ≤ 6) (hFails 6)
  obtain rfl : sent = 5 :=
    hAll.sent_eq hReached.counts fun failed _ _ => Wire.pause_lt_of_undelayed rfl 0 failed
  rw [place, hRequest]
  exact hAll

theorem place_exhausts_unavailable :
    ∃ request, 1 ≤ (usualClient 3).maxAttempts ∧
      (Wire.ofAnswers (List.replicate 3 unavailable)).Reached ∧
      (usualClient 3).request ((usualClient 3).setDnsPreferences (.bool true)) = .ok request ∧
      (Wire.ofAnswers (List.replicate 3 unavailable)).Fails 3 request.url ∧
      ((usualClient 3).place (.ofAnswers (List.replicate 3 unavailable))
        ((usualClient 3).setDnsPreferences (.bool true))).1.requests =
          List.replicate 3 request := by
  obtain ⟨request, hRequest, hFails⟩ := exists_request_unavailable 3
  have hReached : (Wire.ofAnswers (List.replicate 3 unavailable)).Reached := .start _ []
  refine ⟨request, by decide, hReached, hRequest, hFails 3, ?_⟩
  obtain ⟨sent, hAll, -, hRoom⟩ := place_exhausts (by decide) hReached hRequest (hFails 3)
  obtain rfl : sent = 3 := hRoom fun failed _ _ => Wire.pause_lt_of_undelayed rfl 0 failed
  exact hAll.requests

/-- A client with six attempts makes five of them: they open the breaker. -/
theorem exists_attempt_rejected :
    ∃ request, 1 ≤ (usualClient 6).maxAttempts ∧
      (Wire.ofAnswers (List.replicate 6 unavailable)).Reached ∧
      (usualClient 6).request ((usualClient 6).setDnsPreferences (.bool true)) = .ok request ∧
      (Wire.ofAnswers (List.replicate 6 unavailable)).Fails 6 request.url ∧
      ((usualClient 6).place (.ofAnswers (List.replicate 6 unavailable))
        ((usualClient 6).setDnsPreferences (.bool true))).1.requests.length = 5 ∧
      ((usualClient 6).place (.ofAnswers (List.replicate 6 unavailable))
        ((usualClient 6).setDnsPreferences (.bool true))).2 = .error .breakerOpen := by
  obtain ⟨request, hReached, hRequest, hFails, hAll⟩ := exhausts_unavailable
  refine ⟨request, by decide, hReached, hRequest, hFails, ?_, (hAll.rejected (by decide)).2⟩
  exact congrArg List.length hAll.requests

end Client

end Tailnet.Http
