import Tailnet.Http.Breaker
import Tailnet.Http.Status

/-!
Sending requests over a network: one attempt goes through the breaker, and attempts are repeated
with growing waits as long as they fail in a way that may pass.
-/

namespace Tailnet.Http

/-- The network as seen by all clients: the answers it will give, the breaker and the clock, what
has been sent and waited for, earliest first, and the seconds that each answer and each wait will
take beyond what was asked for, which are none if nothing is said. -/
structure Wire where
  answers : List Answer
  breaker : Breaker
  now : Time
  requests : List Request
  waits : List Nat
  delays : List Time

/-- Waits that double with each attempt, between a least and a greatest one. -/
structure Backoff where
  multiplier : Nat
  minimum : Nat
  maximum : Nat
deriving DecidableEq, Repr

def Backoff.usual : Backoff := ⟨2, 1, 30⟩

namespace Wire

/-- A network that will give some answers, and takes no time for them. -/
def ofAnswers (answers : List Answer) : Wire := ⟨answers, .fresh, 0, [], [], []⟩

/-- What a network answers that has nothing left to say: success, with an empty mapping. -/
def lastAnswer : Answer := .response ⟨200, [], "\x7b\x7d"⟩

def advance (wire : Wire) (seconds : Time) : Wire := { wire with now := wire.now + seconds }

/-- Let the time pass that the next answer or wait takes beyond what was asked for. -/
def delay (wire : Wire) : Wire :=
  { wire.advance (wire.delays.headD 0) with delays := wire.delays.drop 1 }

def wait (wire : Wire) (seconds : Nat) : Wire :=
  { wire.delay.advance seconds with waits := wire.waits ++ [seconds] }

/-- Send a request, and take the network's answer when it comes. -/
def exchange (wire : Wire) (request : Request) : Wire × Answer :=
  ({ wire.delay with
      answers := wire.answers.drop 1
      requests := wire.requests ++ [request] },
    wire.answers.headD lastAnswer)

def note {α : Type} (wire : Wire) (outcome : Except SendError α) : Wire :=
  match outcome with
  | .error (.retryable _) => { wire with breaker := wire.breaker.afterFailure wire.now }
  | _ => { wire with breaker := .afterSuccess }

/-- One attempt: nothing is sent while the breaker is open, or if the request cannot be formed. -/
def attempt (wire : Wire) (request : Except SendError Request) : Wire × Except SendError Value :=
  if !wire.breaker.admits wire.now then (wire, .error .breakerOpen)
  else
    match request with
    | .error cause => (wire.note (α := Value) (.error cause), .error cause)
    | .ok request =>
      let (wire, answer) := wire.exchange request
      let outcome := answer.result request.url
      (wire.note outcome, outcome)

def waitAfter (backoff : Backoff) (attempts : Nat) : Nat :=
  max backoff.minimum (min (backoff.multiplier * Nat.pow 2 (attempts - 1)) backoff.maximum)

/-- Attempt a request again, up to a number of times, as long as it fails in a way that may pass. -/
def retry (request : Except SendError Request) :
    (left made : Nat) → Wire → Except SendError Value → Wire × Except SendError Value
  | 0, _, wire, outcome => (wire, outcome)
  | left + 1, made, wire, outcome =>
    match outcome with
    | .error (.retryable _) =>
      let (wire, outcome) := (wire.wait (waitAfter .usual made)).attempt request
      retry request left (made + 1) wire outcome
    | _ => (wire, outcome)

/-- Send a request with at most a number of attempts; one is always made. -/
def send (wire : Wire) (maxAttempts : Int) (request : Except SendError Request) :
    Wire × Except SendError Value :=
  let (wire, outcome) := wire.attempt request
  retry request (maxAttempts.toNat - 1) 1 wire outcome

end Wire

end Tailnet.Http
