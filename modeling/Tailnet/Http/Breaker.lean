/-!
A circuit breaker: after five failures in a row it lets no attempt through for a minute. Then one
attempt is let through, and its outcome decides.
-/

namespace Tailnet.Http

/-- Points in time, in seconds. -/
abbrev Time := Rat

/-- Failures in a row, and when the breaker was opened, if it was. -/
structure Breaker where
  failures : Nat
  openedAt : Option Time
deriving DecidableEq, Repr

/-- What a breaker does with attempts: let all through, none, or one on trial. -/
inductive BreakerState where
  | closed
  | open
  | halfOpen
deriving DecidableEq, Repr

def BreakerState.name : BreakerState → String
  | closed => "closed"
  | .open => "open"
  | halfOpen => "half_open"

namespace Breaker

/-- The failures in a row that open a breaker. -/
def threshold : Nat := 5

/-- The seconds for which an open breaker lets nothing through. -/
def recovery : Time := 60

def fresh : Breaker := ⟨0, none⟩

def state (breaker : Breaker) (now : Time) : BreakerState :=
  match breaker.openedAt with
  | none => .closed
  | some opened => if now - opened < recovery then .open else .halfOpen

def admits (breaker : Breaker) (now : Time) : Bool := breaker.state now != .open

def afterFailure (breaker : Breaker) (now : Time) : Breaker :=
  let failures := breaker.failures + 1
  ⟨failures, if threshold ≤ failures then some now else breaker.openedAt⟩

/-- The breaker after an attempt that was no failure, or none that counts. -/
def afterSuccess : Breaker := fresh

end Breaker

end Tailnet.Http
