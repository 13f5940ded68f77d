import Mathlib.Algebra.Order.Ring.Rat
import Mathlib.Data.List.Induction
import Tailnet.Http.Wire

/-!
What is taken for granted of a circuit breaker and of repeated attempts, whoever makes them: the
laws of each as a structure. The breaker and the attempts that run here obey these laws, and what
becomes of requests is derived from them.
-/

namespace Tailnet.Http

/-- Whether an outcome is a failure that may pass. -/
def isTransient : Except SendError Value → Bool
  | .error cause => cause.isRetryable
  | .ok _ => false

/-- The laws of a circuit breaker that opens after a number of failures in a row, and stays open for
a time. The failures are told by the times at which they ended. -/
structure IsBreaker {β : Type} (threshold : Nat) (recovery : Time) (fresh afterSuccess : β)
    (afterFailure : β → Time → β) (admits : β → Time → Bool) : Prop where
  /-- As long as there are fewer failures in a row than that, every attempt is let through. -/
  closed : ∀ failures : List Time, failures.length < threshold → ∀ now,
    admits (failures.foldl afterFailure fresh) now = true
  /-- Once there are as many, no attempt is let through until the time has passed since the last. -/
  opened : ∀ (earlier : List Time) (last now : Time), threshold ≤ earlier.length + 1 →
    (admits ((earlier ++ [last]).foldl afterFailure fresh) now = true ↔ recovery ≤ now - last)
  /-- Any other outcome ends the row. -/
  resets : afterSuccess = fresh

/-- The laws of attempts that are repeated with waits in between, as long as they fail in a way that
may pass and more of them are allowed. What comes of the last one is what comes of all. -/
structure IsRetrying (request : Except SendError Request) (wait : Nat → Nat)
    (retry : Nat → Nat → Wire → Except SendError Value → Wire × Except SendError Value) : Prop where
  exhausted : ∀ made wire outcome, retry 0 made wire outcome = (wire, outcome)
  final : ∀ left made wire {outcome}, isTransient outcome = false →
    retry left made wire outcome = (wire, outcome)
  again : ∀ left made wire {outcome}, isTransient outcome = true →
    retry (left + 1) made wire outcome =
      retry left (made + 1) ((wire.wait (wait made)).attempt request).1
        ((wire.wait (wait made)).attempt request).2

namespace Breaker

/-- The breaker after some failures in a row. -/
def afterFailures (failures : List Time) : Breaker := failures.foldl afterFailure fresh

theorem afterFailures_concat (earlier : List Time) (last : Time) :
    afterFailures (earlier ++ [last]) = (afterFailures earlier).afterFailure last := by
  rw [afterFailures, List.foldl_append]
  rfl

theorem failures_afterFailures (failures : List Time) :
    (afterFailures failures).failures = failures.length := by
  induction failures using List.reverseRecOn with
  | nil => rfl
  | append_singleton earlier last ih =>
      rw [afterFailures_concat, List.length_append, ← ih]
      rfl

/-- A breaker has been opened by the last failure, if there were enough of them. -/
theorem openedAt_afterFailures (earlier : List Time) (last : Time) :
    (afterFailures (earlier ++ [last])).openedAt =
      if threshold ≤ earlier.length + 1 then some last else (afterFailures earlier).openedAt := by
  rw [afterFailures_concat, afterFailure, failures_afterFailures]

theorem openedAt_eq_none {failures : List Time} (h : failures.length < threshold) :
    (afterFailures failures).openedAt = none := by
  induction failures using List.reverseRecOn with
  | nil => rfl
  | append_singleton earlier last ih =>
      rw [List.length_append, List.length_singleton] at h
      rw [openedAt_afterFailures, if_neg (Nat.not_le.mpr h), ih (Nat.lt_of_succ_lt h)]

theorem admits_of_none {breaker : Breaker} (h : breaker.openedAt = none) (now : Time) :
    breaker.admits now = true := by
  rw [admits, state, h]
  rfl

theorem admits_of_some {breaker : Breaker} {opened : Time} (h : breaker.openedAt = some opened)
    (now : Time) : breaker.admits now = true ↔ recovery ≤ now - opened := by
  rw [admits, state, h]
  dsimp only
  by_cases hSoon : now - opened < recovery
  · simp [hSoon]
  · simp [hSoon, not_lt.mp hSoon]

/-- The breaker of all clients obeys the laws. -/
theorem isBreaker : IsBreaker threshold recovery fresh afterSuccess afterFailure admits where
  closed _ hFew now := admits_of_none (openedAt_eq_none hFew) now
  opened earlier last now hMany := by
    refine admits_of_some ?_ now
    exact (openedAt_afterFailures earlier last).trans (if_pos hMany)
  resets := rfl

end Breaker

namespace Wire

/-- The attempts of all clients obey the laws. -/
theorem isRetrying (request : Except SendError Request) :
    IsRetrying request (waitAfter .usual) (retry request) where
  exhausted _ _ _ := rfl
  final left made wire outcome hFinal := by
    cases left with
    | zero => rfl
    | succ left =>
        cases outcome with
        | ok => rfl
        | error cause =>
            cases cause with
            | retryable => cases hFinal
            | _ => rfl
  again left made wire outcome hAgain := by
    cases outcome with
    | ok => cases hAgain
    | error cause =>
        cases cause with
        | retryable => rfl
        | _ => cases hAgain

/-- The waits of all clients: two seconds, doubled each time, and never more than thirty. -/
theorem waitAfter_usual (made : Nat) : waitAfter .usual (made + 1) = min (2 ^ (made + 1)) 30 := by
  have hLeast : 1 ≤ min (2 * 2 ^ made) 30 :=
    le_min (Nat.mul_pos Nat.two_pos (Nat.two_pow_pos made)) (by decide)
  rw [Nat.pow_succ']
  exact max_eq_right hLeast

theorem waitAfter_usual_le (attempts : Nat) : waitAfter .usual attempts ≤ 30 :=
  max_le (by decide) (min_le_right _ _)

end Wire

end Tailnet.Http
