import Tailnet.Command.Run
import Tailnet.Proofs.Terminal.Page

/-!
How commands end. A command breaks off if something on its page cannot be shown or is not taken by
the terminal, and otherwise it ends as its course says.
-/

namespace Tailnet

open Terminal

/-- The status with which the program ends, unless it is broken off. -/
def Ending.status? : Ending → Option Nat
  | .usage status => some status
  | .finished _ status _ => some status
  | .aborted _ => none

/-- What a status says of whether something holds. -/
inductive Signals (verdict : Prop) : Nat → Prop where
  | holds (h : verdict) : Signals verdict 0
  | fails (h : ¬verdict) : Signals verdict 1

namespace Course

/-- A command tells whether something holds: it ends with 0 if it does and with 1 if not, provided
that all it says can be said. It is broken off otherwise. -/
structure Tells (course : Course) (sayable verdict : Prop) : Prop where
  zero_iff : course.ending.status? = some 0 ↔ sayable ∧ verdict
  one_iff : course.ending.status? = some 1 ↔ sayable ∧ ¬verdict
  none_iff : course.ending.status? = none ↔ ¬sayable

theorem Tells.of_iff {course : Course} {sayable other verdict : Prop}
    (h : course.Tells sayable verdict) (hIff : sayable ↔ other) : course.Tells other verdict := by
  rwa [hIff] at h

theorem Tells.of_none {course : Course} {sayable verdict : Prop}
    (hNone : course.ending.status? = none) (h : ¬sayable) : course.Tells sayable verdict := by
  constructor
  · simp [hNone, h]
  · simp [hNone, h]
  · simp [hNone, h]

/-- What keeps a command from its end keeps it from telling anything. -/
theorem Tells.guarded {course : Course} {free sayable verdict : Prop}
    (hFree : free → course.Tells sayable verdict) (hStuck : ¬free → course.ending.status? = none) :
    course.Tells (free ∧ sayable) verdict := by
  by_cases h : free
  · exact (hFree h).of_iff (and_iff_right h).symm
  · exact .of_none (hStuck h) fun hSayable => h hSayable.1

end Course

namespace Machine

/-- Whether a page gets on the terminal: all of it can be shown, and the terminal takes what it
shows. -/
def Shows (machine : Machine) (page : Page) : Prop :=
  ∃ screen, page.render = .ok screen ∧ machine.prints screen.out = true

theorem Shows.isLegible {machine : Machine} {page : Page} (h : machine.Shows page) :
    page.IsLegible := by
  obtain ⟨screen, hScreen, -⟩ := h
  exact page.exists_render_iff.mp ⟨screen, hScreen⟩

/-- What can be shown gets on a terminal that takes every text, and without surrogates on any. -/
theorem shows_iff (machine : Machine) {page : Page} {screen : Screen}
    (h : page.render = .ok screen) :
    machine.Shows page ↔
      machine.isStrict = false ∨ machine.halves.areAbsent screen.out.toList = true := by
  have hPrints : machine.prints screen.out = true ↔
      machine.isStrict = false ∨ machine.halves.areAbsent screen.out.toList = true := by
    rw [prints, Bool.or_eq_true, Bool.not_eq_true']
  rw [← hPrints]
  refine ⟨?_, fun hTaken => ⟨screen, h, hTaken⟩⟩
  rintro ⟨other, hOther, hTaken⟩
  obtain rfl := Except.ok.inj (h.symm.trans hOther)
  exact hTaken

/-- A text that has bytes is shown as it is. -/
theorem shows_verbatim {machine : Machine} {text : String}
    (h : machine.halves.areAbsent text.toList = true) : machine.Shows [.verbatim text] := by
  have hRender : Page.render [.verbatim text] = .ok ⟨"" ++ text, ""⟩ := rfl
  rw [machine.shows_iff hRender, String.empty_append]
  exact .inr h

end Machine

section Endings

variable (machine : Machine) {page : Page} {sayable verdict : Prop}

/-- What a page on the terminal leads to, or one that does not get there. -/
theorem ending_cases (page : Page) (status : Except Abort Nat) :
    (∃ screen, page.render = .ok screen ∧ machine.prints screen.out = true ∧
      (⟨page, machine, status⟩ : Course).ending = match status with
        | .error cause => .aborted cause
        | .ok status => .finished screen status machine) ∨
    ¬machine.Shows page ∧ ∃ cause, (⟨page, machine, status⟩ : Course).ending = .aborted cause := by
  unfold Course.ending
  dsimp only
  cases hRender : page.render with
  | error cause =>
      refine .inr ⟨?_, _, rfl⟩
      rintro ⟨screen, hScreen, -⟩
      cases hRender.symm.trans hScreen
  | ok screen =>
      cases hPrints : machine.prints screen.out with
      | true =>
          refine .inl ⟨screen, rfl, hPrints, ?_⟩
          cases status with
          | error cause => simp only [hPrints, Bool.not_true, Bool.false_eq_true, if_false]
          | ok status => simp only [hPrints, Bool.not_true, Bool.false_eq_true, if_false]
      | false =>
          refine .inr ⟨?_, .unprintable screen.out, ?_⟩
          · rintro ⟨other, hOther, hTaken⟩
            obtain rfl := Except.ok.inj (hRender.symm.trans hOther)
            cases hPrints.symm.trans hTaken
          · dsimp only
            rw [hPrints, Bool.not_false, if_pos rfl]

theorem status?_ends (page : Page) (status n : Nat) :
    (machine.ends page status).ending.status? = some n ↔ machine.Shows page ∧ n = status := by
  rcases ending_cases machine page (.ok status) with
    ⟨screen, hScreen, hPrints, hEnding⟩ | ⟨hNot, cause, hEnding⟩
  · have hShows : machine.Shows page := ⟨screen, hScreen, hPrints⟩
    rw [Machine.ends, hEnding, Ending.status?, and_iff_right hShows, Option.some.injEq, eq_comm]
  · rw [Machine.ends, hEnding]
    exact iff_of_false nofun fun h => hNot h.1

theorem status?_ends_eq_none_iff (page : Page) (status : Nat) :
    (machine.ends page status).ending.status? = none ↔ ¬machine.Shows page := by
  rcases ending_cases machine page (.ok status) with
    ⟨screen, hScreen, hPrints, hEnding⟩ | ⟨hNot, cause, hEnding⟩
  · rw [Machine.ends, hEnding]
    exact iff_of_false nofun fun h => h ⟨screen, hScreen, hPrints⟩
  · rw [Machine.ends, hEnding]
    exact iff_of_true rfl hNot

theorem status?_breaks (page : Page) (abort : Abort) :
    (machine.breaks page abort).ending.status? = none := by
  rcases ending_cases machine page (.error abort) with ⟨_, -, -, hEnding⟩ | ⟨-, _, hEnding⟩
  all_goals
    rw [Machine.breaks, hEnding]
    rfl

theorem ending_breaks_ne (page : Page) (abort : Abort) (screen : Screen) (status : Nat)
    (left : Machine) : (machine.breaks page abort).ending ≠ .finished screen status left := by
  intro h
  have hNone := status?_breaks machine page abort
  rw [h] at hNone
  cases hNone

theorem eq_of_ending_ends {screen : Screen} {status ended : Nat} {left : Machine}
    (h : (machine.ends page status).ending = .finished screen ended left) :
    page.render = .ok screen ∧ status = ended ∧ machine = left := by
  rcases ending_cases machine page (.ok status) with
    ⟨shown, hScreen, hPrints, hEnding⟩ | ⟨-, cause, hEnding⟩
  · obtain ⟨rfl, rfl, rfl⟩ := Ending.finished.inj (hEnding.symm.trans h)
    exact ⟨hScreen, rfl, rfl⟩
  · cases hEnding.symm.trans h

theorem tells_ends {status : Nat} (hSayable : sayable ↔ machine.Shows page)
    (hStatus : Signals verdict status) : (machine.ends page status).Tells sayable verdict := by
  cases hStatus with
  | holds hVerdict =>
      constructor
      · rw [status?_ends, hSayable]
        simp [hVerdict]
      · rw [status?_ends]
        simp [hVerdict]
      · rw [status?_ends_eq_none_iff, hSayable]
  | fails hVerdict =>
      constructor
      · rw [status?_ends]
        simp [hVerdict]
      · rw [status?_ends, hSayable]
        simp [hVerdict]
      · rw [status?_ends_eq_none_iff, hSayable]

theorem tells_breaks (page : Page) (abort : Abort) (h : ¬sayable) :
    (machine.breaks page abort).Tells sayable verdict :=
  .of_none (status?_breaks machine page abort) h

end Endings

end Tailnet
