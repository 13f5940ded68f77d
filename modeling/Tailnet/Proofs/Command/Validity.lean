import Tailnet.Command.Run
import Tailnet.Proofs.Plan.Application
import Tailnet.Proofs.Source.Sections

/-!
Valid policies. Every source that can be read is compiled to a document, to violations, or refused
for a reason that is reported, unless nothing is wrong with it but that there are surrogates in it.
-/

namespace Tailnet

namespace Source

/-- A policy that compiles without violations. -/
def IsValid (source : Source) : Prop := ∃ document, source.Publishes true document

/-- A policy of which there is nothing to warn. -/
def IsUnwarned (source : Source) : Prop :=
  ∀ compilation, source.compile true (some 2) = .ok compilation →
    compilation.validation.warnings = []

/-- What becomes of a source when it is compiled: a document, violations, a refusal for a reason
that is reported, or one because there are surrogates in the document. -/
inductive Compiles (source : Source) : Prop where
  | valid {compilation : Compilation} {document : String}
      (hCompile : source.compile true (some 2) = .ok compilation)
      (hSucceeded : compilation.succeeded = true) (hOutput : compilation.output = some document)
      (hPublishes : source.Publishes true document)
  | violated {compilation : Compilation}
      (hCompile : source.compile true (some 2) = .ok compilation)
      (hSucceeded : compilation.succeeded = false) (hInvalid : ¬source.IsValid)
  | refused {cause : CompileError} {report : Report}
      (hCompile : source.compile true (some 2) = .error cause)
      (hReport : cause.report? = some report) (hInvalid : ¬source.IsValid)
      (hEncodable : ¬source.Unencodable)
  | unencodable {cause : CompileError}
      (hCompile : source.compile true (some 2) = .error cause)
      (hReport : cause.report? = none) (hUnencodable : source.Unencodable)

theorem compiles (source : Source) : source.Compiles := by
  have hMeets := source.compile_meets true (some 2)
  cases hCompile : source.compile true (some 2) with
  | error cause =>
      have hInvalid : ¬source.IsValid := by
        rintro ⟨_, compilation, hOk, -⟩
        cases hCompile.symm.trans hOk
      rw [hCompile] at hMeets
      cases hMeets with
      | error hWrong =>
          rcases hWrong with ⟨⟨report, hReport⟩, hEncodable⟩ | ⟨⟨text, rfl⟩, hUnencodable⟩
          · exact .refused hCompile hReport hInvalid hEncodable
          · exact .unencodable hCompile rfl hUnencodable
  | ok compilation =>
      rw [hCompile] at hMeets
      cases hMeets with
      | ok hMeets =>
          obtain ⟨-, hOutput, -⟩ := hMeets
          by_cases hViolations : compilation.validation.violations = []
          · obtain ⟨document, hDocument⟩ := hOutput.mp hViolations
            refine .valid hCompile ?_ hDocument ⟨compilation, hCompile, hViolations, hDocument⟩
            simp [Compilation.succeeded, Validation.isValid, hViolations, hDocument]
          · refine .violated hCompile ?_ ?_
            · simp [Compilation.succeeded, Validation.isValid, hViolations]
            · rintro ⟨_, other, hOther, hNone, -⟩
              obtain rfl := Except.ok.inj (hCompile.symm.trans hOther)
              exact hViolations hNone

variable {source : Source}

theorem isUnwarned_iff {compilation : Compilation}
    (h : source.compile true (some 2) = .ok compilation) :
    source.IsUnwarned ↔ compilation.validation.warnings = [] := by
  refine ⟨fun hNone => hNone compilation h, fun hNone other hOther => ?_⟩
  obtain rfl := Except.ok.inj (h.symm.trans hOther)
  exact hNone

theorem isValid_of_unblocked (h : ¬source.Blocked true) : source.IsValid := by
  rcases source.blocked_or_publishes "" true with ⟨hBlocked, -⟩ | ⟨-, -, hDocument⟩
  · exact absurd hBlocked h
  · obtain ⟨document, hPublishes, -⟩ := hDocument
    exact ⟨document, hPublishes⟩

/-- A policy with nothing but surrogates to object to is refused for a reason that is not
reported. -/
theorem Unencodable.exists_unreported (h : source.Unencodable) :
    ∃ cause, source.compile true (some 2) = .error cause ∧ cause.report? = none := by
  obtain ⟨text, hText⟩ := (source.compile_eq_unencodable_iff true (some 2)).mpr h
  exact ⟨_, hText, rfl⟩

theorem IsValid.encodable (h : source.IsValid) : ¬source.Unencodable := by
  obtain ⟨document, compilation, hCompile, -⟩ := h
  exact not_unencodable_of_compile hCompile

theorem Publishes.unique {first second : String} (h : source.Publishes true first)
    (hOther : source.Publishes true second) : first = second := by
  obtain ⟨compilation, hCompile, -, hFirst⟩ := h
  obtain ⟨other, hCompileOther, -, hSecond⟩ := hOther
  obtain rfl := Except.ok.inj (hCompile.symm.trans hCompileOther)
  exact Option.some.inj (hFirst.symm.trans hSecond)

end Source

section Machine

variable {machine : Machine} {file : String} {environment : Option String} {source : Source}

theorem compilation_of_ok (h : machine.source file environment = .ok source)
    {compilation : Compilation} (hCompile : source.compile true (some 2) = .ok compilation) :
    machine.compilation file environment = .ok (source, compilation) := by
  rw [Machine.compilation, h, ok_bind, hCompile]
  rfl

theorem compilation_of_error (h : machine.source file environment = .ok source)
    {cause : CompileError} {report : Report}
    (hCompile : source.compile true (some 2) = .error cause)
    (hReport : cause.report? = some report) :
    machine.compilation file environment = .error (.reported report.text) := by
  have hObstacle : Obstacle.ofCompile cause = .reported report.text := by
    rw [Obstacle.ofCompile, hReport]
  rw [Machine.compilation, h, ok_bind, hCompile, Except.mapError, hObstacle]
  rfl

theorem compilation_of_unreported (h : machine.source file environment = .ok source)
    {cause : CompileError} (hCompile : source.compile true (some 2) = .error cause)
    (hReport : cause.report? = none) :
    machine.compilation file environment = .error (.abort (.compile cause)) := by
  have hObstacle : Obstacle.ofCompile cause = .abort (.compile cause) := by
    rw [Obstacle.ofCompile, hReport]
  rw [Machine.compilation, h, ok_bind, hCompile, Except.mapError, hObstacle]
  rfl

namespace Command

variable (settings : Settings) (format : ReportFormat)

/-- A source with a plan is planned by reporting it. -/
theorem runPlan_of_encodable (h : machine.source file environment = .ok source)
    (hEncodable : ¬source.Unencodable) :
    runPlan settings machine file environment format =
      let plan := source.draft settings.tailnet true
      match format with
      | .json => reportJson machine plan.toValue (statusOf plan.succeeded)
      | .text => reportPage machine (Summary.ofPlan plan) (statusOf plan.succeeded) := by
  have hPlan := (source.plan_eq_ok_iff settings.tailnet true).mpr ⟨rfl, hEncodable⟩
  unfold runPlan
  rewrite [h]
  dsimp only
  rewrite [hPlan]
  cases format with
  | json => rfl
  | text => rfl

theorem runPlan_of_unencodable (h : machine.source file environment = .ok source)
    (hUnencodable : source.Unencodable) :
    ∃ abort, runPlan settings machine file environment format = machine.breaks [] abort := by
  obtain ⟨text, hPlan⟩ := source.plan_eq_unencodable settings.tailnet true hUnencodable
  unfold runPlan
  rw [h]
  dsimp only
  rw [hPlan]
  exact ⟨_, rfl⟩

/-- A source with a plan is applied by reporting the outcome of that. -/
theorem runApply_of_encodable (h : machine.source file environment = .ok source)
    (hEncodable : ¬source.Unencodable) :
    runApply settings machine file environment true format =
      let client := { settings.client with halves := machine.halves }
      let (wire, outcome) := (source.draft settings.tailnet true).apply client.controlPlane
        machine.wire true
      let left := { machine with wire }
      match format with
      | .json => reportJson left (outcome.toValue left.seconds) (statusOf outcome.succeeded)
      | .text =>
        reportPage left (Summary.ofOutcome outcome left.seconds) (statusOf outcome.succeeded) := by
  have hPlan := (source.plan_eq_ok_iff settings.tailnet true).mpr ⟨rfl, hEncodable⟩
  unfold runApply
  rewrite [h]
  dsimp only
  rewrite [hPlan]
  cases format with
  | json => rfl
  | text => rfl

theorem runApply_of_unencodable (h : machine.source file environment = .ok source)
    (hUnencodable : source.Unencodable) :
    ∃ abort, runApply settings machine file environment true format = machine.breaks [] abort := by
  obtain ⟨text, hPlan⟩ := source.plan_eq_unencodable settings.tailnet true hUnencodable
  unfold runApply
  rw [h]
  dsimp only
  rw [hPlan]
  exact ⟨_, rfl⟩

end Command

/-- The source in a file has the surrogates of the machine. -/
theorem halves_of_source (h : machine.source file environment = .ok source) :
    source.halves = machine.halves := by
  rw [Machine.source, mapError_eq_ok_iff] at h
  unfold Source.load at h
  obtain ⟨data, -, h⟩ := bind_eq_ok_iff.mp h
  dsimp only at h
  split at h
  all_goals
    obtain ⟨merged, -, h⟩ := bind_eq_ok_iff.mp h
    exact (Source.read_eq_ok_iff.mp (mapError_eq_ok_iff.mp h)).halves

end Machine

end Tailnet
