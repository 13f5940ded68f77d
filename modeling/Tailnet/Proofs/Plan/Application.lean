import Tailnet.Proofs.Plan.Stages
import Tailnet.Proofs.Policy.Wording

/-!
Applications of a source, one after the other and each dry or not, through any control plane.
Nothing is called unless the source is in order; then the calls of the plan are made up to the first
that fails, and the outcome tells exactly which stages were gone through. Only a source with
surrogates in its policy has no plan, and so no outcomes.
-/

namespace Tailnet

namespace Source

/-- What stands in the way of a source: it cannot be compiled, it is compiled with violations, or
the changes to the name service cannot be planned. -/
inductive Blocked (source : Source) (lint : Bool) : Prop where
  | refused (cause : CompileError) (h : source.compile lint (some 2) = .error cause)
  | violated (compilation : Compilation) (h : source.compile lint (some 2) = .ok compilation)
      (hViolated : compilation.validation.violations ≠ [])
  | dns (cause : DnsError) (h : source.tailnet.dns.plan = .error cause)

/-- A text that is published: the output of a compilation without violations. -/
def Publishes (source : Source) (lint : Bool) (document : String) : Prop :=
  ∃ compilation, source.compile lint (some 2) = .ok compilation ∧
    compilation.validation.violations = [] ∧ compilation.output = some document

/-- A text that is published has bytes. -/
theorem Publishes.areAbsent {source : Source} {lint : Bool} {document : String}
    (h : source.Publishes lint document) : source.halves.areAbsent document.toList = true := by
  obtain ⟨compilation, hCompile, -, hOutput⟩ := h
  obtain ⟨made, hMade, -, hText, -⟩ := compile_output_iff.mp ⟨hCompile, hOutput⟩
  rw [← halves_document hMade]
  exact Document.areAbsent_of_serialize hText

variable (source : Source) (tailnet : String) (lint : Bool)

/-- A source has its draft for a plan, unless there are surrogates in its policy and nothing else is
wrong with it. -/
theorem plan_eq_ok_iff {plan : Plan} :
    source.plan tailnet lint = .ok plan ↔
      plan = source.draft tailnet lint ∧ ¬source.Unencodable := by
  have hMeets := source.compile_meets lint (some 2)
  unfold Source.plan
  generalize source.compile lint (some 2) = compiled at hMeets
  cases hMeets with
  | ok hOk =>
      refine ⟨fun hPlan => ⟨(Except.ok.inj hPlan).symm, hOk.2.2⟩, ?_⟩
      rintro ⟨rfl, -⟩
      rfl
  | error hWrong =>
      rcases hWrong with ⟨⟨report, hReport⟩, hNot⟩ | ⟨⟨text, rfl⟩, hUnencodable⟩
      · simp [hReport, hNot, eq_comm]
      · refine iff_of_false (fun hPlan => by cases hPlan) ?_
        rintro ⟨-, hNot⟩
        exact hNot hUnencodable

/-- Surrogates leave a source without a plan. -/
theorem plan_eq_unencodable (h : source.Unencodable) :
    ∃ text, source.plan tailnet lint =
      .error (.encoding (.unencodable source.halves text)) := by
  obtain ⟨text, hText⟩ := (source.compile_eq_unencodable_iff lint (some 2)).mpr h
  refine ⟨text, ?_⟩
  rw [Source.plan, hText]
  rfl

/-- A source is blocked, or its draft has no errors and holds what is to be published. -/
theorem blocked_or_publishes :
    (source.Blocked lint ∧ (source.draft tailnet lint).errors ≠ []) ∨
    (¬ source.Blocked lint ∧ (source.draft tailnet lint).errors = [] ∧
      ∃ document, source.Publishes lint document ∧
        (source.draft tailnet lint).document = some document) := by
  have hMeets := source.compile_meets lint (some 2)
  cases hCompile : source.compile lint (some 2) with
  | error cause =>
      refine Or.inl ⟨.refused cause hCompile, ?_⟩
      simp [draft, hCompile]
  | ok compilation =>
      rw [hCompile] at hMeets
      obtain ⟨-, hOutput, -⟩ := hMeets
      by_cases hViolations : compilation.validation.violations = []
      · cases hDns : source.tailnet.dns.plan with
        | error cause =>
            refine Or.inl ⟨.dns cause hDns, ?_⟩
            simp [draft, hDns]
        | ok changes =>
            obtain ⟨document, hDocument⟩ := hOutput.mp hViolations
            refine Or.inr ⟨?_, ?_, document, ⟨compilation, hCompile, hViolations, hDocument⟩, ?_⟩
            · intro hBlocked
              cases hBlocked with
              | refused cause h =>
                  rw [hCompile] at h
                  cases h
              | violated other h hViolated =>
                  rw [hCompile] at h
                  cases h
                  exact hViolated hViolations
              | dns cause h =>
                  rw [hDns] at h
                  cases h
            · simp [draft, hCompile, hDns, hViolations]
            · simp [draft, hCompile, Except.toOption, hDocument]
      · refine Or.inl ⟨.violated compilation hCompile hViolations, ?_⟩
        simp [draft, hCompile, hViolations]

end Source

namespace Plan

variable {σ : Type} {plan : Plan} {document : String}

/-- Once the name service is set, all that a dry run foresees is shown. -/
theorem GoneThrough.shows_announcement {before after : Outcome} {attempts : List Attempt}
    {failure : Option String}
    (h : plan.GoneThrough document Stage.inOrder before after attempts failure)
    (hDone : after.errors = [] ∨ Stage.dns.name ∈
      (completed (plan.stageCalls document) Stage.inOrder (returnedCount attempts)).keys) :
    ∀ entry ∈ plan.announcement document, after.Shows entry := by
  have hDns : Stage.dns.name ∈
      (completed (plan.stageCalls document) Stage.inOrder (returnedCount attempts)).keys := by
    rcases hDone with hErrors | hDns
    · cases failure with
      | none =>
          rw [h.follows.returnedCount_of_none, completed_of_all]
          simp [Table.keys, Stage.inOrder]
      | some cause =>
          obtain ⟨stage, -, hFailed⟩ := h.errors_of_some cause rfl
          rw [hErrors] at hFailed
          cases hFailed
    · exact hDns
  have hAcl := acl_completed_of_dns hDns
  intro entry hEntry
  obtain ⟨stage, hStage, hAnnounced⟩ := List.mem_flatMap.mp hEntry
  cases stage with
  | acl => exact h.announced .acl hStage hAcl entry hAnnounced
  | dns => exact h.announced .dns hStage hDns entry hAnnounced
  | keys => cases hAnnounced
  | settings => cases hAnnounced

theorem outputs_foreseen (plan : Plan) (document name : String) (dryRun : Bool)
    (warnings : List String) :
    (withDnsOutputs plan.options
      (withPolicyOutput (.start name dryRun warnings) document)).outputs =
      plan.announcement document := by
  simp [withDnsOutputs, withPolicyOutput, Outcome.withOutput, Outcome.start, Table.insert,
    announcement, Stage.inOrder, announcedBy]

theorem nodup_announcement (plan : Plan) (document : String) :
    (Table.keys (plan.announcement document)).Nodup := by
  simp [announcement, Stage.inOrder, announcedBy, Table.keys]

theorem foldl_withFailure (outcome : Outcome) (title : String) (causes : List String) :
    causes.foldl (fun acc cause => acc.withFailure title cause) outcome =
      { outcome with
        errors := outcome.errors ++ causes.map fun cause => title ++ " failed: " ++ cause } := by
  induction causes generalizing outcome with
  | nil => simp
  | cons cause rest ih =>
      rw [List.foldl_cons, ih]
      simp [Outcome.withFailure]

theorem apply_of_errors (h : plan.errors ≠ []) (plane : ControlPlane σ) (state : σ)
    (dryRun : Bool) :
    plan.apply plane state dryRun =
      (state, plan.errors.foldl (fun outcome cause => outcome.withFailure "Plan" cause)
        (.start plan.name dryRun plan.warnings)) := by
  have hFailed : plan.succeeded = false := by simpa [succeeded] using h
  simp only [apply, hFailed]

theorem apply_dry (h : plan.errors = []) (hDocument : plan.document = some document)
    (plane : ControlPlane σ) (state : σ) :
    plan.apply plane state true =
      (state, withDnsOutputs plan.options
        (withPolicyOutput (.start plan.name true plan.warnings) document)) := by
  have hSucceeded : plan.succeeded = true := List.isEmpty_iff.mpr h
  simp only [apply, hSucceeded, hDocument, if_true]

theorem apply_real (h : plan.errors = []) (hDocument : plan.document = some document)
    (plane : ControlPlane σ) (state : σ) :
    plan.apply plane state false =
      Stage.inOrder.foldl (plan.runStage document plane)
        (state, .start plan.name false plan.warnings) := by
  have hSucceeded : plan.succeeded = true := List.isEmpty_iff.mpr h
  simp only [apply, hSucceeded, hDocument, Bool.false_eq_true, if_false, Stage.inOrder]

end Plan

/-- One application: whether it was dry, the calls that it attempted and what became of it. -/
structure Run where
  dryRun : Bool
  attempts : List Attempt
  outcome : Outcome

namespace Plan

variable {σ : Type} {plan : Plan} {document : String}

/-- Whether a run is what an application does in a state, watched or not. -/
structure Makes (plan : Plan) (plane : ControlPlane σ) (state : σ) (record : List Attempt)
    (run : Run) : Prop where
  plain : (plan.apply plane state run.dryRun).2 = run.outcome
  watched : plan.apply plane.watched (state, record) run.dryRun =
    (((plan.apply plane state run.dryRun).1, record ++ run.attempts), run.outcome)

/-- What a run tells of the outputs of other runs. A dry run foresees all of the announcement or
nothing, and a run that set the name service, or in which nothing failed, shows all of it. -/
structure Foretells (plan : Plan) (run : Run) : Prop where
  foreseen : run.dryRun = true → run.outcome.outputs = [] ∨
    ∃ document, plan.document = some document ∧
      run.outcome.outputs = plan.announcement document
  shown : run.outcome.errors = [] ∨ Stage.dns.name ∈ run.outcome.applied.keys →
    ∀ document, plan.document = some document →
      ∀ entry ∈ plan.announcement document, run.outcome.Shows entry

/-- What a run that makes the calls of a plan notes of them. -/
structure Accounts (plan : Plan) (document : String) (run : Run) (failure : Option String) :
    Prop where
  follows : Follows (plan.calls document) run.attempts failure
  applied : run.outcome.applied =
    completed (plan.stageCalls document) Stage.inOrder (returnedCount run.attempts)
  errors_of_none : failure = none → run.outcome.errors = []
  errors_of_some : ∀ cause, failure = some cause → ∃ stage,
    stoppedAt (plan.stageCalls document) Stage.inOrder (returnedCount run.attempts) = some stage ∧
      run.outcome.errors = [stage.title ++ " failed: " ++ cause]

variable (plane : ControlPlane σ) (state : σ) (record : List Attempt)

/-- A plan with errors calls nothing. -/
theorem exists_run_of_errors (h : plan.errors ≠ []) (dryRun : Bool) :
    ∃ run : Run, run.dryRun = dryRun ∧ plan.Makes plane state record run ∧ plan.Foretells run ∧
      run.attempts = [] ∧ run.outcome.applied = [] := by
  have hApply := apply_of_errors h plane state dryRun
  have hWatched := apply_of_errors h plane.watched (state, record) dryRun
  rw [foldl_withFailure] at hApply hWatched
  refine ⟨⟨dryRun, [], _⟩, rfl, ⟨by rw [hApply], ?_⟩, ⟨fun _ => Or.inl rfl, ?_⟩, rfl, rfl⟩
  · rw [hApply, hWatched, List.append_nil]
  · rintro (hNone | hDns)
    · exact absurd (List.map_eq_nil_iff.mp hNone) h
    · cases hDns

/-- A dry run calls nothing. -/
theorem exists_run_dry (h : plan.errors = []) (hDocument : plan.document = some document) :
    ∃ run : Run, run.dryRun = true ∧ plan.Makes plane state record run ∧ plan.Foretells run ∧
      run.attempts = [] ∧ run.outcome.applied = [] := by
  have hApply := apply_dry h hDocument plane state
  have hWatched := apply_dry h hDocument plane.watched (state, record)
  have hOutputs := outputs_foreseen plan document plan.name true plan.warnings
  have hApplied : (withDnsOutputs plan.options
      (withPolicyOutput (.start plan.name true plan.warnings) document)).applied = [] := rfl
  -- From here on only these facts about the foreseen outcome matter.
  generalize withDnsOutputs plan.options
    (withPolicyOutput (.start plan.name true plan.warnings) document) = foreseen
    at hApply hWatched hOutputs hApplied
  refine ⟨⟨true, [], foreseen⟩, rfl, ⟨by rw [hApply], ?_⟩,
    ⟨fun _ => Or.inr ⟨document, hDocument, hOutputs⟩, ?_⟩, rfl, hApplied⟩
  · rw [hApply, hWatched, List.append_nil]
  · intro _ other hOther entry hEntry
    rw [hDocument] at hOther
    cases hOther
    rw [Outcome.Shows, hOutputs]
    exact Table.get?_eq_some_of_mem (nodup_announcement plan document) hEntry

/-- Any other run makes the calls of the plan, as they are made one after the other. -/
theorem exists_run_real (h : plan.errors = []) (hDocument : plan.document = some document)
    {next : σ} {failure : Option String}
    (hCalls : plane.performAll state (plan.calls document) = (next, failure)) :
    ∃ run : Run, run.dryRun = false ∧ plan.Makes plane state record run ∧ plan.Foretells run ∧
      plan.Accounts document run failure := by
  have hStart : (Outcome.start plan.name false plan.warnings).errors = [] := rfl
  rw [calls_eq_flatMap] at hCalls
  obtain ⟨attempts, after, hThrough, hPlain, hWatched⟩ :=
    foldl_runStage_watched plan document plane state record hStart Stage.inOrder
      Stage.nodup_names hCalls
  rw [← apply_real h hDocument] at hPlain hWatched
  have hApplied := hThrough.applied
  rw [Outcome.start, List.nil_append] at hApplied
  refine ⟨⟨false, attempts, after⟩, rfl, ⟨by rw [hPlain], by rw [hPlain, hWatched]⟩, ⟨?_, ?_⟩,
    ?_, hApplied, hThrough.errors_of_none, hThrough.errors_of_some⟩
  · intro hDry
    cases hDry
  · intro hDone other hOther
    rw [hDocument] at hOther
    cases hOther
    rw [hApplied] at hDone
    exact hThrough.shows_announcement hDone
  · rw [calls_eq_flatMap]
    exact hThrough.follows

/-- Such a run leaves the control plane as the calls of the plan do. -/
theorem fst_apply_of_performAll (h : plan.errors = []) (hDocument : plan.document = some document)
    {next : σ} {failure : Option String}
    (hCalls : plane.performAll state (plan.calls document) = (next, failure)) :
    (plan.apply plane state false).1 = next := by
  rw [calls_eq_flatMap] at hCalls
  obtain ⟨-, after, -, hPlain, -⟩ :=
    foldl_runStage_watched plan document plane state []
      (rfl : (Outcome.start plan.name false plan.warnings).errors = []) Stage.inOrder
      Stage.nodup_names hCalls
  rw [apply_real h hDocument, hPlain]

/-- A run attempts what the calls of the plan attempt when they are watched. -/
theorem exists_accounts_of_watched (h : plan.errors = [])
    (hDocument : plan.document = some document) {next : σ} {attempts : List Attempt}
    {failure : Option String}
    (hCalls : plane.watched.performAll (state, []) (plan.calls document) =
      ((next, attempts), failure)) :
    ∃ outcome, plan.apply plane state false = (next, outcome) ∧
      plan.apply plane.watched (state, []) false = ((next, attempts), outcome) ∧
      plan.Accounts document ⟨false, attempts, outcome⟩ failure := by
  obtain ⟨_, -, hBoth⟩ := plane.performAll_watched state [] (plan.calls document)
  rw [hCalls, Prod.mk.injEq, Prod.mk.injEq] at hBoth
  have hPlain : plane.performAll state (plan.calls document) = (next, failure) :=
    Prod.ext hBoth.1.1.symm hBoth.2.symm
  obtain ⟨⟨dryRun, made, outcome⟩, rfl, hMakes, -, hAccounts⟩ :=
    exists_run_real plane state [] h hDocument hPlain
  have hNext := fst_apply_of_performAll plane state h hDocument hPlain
  have hWatched := hMakes.watched
  have hAttempts := fst_apply_of_performAll plane.watched (state, []) h hDocument hCalls
  rw [hWatched, hNext, List.nil_append, Prod.mk.injEq] at hAttempts
  obtain ⟨-, rfl⟩ := hAttempts
  rw [hNext, List.nil_append] at hWatched
  exact ⟨outcome, Prod.ext hNext hMakes.plain, hWatched, hAccounts⟩

end Plan

namespace Source

/-- What every application of a source keeps to. Nothing is attempted in a dry run or if the source
is blocked. Otherwise the calls of the plan are attempted in order until one fails, the first of
them with the output of the compilation. -/
structure Conforms (source : Source) (lint : Bool) (plan : Plan) (run : Run) : Prop where
  silent : run.dryRun = true ∨ source.Blocked lint →
    run.attempts = [] ∧ run.outcome.applied = []
  accounted : run.dryRun = false → ¬ source.Blocked lint →
    ∃ document failure, source.Publishes lint document ∧ plan.Accounts document run failure

variable {σ : Type} (source : Source) (tailnet : String) (lint : Bool) (plane : ControlPlane σ)

theorem exists_run (state : σ) (record : List Attempt) (dryRun : Bool) :
    let plan := source.draft tailnet lint
    ∃ run : Run, run.dryRun = dryRun ∧ plan.Makes plane state record run ∧ plan.Foretells run ∧
      source.Conforms lint plan run := by
  rcases source.blocked_or_publishes tailnet lint with
    ⟨hBlocked, hErrors⟩ | ⟨hFree, hErrors, document, hPublishes, hDocument⟩
  · obtain ⟨run, hDryRun, hMakes, hForetells, hSilent⟩ :=
      Plan.exists_run_of_errors plane state record hErrors dryRun
    exact ⟨run, hDryRun, hMakes, hForetells, fun _ => hSilent, fun _ h => absurd hBlocked h⟩
  · cases dryRun with
    | true =>
        obtain ⟨run, hDryRun, hMakes, hForetells, hSilent⟩ :=
          Plan.exists_run_dry plane state record hErrors hDocument
        refine ⟨run, hDryRun, hMakes, hForetells, fun _ => hSilent, ?_⟩
        intro hReal
        rw [hDryRun] at hReal
        cases hReal
    | false =>
        obtain ⟨run, hDryRun, hMakes, hForetells, hAccounts⟩ :=
          Plan.exists_run_real plane state record hErrors hDocument rfl
        refine ⟨run, hDryRun, hMakes, hForetells, ?_,
          fun _ _ => ⟨document, _, hPublishes, hAccounts⟩⟩
        rintro (hDry | hBlocked)
        · rw [hDryRun] at hDry
          cases hDry
        · exact absurd hBlocked hFree

/-- Runs one after the other, each from the state in which the one before it left the plane. -/
theorem exists_runs (state : σ) (record : List Attempt) (dryRuns : List Bool) :
    let plan := source.draft tailnet lint
    ∃ runs : List Run, runs.map Run.dryRun = dryRuns ∧
      plan.applyAll plane.watched (state, record) dryRuns =
        (((plan.applyAll plane state dryRuns).1, record ++ runs.flatMap Run.attempts),
          runs.map Run.outcome) ∧
      (plan.applyAll plane state dryRuns).2 = runs.map Run.outcome ∧
      ∀ run ∈ runs, plan.Foretells run ∧ source.Conforms lint plan run := by
  induction dryRuns generalizing state record with
  | nil => exact ⟨[], rfl, by simp [Plan.applyAll], rfl, List.forall_mem_nil _⟩
  | cons dryRun rest ih =>
      obtain ⟨run, rfl, hMakes, hForetells, hConforms⟩ :=
        source.exists_run tailnet lint plane state record dryRun
      obtain ⟨runs, hDryRuns, hWatched, hPlain, hRuns⟩ :=
        ih ((source.draft tailnet lint).apply plane state run.dryRun).1 (record ++ run.attempts)
      refine ⟨run :: runs, by rw [List.map_cons, hDryRuns], ?_, ?_,
        List.forall_mem_cons.mpr ⟨⟨hForetells, hConforms⟩, hRuns⟩⟩
      · simp only [Plan.applyAll, hMakes.watched, hWatched, List.append_assoc, List.flatMap_cons,
          List.map_cons]
      · simp only [Plan.applyAll, hMakes.plain, hPlain, List.map_cons]

variable {source tailnet lint}

theorem applyAll_of_plan {plan : Plan} (h : source.plan tailnet lint = .ok plan) (state : σ)
    (dryRuns : List Bool) :
    source.applyAll tailnet lint plane state dryRuns =
      ((plan.applyAll plane state dryRuns).1, (plan.applyAll plane state dryRuns).2.map .ok) := by
  rw [applyAll, h]

theorem applyAll_of_error {cause : CompileError} (h : source.plan tailnet lint = .error cause)
    (state : σ) (dryRuns : List Bool) :
    source.applyAll tailnet lint plane state dryRuns =
      (state, dryRuns.map fun _ => .error cause) := by
  rw [applyAll, h]

variable (source tailnet lint)

/-- Applying a source any number of times is safe, whatever the control plane does, as long as it
has a plan. Every run then attempts nothing or a beginning of the plan's calls, and tells truly what
was done; runs that do not fail show all that dry runs foresaw; and whatever is wrong with the
source is told in words. There is no plan exactly if nothing is wrong with the policy but
surrogates; then nothing is attempted either, but every run breaks off. -/
theorem applyAll_safe (state : σ) (dryRuns : List Bool) :
    (¬source.Unencodable → ∃ plan, source.plan tailnet lint = .ok plan ∧
      ∃ runs : List Run, runs.map Run.dryRun = dryRuns ∧
        source.applyAll tailnet lint plane.watched (state, []) dryRuns =
          (((source.applyAll tailnet lint plane state dryRuns).1, runs.flatMap Run.attempts),
            runs.map fun run => .ok run.outcome) ∧
        (source.applyAll tailnet lint plane state dryRuns).2 =
          runs.map (fun run => .ok run.outcome) ∧
        (∀ run ∈ runs, source.Conforms lint plan run) ∧
        (∀ dry ∈ runs, dry.dryRun = true → ∀ real ∈ runs,
          real.outcome.errors = [] ∨ Stage.dns.name ∈ real.outcome.applied.keys →
            ∀ name value, dry.outcome.outputs.get? name = some value →
              real.outcome.outputs.get? name = some value) ∧
        Meets
          (fun compilation =>
            ∀ v ∈ compilation.validation.violations, ∃ line, v.line = .ok line)
          (fun cause => ∃ report, cause.report? = some report) (source.compile lint (some 2))) ∧
    (source.Unencodable → ∃ cause, cause.report? = none ∧
      source.plan tailnet lint = .error cause ∧
      source.applyAll tailnet lint plane.watched (state, []) dryRuns =
        ((state, []), dryRuns.map fun _ => .error cause)) := by
  refine ⟨fun hPlanned => ?_, fun hUnencodable => ?_⟩
  · have hPlan := (source.plan_eq_ok_iff tailnet lint).mpr ⟨rfl, hPlanned⟩
    obtain ⟨runs, hDryRuns, hWatched, hPlain, hRuns⟩ :=
      source.exists_runs tailnet lint plane state [] dryRuns
    refine ⟨_, hPlan, runs, hDryRuns, ?_, ?_, fun run hRun => (hRuns run hRun).2, ?_, ?_⟩
    · rw [applyAll_of_plan _ hPlan, applyAll_of_plan _ hPlan, hWatched, List.map_map]
      rfl
    · rw [applyAll_of_plan _ hPlan, hPlain, List.map_map]
      rfl
    · intro dry hDry hDryRun real hReal hDone name value hGet
      rcases (hRuns dry hDry).1.foreseen hDryRun with hNone | ⟨document, hDocument, hOutputs⟩
      · rw [hNone] at hGet
        cases hGet
      · rw [hOutputs] at hGet
        exact (hRuns real hReal).1.shown hDone document hDocument _
          (Table.mem_of_get?_eq_some hGet)
    · refine ((source.compile_meets lint (some 2)).imp fun _ h => h.1).explain fun cause h => ?_
      rcases h with ⟨hReport, -⟩ | ⟨-, hUnencodable⟩
      · exact hReport
      · exact absurd hUnencodable hPlanned
  · obtain ⟨text, hPlan⟩ := source.plan_eq_unencodable tailnet lint hUnencodable
    exact ⟨_, rfl, hPlan, applyAll_of_error _ hPlan _ _⟩

/-- A control plane that refuses every call. -/
def refusingPlane : ControlPlane Unit := ⟨fun _ _ => ((), .error "out of service")⟩

/-- A dry run and one whose first call is refused both conform. -/
theorem applyAll_safe_officeSource :
    ¬officeSource.Unencodable ∧
      ∃ plan, officeSource.plan "-" true = .ok plan ∧
        ∃ runs : List Run, runs.map Run.dryRun = [true, false] ∧
          (officeSource.applyAll "-" true refusingPlane () [true, false]).2 =
            runs.map (fun run => .ok run.outcome) ∧
          ∀ run ∈ runs, officeSource.Conforms true plan run := by
  obtain ⟨compilation, text, hCompile, hText⟩ := exists_output_officeSource
  have hPlanned := not_unencodable_of_compile hCompile
  obtain ⟨plan, hPlan, runs, hDryRuns, -, hOutcomes, hConforms, -⟩ :=
    (applyAll_safe officeSource "-" true refusingPlane () [true, false]).1 hPlanned
  exact ⟨hPlanned, plan, hPlan, runs, hDryRuns, hOutcomes, hConforms⟩

/-- A source whose only group has a member with half of a pair in its name. -/
def halvedSource : Source :=
  { name := "halved"
    groups := [("g", [String.ofList [Text.Halves.usual.charOf 0xD800, '@', 'x']])]
    tailnet := usualOptions }

theorem unencodable_halvedSource : halvedSource.Unencodable := by
  have hRun : halvedSource.document.toOption.any (fun document =>
      document.violations.toOption.any List.isEmpty &&
        !document.toValue.isEncodable .usual) = true := by decide +kernel
  obtain ⟨document, hDocument, hRun⟩ := (Option.any_eq_true _ _).mp hRun
  obtain ⟨hViolations, hHalf⟩ := Bool.and_eq_true_iff.mp hRun
  obtain ⟨violations, hFound, hNone⟩ := (Option.any_eq_true _ _).mp hViolations
  obtain rfl := List.isEmpty_iff.mp hNone
  exact ⟨document, toOption_eq_some_iff.mp hDocument, toOption_eq_some_iff.mp hFound,
    Bool.not_eq_true' _ ▸ hHalf⟩

/-- A source may leave even a dry run without an outcome. -/
theorem exists_broken_run : ∃ (source : Source) (cause : CompileError), cause.report? = none ∧
    ∀ (σ : Type) (plane : ControlPlane σ) (state : σ),
      source.applyAll "-" true plane state [true] = (state, [.error cause]) := by
  obtain ⟨text, hPlan⟩ := halvedSource.plan_eq_unencodable "-" true unencodable_halvedSource
  exact ⟨halvedSource, _, rfl, fun σ plane state => applyAll_of_error plane hPlan state [true]⟩

end Source

end Tailnet
