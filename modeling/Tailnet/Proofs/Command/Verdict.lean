import Tailnet.Proofs.Command.Ending
import Tailnet.Proofs.Command.Legible
import Tailnet.Proofs.Json.Writer

/-!
What commands tell by their statuses. All commands on one policy file tell the same, as far as they
come to an end: a command breaks off if nothing is wrong with the policy but that there are
surrogates in it, if its page does not get on the terminal, if its report has no JSON text, or if
the file it is to write cannot be written.
-/

namespace Tailnet

open Terminal

namespace Command

variable {machine : Machine} {file : String} {environment : Option String} {source : Source}

/-- Validation comes to an end with a status, whatever is on its page. -/
theorem exists_validate_ends (h : machine.source file environment = .ok source)
    (hEncodable : ¬source.Unencodable) (strict : Bool) :
    ∃ page status, runValidate machine file environment strict = machine.ends page status ∧
      Signals (source.IsValid ∧ (strict = true → source.IsUnwarned)) status := by
  unfold runValidate
  cases source.compiles with
  | @valid compilation document hCompile hSucceeded hOutput hPublishes =>
      rw [compilation_of_ok h hCompile, Source.isUnwarned_iff hCompile]
      dsimp only
      rw [hSucceeded, if_neg (by decide)]
      by_cases hStrict : (strict && !compilation.validation.warnings.isEmpty) = true
      · rw [if_pos hStrict]
        refine ⟨_, _, rfl, .fails ?_⟩
        rw [Bool.and_eq_true, Bool.not_eq_true', List.isEmpty_eq_false_iff] at hStrict
        exact fun hVerdict => hStrict.2 (hVerdict.2 hStrict.1)
      · rw [if_neg hStrict]
        refine ⟨_, _, rfl, .holds ⟨⟨document, hPublishes⟩, fun hOn => ?_⟩⟩
        simpa [hOn] using hStrict
  | violated hCompile hSucceeded hInvalid =>
      rw [compilation_of_ok h hCompile]
      dsimp only
      rw [hSucceeded, if_pos (by decide)]
      exact ⟨_, _, rfl, .fails fun hVerdict => hInvalid hVerdict.1⟩
  | refused hCompile hReport hInvalid =>
      rw [compilation_of_error h hCompile hReport]
      exact ⟨_, _, rfl, .fails fun hVerdict => hInvalid hVerdict.1⟩
  | unencodable hCompile hReport hUnencodable => exact absurd hUnencodable hEncodable

theorem validate_tells (h : machine.source file environment = .ok source) (strict : Bool) :
    (runValidate machine file environment strict).Tells
      (¬source.Unencodable ∧ machine.Shows (runValidate machine file environment strict).page)
      (source.IsValid ∧ (strict = true → source.IsUnwarned)) := by
  refine .guarded (fun hEncodable => ?_) fun hStuck => ?_
  · obtain ⟨page, status, hEnds, hStatus⟩ := exists_validate_ends h hEncodable strict
    rw [hEnds]
    exact tells_ends machine Iff.rfl hStatus
  · obtain ⟨cause, hCompile, hReport⟩ := (not_not.mp hStuck).exists_unreported
    unfold runValidate
    rw [compilation_of_unreported h hCompile hReport]
    exact status?_breaks machine _ _

/-- The name of a valid policy is on the page of its validation. -/
theorem name_mem_page (h : machine.source file environment = .ok source) (hValid : source.IsValid)
    (strict : Bool) : Summary.labelled "bold" "Policy:" source.name ∈
      (runValidate machine file environment strict).page := by
  unfold runValidate
  cases source.compiles with
  | valid hCompile hSucceeded hOutput hPublishes =>
      rw [compilation_of_ok h hCompile]
      dsimp only
      rw [hSucceeded, if_neg (by decide)]
      split
      · simp [Machine.ends, validPage]
      · simp [Machine.ends, validPage]
  | violated hCompile hSucceeded hInvalid => exact absurd hValid hInvalid
  | refused hCompile hReport hInvalid => exact absurd hValid hInvalid
  | unencodable hCompile hReport hUnencodable => exact absurd hUnencodable hValid.encodable

/-- Whether the file that is named, if one is, can hold the document. -/
def Storable (machine : Machine) (output : Option String) (source : Source) : Prop :=
  ∀ name document, output = some name → name ≠ "" → source.Publishes true document →
    ∃ files, machine.files.write (.ofText name) document = .ok files

theorem storable_of_invalid (output : Option String) (h : ¬source.IsValid) :
    Storable machine output source :=
  fun _ document _ _ hPublishes => absurd ⟨document, hPublishes⟩ h

/-- A valid policy is delivered, if it can be. -/
theorem deliver_tells {document : String} (h : source.Publishes true document)
    (output : Option String) :
    (deliver machine document output).Tells
      (machine.Shows (deliver machine document output).page ∧ Storable machine output source)
      source.IsValid := by
  have hValid : source.IsValid := ⟨document, h⟩
  unfold deliver
  split
  case h_1 hNone =>
    refine tells_ends machine (and_iff_left ?_) (.holds hValid)
    rintro name _ rfl hNamed
    simp [Option.filter, hNamed] at hNone
  case h_2 name hName =>
    obtain ⟨hOutput, hNamed⟩ := Option.filter_eq_some_iff.mp hName
    dsimp only
    cases hWrite : machine.files.write (.ofText name) document with
    | error cause =>
        refine tells_breaks machine [] _ fun hSayable => ?_
        obtain ⟨files, hFiles⟩ := hSayable.2 name document hOutput (by simpa using hNamed) h
        cases hWrite.symm.trans hFiles
    | ok files =>
        refine tells_ends _ (and_iff_left ?_) (.holds hValid)
        intro other text hOther _ hText
        obtain rfl := Option.some.inj (hOutput.symm.trans hOther)
        rw [hText.unique h]
        exact ⟨files, hWrite⟩

theorem compile_tells (h : machine.source file environment = .ok source)
    (output : Option String) :
    (runCompile machine file environment output).Tells
      (¬source.Unencodable ∧ machine.Shows (runCompile machine file environment output).page ∧
        Storable machine output source) source.IsValid := by
  refine .guarded (fun hEncodable => ?_) fun hStuck => ?_
  · unfold runCompile
    cases source.compiles with
    | valid hCompile hSucceeded hOutput hPublishes =>
        rw [compilation_of_ok h hCompile]
        dsimp only
        rw [hSucceeded, hOutput]
        exact deliver_tells hPublishes output
    | violated hCompile hSucceeded hInvalid =>
        rw [compilation_of_ok h hCompile]
        dsimp only
        rw [hSucceeded]
        exact tells_ends machine (and_iff_left (storable_of_invalid output hInvalid))
          (.fails hInvalid)
    | refused hCompile hReport hInvalid =>
        rw [compilation_of_error h hCompile hReport]
        exact tells_ends machine (and_iff_left (storable_of_invalid output hInvalid))
          (.fails hInvalid)
    | unencodable hCompile hReport hUnencodable => exact absurd hUnencodable hEncodable
  · obtain ⟨cause, hCompile, hReport⟩ := (not_not.mp hStuck).exists_unreported
    unfold runCompile
    rw [compilation_of_unreported h hCompile hReport]
    exact status?_breaks machine _ _

/-- The document of a valid policy gets on the terminal if it is only printed. -/
theorem shows_compile (h : machine.source file environment = .ok source) (hValid : source.IsValid)
    {output : Option String} (hOutput : output = none ∨ output = some "") :
    machine.Shows (runCompile machine file environment output).page := by
  have hPrinted : output.filter (· != "") = none := by
    rcases hOutput with rfl | rfl
    · rfl
    · rfl
  unfold runCompile
  cases source.compiles with
  | valid hCompile hSucceeded hDocument hPublishes =>
      rw [compilation_of_ok h hCompile]
      dsimp only
      rw [hSucceeded, hDocument]
      unfold deliver
      rw [hPrinted]
      exact Machine.shows_verbatim (halves_of_source h ▸ hPublishes.areAbsent)
  | violated hCompile hSucceeded hInvalid => exact absurd hValid hInvalid
  | refused hCompile hReport hInvalid => exact absurd hValid hInvalid
  | unencodable hCompile hReport hUnencodable => exact absurd hUnencodable hValid.encodable

/-- A valid policy is always compiled if its document is only printed. -/
theorem status?_compile_of_isValid (h : machine.source file environment = .ok source)
    (hValid : source.IsValid) :
    (runCompile machine file environment none).ending.status? = some 0 :=
  (compile_tells h none).zero_iff.mpr
    ⟨⟨hValid.encodable, shows_compile h hValid (.inl rfl), fun _ _ h => by cases h⟩, hValid⟩

/-- Whether all that a plan shows can be said in a format. -/
def PlanSayable (settings : Settings) (machine : Machine) (file : String)
    (environment : Option String) (source : Source) : ReportFormat → Prop
  | .json => (source.draft settings.tailnet true).toValue.isWritable .report = true
  | .text => machine.Shows (runPlan settings machine file environment .text).page

/-- Whether all that a dry run shows can be said in a format. In JSON it always can. -/
def DryRunSayable (settings : Settings) (machine : Machine) (file : String)
    (environment : Option String) : ReportFormat → Prop
  | .json => True
  | .text => machine.Shows (runApply settings machine file environment true .text).page

theorem statusOf_signals (succeeded : Bool) {verdict : Prop} (h : succeeded = true ↔ verdict) :
    Signals verdict (statusOf succeeded) := by
  cases succeeded with
  | true => exact .holds (h.mp rfl)
  | false => exact .fails fun hVerdict => Bool.false_ne_true (h.mpr hVerdict)

/-- A report in JSON tells what its status says if it has a text. That is all ASCII, so that every
terminal takes it. -/
theorem reportJson_tells (machine : Machine) (value : Value) {status : Nat} {verdict : Prop}
    (hStatus : Signals verdict status) :
    (reportJson machine value status).Tells (value.isWritable .report = true) verdict := by
  unfold reportJson
  cases hWrite : Json.write .report value with
  | ok text =>
      have hAbsent : machine.halves.areAbsent (text ++ "\n").toList = true := by
        rw [String.toList_append, Text.Halves.areAbsent_append,
          Json.areAbsent_of_write Json.Format.separatesInAscii_report hWrite]
        exact machine.halves.areAbsent_of_ascii (by decide)
      exact tells_ends machine (iff_of_true (Json.exists_write_iff_isWritable.mp ⟨text, hWrite⟩)
        (Machine.shows_verbatim hAbsent)) hStatus
  | error cause =>
      refine tells_breaks machine [] _ fun hWritable => ?_
      obtain ⟨text, hText⟩ := Json.exists_write_iff_isWritable.mpr hWritable
      cases hWrite.symm.trans hText

/-- A report as a page tells what its status says if the page gets on the terminal. -/
theorem reportPage_tells (machine : Machine) {page : Except Integer.NumeralError Page}
    (hPage : ∃ shown, page = .ok shown) {status : Nat} {verdict : Prop}
    (hStatus : Signals verdict status) :
    (reportPage machine page status).Tells (machine.Shows (reportPage machine page status).page)
      verdict := by
  obtain ⟨shown, rfl⟩ := hPage
  exact tells_ends machine Iff.rfl hStatus

theorem succeeded_draft_iff (source : Source) (tailnet : String) :
    (source.draft tailnet true).succeeded = true ↔ ¬source.Blocked true := by
  rw [Plan.succeeded, List.isEmpty_iff]
  rcases source.blocked_or_publishes tailnet true with ⟨hBlocked, hErrors⟩ | ⟨hFree, hErrors, -⟩
  · exact iff_of_false hErrors (not_not_intro hBlocked)
  · exact iff_of_true hErrors hFree

theorem plan_tells (settings : Settings) (h : machine.source file environment = .ok source)
    (format : ReportFormat) :
    (runPlan settings machine file environment format).Tells
      (¬source.Unencodable ∧ PlanSayable settings machine file environment source format)
      (¬source.Blocked true) := by
  refine .guarded (fun hEncodable => ?_) fun hStuck => ?_
  · have hStatus := statusOf_signals _ (succeeded_draft_iff source settings.tailnet)
    cases format with
    | json =>
        rw [runPlan_of_encodable settings .json h hEncodable]
        exact reportJson_tells machine _ hStatus
    | text =>
        rw [PlanSayable, runPlan_of_encodable settings .text h hEncodable]
        exact reportPage_tells machine (Plan.exists_ofPlan _) hStatus
  · obtain ⟨abort, hBreaks⟩ := runPlan_of_unencodable settings format h (not_not.mp hStuck)
    rw [hBreaks]
    exact status?_breaks machine _ _

theorem dryRun_tells (settings : Settings) (h : machine.source file environment = .ok source)
    (format : ReportFormat) :
    (runApply settings machine file environment true format).Tells
      (¬source.Unencodable ∧ DryRunSayable settings machine file environment format)
      (¬source.Blocked true) := by
  refine .guarded (fun hEncodable => ?_) fun hStuck => ?_
  · have hForeseen := (source.draft settings.tailnet true).foreseen_apply
      ({ settings.client with halves := machine.halves } : Http.Client).controlPlane machine.wire
    have hStatus := statusOf_signals _ (succeeded_draft_iff source settings.tailnet)
    rw [← hForeseen.succeeded_eq] at hStatus
    cases format with
    | json =>
        rw [runApply_of_encodable settings .json h hEncodable]
        exact (reportJson_tells _ _ hStatus).of_iff
          (iff_of_true (hForeseen.isWritable machine.seconds) trivial)
    | text =>
        rw [DryRunSayable, runApply_of_encodable settings .text h hEncodable]
        exact reportPage_tells _ (hForeseen.exists_ofOutcome _) hStatus
  · obtain ⟨abort, hBreaks⟩ := runApply_of_unencodable settings format h (not_not.mp hStuck)
    rw [hBreaks]
    exact status?_breaks machine _ _

/-- What is left of a document that was compiled: it is on the screen alone, or in the file that was
named. -/
inductive Delivered (machine : Machine) (document : String) :
    Option String → Screen → Machine → Prop where
  | printed {output : Option String} (h : output = none ∨ output = some "") :
      Delivered machine document output ⟨document, ""⟩ machine
  | written {name : String} {screen : Screen} {files : FileTree} (hNamed : name ≠ "")
      (hFiles : machine.files.write (.ofText name) document = .ok files) :
      Delivered machine document (some name) screen { machine with files }

theorem delivered_of_ending {document : String} {output : Option String} {screen : Screen}
    {status : Nat} {left : Machine}
    (h : (deliver machine document output).ending = .finished screen status left) :
    status = 0 ∧ Delivered machine document output screen left := by
  unfold deliver at h
  split at h
  case h_1 hNone =>
    obtain ⟨hScreen, rfl, rfl⟩ := eq_of_ending_ends _ h
    obtain rfl : Screen.mk ("" ++ document) "" = screen := Except.ok.inj hScreen
    rw [String.empty_append]
    refine ⟨rfl, .printed ?_⟩
    cases output with
    | none => exact .inl rfl
    | some name => exact .inr (by simpa [Option.filter] using hNone)
  case h_2 name hName =>
    obtain ⟨rfl, hNamed⟩ := Option.filter_eq_some_iff.mp hName
    dsimp only at h
    cases hWrite : machine.files.write (.ofText name) document with
    | error cause =>
        rw [hWrite] at h
        exact absurd h (ending_breaks_ne _ _ _ _ _ _)
    | ok files =>
        rw [hWrite] at h
        obtain ⟨-, rfl, rfl⟩ := eq_of_ending_ends _ h
        exact ⟨rfl, .written (by simpa using hNamed) hWrite⟩

/-- What a compilation leaves behind: the document if the policy is valid, and nothing but messages
if it is not. -/
inductive Leaves (machine : Machine) (source : Source) (output : Option String) (screen : Screen)
    (left : Machine) : Nat → Prop where
  | document {document : String} (hPublishes : source.Publishes true document)
      (hDelivered : Delivered machine document output screen left) :
      Leaves machine source output screen left 0
  | nothing (hInvalid : ¬source.IsValid) (hOut : screen.out = "") (hLeft : left = machine) :
      Leaves machine source output screen left 1

theorem leaves_of_failure {page : Page} {output : Option String} {screen : Screen} {status : Nat}
    {left : Machine} (hInvalid : ¬source.IsValid) (hErr : page.IsErr)
    (h : (machine.ends page 1).ending = .finished screen status left) :
    Leaves machine source output screen left status := by
  obtain ⟨hScreen, rfl, rfl⟩ := eq_of_ending_ends machine h
  exact .nothing hInvalid (hErr.out_eq hScreen) rfl

theorem compile_leaves (h : machine.source file environment = .ok source)
    {output : Option String} {screen : Screen} {status : Nat} {left : Machine}
    (hEnding : (runCompile machine file environment output).ending =
      .finished screen status left) : Leaves machine source output screen left status := by
  unfold runCompile at hEnding
  cases source.compiles with
  | valid hCompile hSucceeded hOutput hPublishes =>
      rw [compilation_of_ok h hCompile] at hEnding
      dsimp only at hEnding
      rw [hSucceeded, hOutput] at hEnding
      obtain ⟨rfl, hDelivered⟩ := delivered_of_ending hEnding
      exact .document hPublishes hDelivered
  | violated hCompile hSucceeded hInvalid =>
      rw [compilation_of_ok h hCompile] at hEnding
      dsimp only at hEnding
      rw [hSucceeded] at hEnding
      refine leaves_of_failure hInvalid ?_ hEnding
      rw [Page.isErr_append, Page.isErr_append]
      exact ⟨⟨isErr_failure _, isErr_blank⟩, isErr_itemList _ _ _⟩
  | refused hCompile hReport hInvalid =>
      rw [compilation_of_error h hCompile hReport] at hEnding
      exact leaves_of_failure hInvalid (isErr_failure _) hEnding
  | unencodable hCompile hReport hUnencodable =>
      rw [compilation_of_unreported h hCompile hReport] at hEnding
      exact absurd hEnding (ending_breaks_ne _ _ _ _ _ _)

end Command

/-- What the commands on a policy file tell and leave behind. They agree on whether the policy is
valid, and in no other way than by what cannot be said are they kept from telling. -/
structure Concord (settings : Settings) (machine : Machine) (file : String)
    (environment : Option String) (source : Source) : Prop where
  /-- With `strict` there must also be nothing to warn of. -/
  validate : ∀ strict, (Command.runValidate machine file environment strict).Tells
    (¬source.Unencodable ∧
      machine.Shows (Command.runValidate machine file environment strict).page)
    (source.IsValid ∧ (strict = true → source.IsUnwarned))
  compile : ∀ output, (Command.runCompile machine file environment output).Tells
    (¬source.Unencodable ∧
      machine.Shows (Command.runCompile machine file environment output).page ∧
      Command.Storable machine output source) source.IsValid
  /-- In either format. -/
  plan : ∀ format, (Command.runPlan settings machine file environment format).Tells
    (¬source.Unencodable ∧
      Command.PlanSayable settings machine file environment source format)
    (¬source.Blocked true)
  dryRun : ∀ format, (Command.runApply settings machine file environment true format).Tells
    (¬source.Unencodable ∧ Command.DryRunSayable settings machine file environment format)
    (¬source.Blocked true)
  /-- What can be planned is valid. -/
  valid_of_planned : ¬source.Blocked true → source.IsValid
  /-- Nothing but a mark keeps a page from being shown. -/
  legible : ∀ output, Command.Markless settings environment output source →
    (∀ strict, (Command.runValidate machine file environment strict).page.IsLegible) ∧
      (Command.runCompile machine file environment output).page.IsLegible ∧
      (Command.runPlan settings machine file environment .text).page.IsLegible ∧
      (Command.runApply settings machine file environment true .text).page.IsLegible
  /-- Nothing but a surrogate on it, on a terminal that takes none, keeps a page that can be shown
  from the terminal. -/
  shown : ∀ page screen, page.render = .ok screen →
    (machine.Shows page ↔
      machine.isStrict = false ∨ machine.halves.areAbsent screen.out.toList = true)
  /-- There is none in a document that is only printed. -/
  printed : source.IsValid → ∀ output, output = none ∨ output = some "" →
    machine.Shows (Command.runCompile machine file environment output).page
  leaves : ∀ output screen status left,
    (Command.runCompile machine file environment output).ending = .finished screen status left →
      Command.Leaves machine source output screen left status

/-- The commands agree on every source that can be read. -/
theorem commands_agree (settings : Settings) {machine : Machine} {file : String}
    {environment : Option String} {source : Source}
    (h : machine.source file environment = .ok source) :
    Concord settings machine file environment source where
  validate := Command.validate_tells h
  compile := Command.compile_tells h
  plan := Command.plan_tells settings h
  dryRun := Command.dryRun_tells settings h
  valid_of_planned := Source.isValid_of_unblocked
  legible _ hMarkless :=
    ⟨Command.isLegible_validate h hMarkless.environment hMarkless.policy,
      Command.isLegible_compile h hMarkless.output hMarkless.policy,
      Command.isLegible_plan settings h hMarkless.plan,
      Command.isLegible_dryRun settings h hMarkless.plan⟩
  shown _ _ hScreen := machine.shows_iff hScreen
  printed hValid _ hOutput := Command.shows_compile h hValid hOutput
  leaves _ _ _ _ hEnding := Command.compile_leaves h hEnding

/-- A machine with a policy file and a network that answers every request with success. -/
def officeMachine (policy : String) : Machine :=
  { files := .ofFiles [("office.yaml", .text policy)], processVariables := []
    wire := .ofAnswers [], seconds := 0.25 }

theorem concord_officeMachine : ∃ source,
    (officeMachine "name: office\n").source "office.yaml" none = .ok source ∧
      Concord {} (officeMachine "name: office\n") "office.yaml" none source := by
  obtain ⟨source, hSource, -⟩ :=
    exists_ok_of_check ((officeMachine "name: office\n").source "office.yaml" none)
      (fun _ => true) (by decide +kernel)
  exact ⟨source, hSource, commands_agree {} hSource⟩

/-- A policy that is named after the end of a style. -/
def misnamedPolicy : String :=
  "name: '[/x]'\ntailnet: \x7bsettings: \x7bsince: 2024-01-01\x7d\x7d\n"

theorem not_legible_misnamed : ¬(Summary.labelled "bold" "Policy:" "[/x]").IsLegible := by
  rintro ⟨visible, hShown⟩
  have hText : styled "bold" "Policy:" ++ " " ++ "[/x]" = "[bold]Policy:[/bold] [/x]" := by decide
  have hPieces : pieces 25 "[bold]Policy:[/bold] [/x]".toList =
      [.shown [], .mark "bold".toList, .shown [], .shown "Policy:".toList,
        .mark ('/' :: "bold".toList), .shown [], .shown [' '], .mark ['/', 'x'], .shown []] := by
    decide
  rw [hText, shown] at hShown
  obtain ⟨cs, hIn, -⟩ := bind_eq_ok_iff.mp hShown
  have hExists : ∃ cs, shownIn [] (pieces 25 "[bold]Policy:[/bold] [/x]".toList) = .ok cs :=
    ⟨cs, hIn⟩
  rw [hPieces, exists_shownIn_shown_iff, InUse.bold.shownIn_begin, exists_shownIn_shown_iff,
    exists_shownIn_shown_iff, InUse.bold.shownIn_end, exists_shownIn_shown_iff,
    exists_shownIn_shown_iff] at hExists
  exact not_exists_shownIn_end _ _ hExists

/-- A valid policy is compiled and can be applied, but its validation is broken off when its name is
to be shown, and its plan when a setting that is a day is to be written. -/
theorem exists_broken_off : ∃ machine : Machine,
    (Command.runCompile machine "office.yaml" none none).ending.status? = some 0 ∧
      (Command.runApply {} machine "office.yaml" none true .json).ending.status? = some 0 ∧
      (Command.runValidate machine "office.yaml" none false).ending.status? = none ∧
      (Command.runPlan {} machine "office.yaml" none .json).ending.status? = none := by
  obtain ⟨source, hSource, hCheck⟩ :=
    exists_ok_of_check ((officeMachine misnamedPolicy).source "office.yaml" none)
      (fun source => source.name == "[/x]" && (source.draft "-" true).succeeded &&
        !(source.draft "-" true).toValue.isWritable .report) (by decide +kernel)
  rw [Bool.and_eq_true, Bool.and_eq_true, beq_iff_eq, Bool.not_eq_true'] at hCheck
  obtain ⟨⟨hName, hPlanned⟩, hWritable⟩ := hCheck
  have hFree := (Command.succeeded_draft_iff source "-").mp hPlanned
  have hValid := Source.isValid_of_unblocked hFree
  refine ⟨officeMachine misnamedPolicy, Command.status?_compile_of_isValid hSource hValid,
    (Command.dryRun_tells {} hSource .json).zero_iff.mpr ⟨⟨hValid.encodable, trivial⟩, hFree⟩,
    (Command.validate_tells hSource false).none_iff.mpr fun hSayable => ?_,
    (Command.plan_tells {} hSource .json).none_iff.mpr fun hSayable => ?_⟩
  · have hLine := hSayable.2.isLegible _ (Command.name_mem_page hSource hValid false)
    rw [hName] at hLine
    exact not_legible_misnamed hLine
  · have hJson := hSayable.2
    rw [Command.PlanSayable, hWritable] at hJson
    cases hJson

end Tailnet
