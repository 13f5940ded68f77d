import Tailnet.Proofs.Address.Numeral
import Tailnet.Proofs.Command.Report
import Tailnet.Proofs.Command.Validity
import Tailnet.Proofs.Terminal.Page

/-!
Pages of commands that can be shown. A page can be if no text of a policy that is put on it has a
mark.
-/

namespace Tailnet

open Terminal

/-- The texts of a policy that its validation shows. -/
inductive Source.Says (source : Source) : String → Prop where
  | name : source.Says source.name
  | refusal {cause : CompileError} {report : Report}
      (hCompile : source.compile true (some 2) = .error cause)
      (hReport : cause.report? = some report) : source.Says report.text
  | violation {compilation : Compilation} {line : String}
      (hCompile : source.compile true (some 2) = .ok compilation)
      (hLine : line ∈ compilation.violationLines) : source.Says line
  | warning {compilation : Compilation} {unused : Unused}
      (hCompile : source.compile true (some 2) = .ok compilation)
      (hUnused : unused ∈ compilation.validation.warnings) : source.Says unused.message

/-- The texts in a plan that its report and that of a dry run show. -/
inductive Plan.Says (plan : Plan) : String → Prop where
  | name : plan.Says plan.name
  | tailnet : plan.Says plan.tailnet
  | key {key : KeyRequest} (hKey : key ∈ plan.keys) : plan.Says key.name
  | tag {key : KeyRequest} {tag : String} (hKey : key ∈ plan.keys) (hTag : tag ∈ key.tags) :
      plan.Says tag
  | change {changes : List DnsChange} {change : DnsChange} {text : String}
      (hDns : plan.dns = some changes) (hChange : change ∈ changes)
      (hText : Summary.fieldText "kind" (Plan.dnsSummary change) = .ok text) : plan.Says text
  | searchPaths {text : String}
      (hText : (Value.texts plan.options.searchPaths).display = .ok text) : plan.Says text
  | error {error : String} (hError : error ∈ plan.errors) : plan.Says error
  | warning {warning : String} (hWarning : warning ∈ plan.warnings) : plan.Says warning

theorem notMem_documentId (document : String) : '[' ∉ (documentId document).toList := by
  rw [documentId, Digest.sha256, String.toList_ofList, List.mem_flatMap]
  rintro ⟨word, -, hIn⟩
  rw [Text.hex, List.mem_append] at hIn
  rcases hIn with hZero | hDigit
  · cases List.eq_of_mem_replicate hZero
  · obtain ⟨d, hd, hEq⟩ := exists_digitChar_of_mem hDigit
    have hOther : ∀ d < 16, '[' ≠ Nat.digitChar d := by decide
    exact hOther d hd hEq

section Lines

variable {style label rest : String}

theorem isLegible_labelled (h : InUse style) (hLabel : Unmarked label) (hRest : Unmarked rest) :
    (Summary.labelled style label rest).IsLegible := by
  change Legible (styled style label ++ " " ++ rest)
  rw [String.append_assoc]
  exact h.legible_before hLabel (hRest.append_of_notMem (by decide))

theorem isLegible_detail {text : String} (h : Unmarked text) : (Summary.detail text).IsLegible :=
  (InUse.of_mem "muted" (by decide)).legible_item 5 rfl h

/-- A number before a remark. -/
theorem unmarked_count (n : Nat) {remark : String} (hRemark : '[' ∉ remark.toList) :
    Unmarked (toString n ++ remark) :=
  (Unmarked.of_notMem hRemark).append_of_notMem (Unmarked.notMem_toString n)

/-- The line of a section that counts what is in it. -/
theorem isLegible_countLine {title padding remark : String} (n : Nat) (hTitle : Unmarked title)
    (hPadding : '[' ∉ padding.toList) (hRemark : '[' ∉ remark.toList) :
    (Summary.sectionLine title padding (toString n ++ remark)).IsLegible := by
  change Legible (ruler 2 ' ' ++ styled "success" ("✓ " ++ title) ++ padding ++
    (toString n ++ remark))
  rw [String.append_assoc, String.append_assoc]
  exact (InUse.of_mem "success" (by decide)).legible_between 2
    (hTitle.append_of_notMem (by decide)) ((unmarked_count n hRemark).append_of_notMem hPadding)

theorem isLegible_numberLine {label : String} (n : Nat) (hLabel : Unmarked label) :
    (Summary.labelled "bold" label (toString n)).IsLegible :=
  isLegible_labelled .bold hLabel (.of_notMem (Unmarked.notMem_toString n))

end Lines

namespace Plan

variable {plan : Plan}

theorem isLegible_documentSection (plan : Plan) :
    Page.IsLegible (Summary.documentSection plan) := by
  unfold Summary.documentSection
  cases plan.document with
  | none => exact .nil
  | some document =>
      have hShort : '[' ∉ (String.ofList ((documentId document).toList.take 12)).toList := by
        rw [String.toList_ofList]
        exact fun hIn => notMem_documentId document (List.mem_of_mem_take hIn)
      have hId : (Summary.detail ("sha256 " ++
          String.ofList ((documentId document).toList.take 12))).IsLegible :=
        isLegible_detail ((Unmarked.of_notMem hShort).append_of_notMem (by decide))
      exact ((Page.IsLegible.single hId).cons
        (isLegible_countLine _ (by rfl) (by decide) (by decide))).append (isLegible_blank .out)

theorem isLegible_dnsSection {lines : Page} (hSays : ∀ text, plan.Says text → Unmarked text)
    (h : Summary.dnsSection plan = .ok lines) : lines.IsLegible := by
  unfold Summary.dnsSection at h
  split at h
  case h_1 =>
    rw [← Except.ok.inj h]
    exact .nil
  case h_2 changes hDns =>
    obtain ⟨kinds, hKinds, hLines⟩ := bind_eq_ok_iff.mp h
    have hDetails : Page.IsLegible (kinds.map Summary.detail) := by
      refine .map fun kind hKind => isLegible_detail (hSays kind ?_)
      obtain ⟨change, hChange, hText⟩ := exists_mem_of_mem_results hKinds hKind
      exact .change hDns hChange hText
    rw [← pure_eq_ok_iff.mp hLines]
    exact (hDetails.cons (isLegible_countLine _ (by rfl) (by decide) (by decide))).append
      (isLegible_blank .out)

theorem isLegible_keySection (hSays : ∀ text, plan.Says text → Unmarked text) :
    Page.IsLegible (Summary.keySection plan) := by
  unfold Summary.keySection
  split
  · exact .nil
  · refine Page.IsLegible.append (.cons (.map fun key hKey => isLegible_detail ?_)
      (isLegible_countLine _ (by rfl) (by decide) (by decide))) (isLegible_blank .out)
    have hTags : Unmarked
        (if key.tags.isEmpty then "untagged" else Text.joinWith ", " key.tags) := by
      split
      · rfl
      · exact Unmarked.joinWith_comma fun tag hTag => hSays tag (.tag hKey hTag)
    rw [String.append_assoc, String.append_assoc]
    exact (hSays key.name (.key hKey)).append_append (by decide) (by decide) (by decide)
      (hTags.append rfl (by decide))

theorem isLegible_settingsSection (plan : Plan) :
    Page.IsLegible (Summary.settingsSection plan) := by
  refine Page.IsLegible.append (.cons (isLegible_blank .out)
    (isLegible_countLine _ (by rfl) (by decide) (by decide))) ?_
  split
  · exact .nil
  · exact .cons (isLegible_blank .out) (isLegible_countLine _ (by rfl) (by decide) (by decide))

theorem isLegible_warnings (hSays : ∀ text, plan.Says text → Unmarked text) :
    Page.IsLegible (itemList .out "Warnings:" "warning" plan.warnings) :=
  (InUse.of_mem "warning" (by decide)).isLegible_itemList .out (by rfl)
    fun warning hWarning => hSays warning (.warning hWarning)

/-- The report of a plan can be shown if no text in the plan has a mark. -/
theorem isLegible_ofPlan {page : Page} (hSays : ∀ text, plan.Says text → Unmarked text)
    (h : Summary.ofPlan plan = .ok page) : page.IsLegible := by
  have hBlank := isLegible_blank .out
  have hTitle : Page.IsLegible (header ("Plan: " ++ plan.name)) :=
    isLegible_header ((hSays _ .name).append_of_notMem (by decide))
  have hTailnet : (Summary.labelled "info" "Tailnet:" plan.tailnet).IsLegible :=
    isLegible_labelled (InUse.of_mem "info" (by decide)) rfl (hSays _ .tailnet)
  have hTop : Page.IsLegible (blank .out ++ header ("Plan: " ++ plan.name) ++
      [Summary.labelled "info" "Tailnet:" plan.tailnet] ++ blank .out) :=
    ((hBlank.append hTitle).append (.single hTailnet)).append hBlank
  unfold Summary.ofPlan at h
  cases hSucceeded : plan.succeeded with
  | false =>
      rw [hSucceeded] at h
      rw [← pure_eq_ok_iff.mp h]
      have hErrors : Page.IsLegible (plan.errors.map fun error =>
          .line .err ("   " ++ styled "error" "•" ++ " " ++ error)) :=
        .map fun error hError => (InUse.of_mem "error" (by decide)).legible_item 3 rfl
          (hSays error (.error hError))
      exact (((hTop.append (isLegible_failure (by rfl))).append hErrors).append
        (isLegible_blank .err)).append (isLegible_warning (by rfl))
  | true =>
      rw [hSucceeded] at h
      obtain ⟨dns, hDns, hPage⟩ := bind_eq_ok_iff.mp h
      rw [← pure_eq_ok_iff.mp hPage]
      have hHeadline : (Print.line .out
          (styled "bold" "The following changes will be applied:")).IsLegible :=
        InUse.bold.legible_alone rfl
      refine Page.IsLegible.append (.append (.append (.append (.append (.append (.append (.append
        (.append hTop (.single hHeadline)) hBlank) ?_) ?_) ?_) ?_) ?_) ?_) hBlank
      · exact isLegible_documentSection plan
      · exact isLegible_dnsSection hSays hDns
      · exact isLegible_keySection hSays
      · exact isLegible_settingsSection plan
      · split
        · exact .nil
        · exact isLegible_warnings hSays
      · refine .single (isLegible_labelled .bold (by rfl) (unmarked_count _ (by decide)))

theorem notMem_oneDecimal (seconds : Float) : '[' ∉ (Decimal.oneDecimal seconds).toList := by
  unfold Decimal.oneDecimal
  cases hParts : Decimal.Parts.ofFloat seconds with
  | finite negative magnitude =>
      dsimp only
      split <;> simp [Unmarked.notMem_toDigits]
  | nan => simp [Decimal.Layout.render, hParts, Decimal.plain]
  | infinite negative => cases negative <;> simp [Decimal.Layout.render, hParts, Decimal.plain]

theorem Foreseen.legible_conclusion {outcome : Outcome} (h : plan.Foreseen outcome)
    (seconds : Float) : Legible (Summary.conclusion outcome seconds) := by
  have hCyan : InUse "bold cyan" := InUse.bold_of_mem "cyan" (by decide)
  have hYellow : InUse "bold yellow" := InUse.bold_of_mem "yellow" (by decide)
  unfold Summary.conclusion
  cases hSucceeded : outcome.succeeded with
  | true =>
      rw [h.dryRun]
      exact hCyan.legible_alone rfl
  | false =>
      have hDuration : Unmarked
          (if 0.0 < seconds then " in " ++ Decimal.oneDecimal seconds ++ "s" else "") := by
        split
        · refine .of_notMem ?_
          simp [notMem_oneDecimal]
        · rfl
      rw [h.dryRun]
      refine hYellow.legible_alone ?_
      refine Unmarked.append_of_notMem ?_ hDuration
      simp [Unmarked.notMem_toDigits]

theorem Announces.notMem_name {output : String × Value} (h : plan.Announces output) :
    '[' ∉ output.1.toList := by
  cases h with
  | document => exact (by decide : '[' ∉ "aclId".toList)
  | magicDns => exact (by decide : '[' ∉ "magicDnsEnabled".toList)
  | searchPaths => exact (by decide : '[' ∉ "dnsSearchPaths".toList)

theorem Announces.unmarked_display {output : String × Value} {text : String}
    (h : plan.Announces output) (hSays : ∀ text, plan.Says text → Unmarked text)
    (hText : output.2.display = .ok text) : Unmarked text := by
  cases h with
  | document document =>
      obtain rfl : documentId document = text := Except.ok.inj hText
      exact .of_notMem (notMem_documentId document)
  | magicDns =>
      cases hOn : plan.options.magicDns with
      | true =>
          rw [hOn] at hText
          obtain rfl : "True" = text := Except.ok.inj hText
          rfl
      | false =>
          rw [hOn] at hText
          obtain rfl : "False" = text := Except.ok.inj hText
          rfl
  | searchPaths => exact hSays text (.searchPaths hText)

/-- The report of a dry run can be shown if no text in the plan has a mark. -/
theorem Foreseen.isLegible_ofOutcome {outcome : Outcome} {seconds : Float} {page : Page}
    (hForeseen : plan.Foreseen outcome) (hSays : ∀ text, plan.Says text → Unmarked text)
    (h : Summary.ofOutcome outcome seconds = .ok page) : page.IsLegible := by
  obtain ⟨outputs, hOutputs, hPage⟩ := bind_eq_ok_iff.mp h
  have hBlank := isLegible_blank .out
  have hConclusion : (Print.line .out (Summary.conclusion outcome seconds)).IsLegible :=
    hForeseen.legible_conclusion seconds
  have hOutputLines : Page.IsLegible outputs := by
    intro line hLine
    obtain ⟨output, hOutput, hShown⟩ := exists_mem_of_mem_results hOutputs hLine
    obtain ⟨text, hText, hPrint⟩ := bind_eq_ok_iff.mp hShown
    have hAnnounces := hForeseen.outputs output hOutput
    rw [← pure_eq_ok_iff.mp hPrint]
    exact (InUse.of_mem "cyan" (by decide)).legible_item 2
      ((Unmarked.of_notMem hAnnounces.notMem_name).append rfl (by decide))
      (hAnnounces.unmarked_display hSays hText)
  have hTitle : (Print.line .out (styled "bold" "Outputs:")).IsLegible :=
    InUse.bold.legible_alone rfl
  rw [← pure_eq_ok_iff.mp hPage, hForeseen.applied]
  refine Page.IsLegible.append (.append (.append (.append (.append (.append (.append
    hBlank .nil) hBlank) (.single hConclusion)) ?_) ?_) ?_) hBlank
  · split
    · exact .nil
    · exact (hBlank.append (.single hTitle)).append hOutputLines
  · rw [hForeseen.warnings]
    split
    · exact .nil
    · exact hBlank.append (isLegible_warnings hSays)
  · split
    · exact .nil
    · refine hBlank.append ((InUse.of_mem "error" (by decide)).isLegible_itemList .out (by rfl) ?_)
      rw [hForeseen.errors]
      exact List.forall_mem_map.mpr fun cause hCause =>
        (hSays cause (.error hCause)).append_of_notMem (by decide)

end Plan

namespace Command

variable {machine : Machine} {file : String} {environment : Option String} {source : Source}

theorem isLegible_invalidPage {lines : List String} (h : ∀ line ∈ lines, Unmarked line) :
    Page.IsLegible (invalidPage lines) :=
  ((isLegible_failure (by rfl)).append (isLegible_blank .out)).append
    ((InUse.of_mem "error" (by decide)).isLegible_itemList .out (by rfl) h)

theorem isLegible_validPage {compilation : Compilation}
    (hSays : ∀ text, source.Says text → Unmarked text)
    (hCompile : source.compile true (some 2) = .ok compilation) :
    Page.IsLegible (validPage source compilation) := by
  have hBlank := isLegible_blank .out
  have hLines : Page.IsLegible
      [Summary.labelled "bold" "Policy:" source.name,
        Summary.labelled "bold" "ACL rules:" (toString compilation.document.access.length),
        Summary.labelled "bold" "SSH rules:" (toString compilation.document.shell.length)] :=
    .cons (.cons (.single (isLegible_numberLine _ (by rfl))) (isLegible_numberLine _ (by rfl)))
      (isLegible_labelled .bold (by rfl) (hSays _ .name))
  refine Page.IsLegible.append
    ((((isLegible_success (by rfl)).append hBlank).append hLines).append hBlank) ?_
  split
  · exact .nil
  · have hItems : Page.IsLegible (compilation.validation.warnings.map fun unused =>
        .line .out ("  " ++ styled "warning" "•" ++ " " ++ unused.message)) :=
      .map fun unused hUnused => (InUse.of_mem "warning" (by decide)).legible_item 2 rfl
        (hSays _ (.warning hCompile hUnused))
    exact ((isLegible_warning (by rfl)).append hItems).append hBlank

theorem isLegible_validateTop : ∀ environment : Option String,
    (∀ name, environment = some name → Unmarked name) →
      Page.IsLegible (header "Validate Policy" ++ blank .out ++ match environment with
        | none | some "" => []
        | some name => Summary.labelled "info" "Environment:" name :: blank .out) := by
  intro environment hEnvironment
  have hBlank := isLegible_blank .out
  refine ((isLegible_header (by rfl)).append hBlank).append ?_
  split
  case h_1 => exact .nil
  case h_2 => exact .nil
  case h_3 name _ =>
    exact .cons hBlank
      (isLegible_labelled (InUse.of_mem "info" (by decide)) (by rfl) (hEnvironment name rfl))

/-- Validation can show its page if neither the policy nor the name of its environment has a
mark. -/
theorem isLegible_validate (h : machine.source file environment = .ok source)
    (hEnvironment : ∀ name, environment = some name → Unmarked name)
    (hSays : ∀ text, source.Says text → Unmarked text) (strict : Bool) :
    (runValidate machine file environment strict).page.IsLegible := by
  have hTop := isLegible_validateTop environment hEnvironment
  unfold runValidate
  cases source.compiles with
  | valid hCompile hSucceeded hOutput hPublishes =>
      rw [compilation_of_ok h hCompile]
      dsimp only
      rw [hSucceeded, if_neg (by decide)]
      have hPage := hTop.append (isLegible_validPage hSays hCompile)
      have hStrict : Page.IsLegible
          (Terminal.failure "Validation failed (strict mode treats warnings as errors)") :=
        isLegible_failure (by rfl)
      split
      · exact hPage.append hStrict
      · exact hPage
  | violated hCompile hSucceeded hInvalid =>
      rw [compilation_of_ok h hCompile]
      dsimp only
      rw [hSucceeded, if_pos (by decide)]
      exact hTop.append (isLegible_invalidPage fun line hLine =>
        hSays line (.violation hCompile hLine))
  | refused hCompile hReport hInvalid =>
      rw [compilation_of_error h hCompile hReport]
      exact hTop.append (isLegible_invalidPage
        (List.forall_mem_singleton.mpr (hSays _ (.refusal hCompile hReport))))
  | unencodable hCompile hReport hUnencodable =>
      rw [compilation_of_unreported h hCompile hReport]
      exact hTop

theorem isLegible_deliver {document : String} {output : Option String}
    (hOutput : ∀ name, output = some name → Unmarked (FilePath.ofText name).text) :
    (deliver machine document output).page.IsLegible := by
  unfold deliver
  split
  case h_1 => exact .single trivial
  case h_2 name hName =>
    dsimp only
    split
    case h_1 => exact .nil
    case h_2 =>
      have hSize : Unmarked (toString (Text.bytesOf document).length ++ " bytes)") :=
        unmarked_count _ (by decide)
      refine isLegible_success ?_
      rw [String.append_assoc, String.append_assoc, String.append_assoc]
      exact ((hOutput name (Option.filter_eq_some_iff.mp hName).1).append_append (by decide)
        (by decide) (by decide) hSize).append_of_notMem (by decide)

/-- Compilation can show its page if neither the policy nor the path of the file to write has a
mark. -/
theorem isLegible_compile (h : machine.source file environment = .ok source)
    {output : Option String}
    (hOutput : ∀ name, output = some name → Unmarked (FilePath.ofText name).text)
    (hSays : ∀ text, source.Says text → Unmarked text) :
    (runCompile machine file environment output).page.IsLegible := by
  unfold runCompile
  cases source.compiles with
  | valid hCompile hSucceeded hDocument hPublishes =>
      rw [compilation_of_ok h hCompile]
      dsimp only
      rw [hSucceeded, hDocument]
      exact isLegible_deliver hOutput
  | violated hCompile hSucceeded hInvalid =>
      rw [compilation_of_ok h hCompile]
      dsimp only
      rw [hSucceeded]
      have hMessage (n : Nat) :
          Unmarked ("Compilation failed: " ++ toString n ++ " violations") :=
        .of_notMem (by simp [Unmarked.notMem_toDigits])
      exact ((isLegible_failure (hMessage _)).append (isLegible_blank .err)).append
        ((InUse.of_mem "error" (by decide)).isLegible_itemList .err (by rfl) fun line hLine =>
          hSays line (.violation hCompile hLine))
  | refused hCompile hReport hInvalid =>
      rw [compilation_of_error h hCompile hReport]
      exact isLegible_failure ((hSays _ (.refusal hCompile hReport)).append_of_notMem (by decide))
  | unencodable hCompile hReport hUnencodable =>
      rw [compilation_of_unreported h hCompile hReport]
      exact .nil

theorem isLegible_reportPage (machine : Machine) {page : Except Integer.NumeralError Page}
    (status : Nat) (h : ∀ shown, page = .ok shown → shown.IsLegible) :
    (reportPage machine page status).page.IsLegible := by
  cases page with
  | ok shown => exact h shown rfl
  | error cause => exact .nil

theorem isLegible_plan (settings : Settings) (h : machine.source file environment = .ok source)
    (hSays : ∀ text, (source.draft settings.tailnet true).Says text → Unmarked text) :
    (runPlan settings machine file environment .text).page.IsLegible := by
  by_cases hUnencodable : source.Unencodable
  · obtain ⟨abort, hBreaks⟩ := runPlan_of_unencodable settings .text h hUnencodable
    rw [hBreaks]
    exact .nil
  · rw [runPlan_of_encodable settings .text h hUnencodable]
    exact isLegible_reportPage machine _ fun _ hPage => Plan.isLegible_ofPlan hSays hPage

theorem isLegible_dryRun (settings : Settings) (h : machine.source file environment = .ok source)
    (hSays : ∀ text, (source.draft settings.tailnet true).Says text → Unmarked text) :
    (runApply settings machine file environment true .text).page.IsLegible := by
  by_cases hUnencodable : source.Unencodable
  · obtain ⟨abort, hBreaks⟩ := runApply_of_unencodable settings .text h hUnencodable
    rw [hBreaks]
    exact .nil
  · rw [runApply_of_encodable settings .text h hUnencodable]
    have hForeseen := (source.draft settings.tailnet true).foreseen_apply
      ({ settings.client with halves := machine.halves } : Http.Client).controlPlane machine.wire
    exact isLegible_reportPage _ _ fun _ hPage => hForeseen.isLegible_ofOutcome hSays hPage

/-- Neither a policy nor the names that are given with it have a mark where a command shows them. -/
structure Markless (settings : Settings) (environment output : Option String) (source : Source) :
    Prop where
  environment : ∀ name, environment = some name → Unmarked name
  output : ∀ name, output = some name → Unmarked (FilePath.ofText name).text
  policy : ∀ text, source.Says text → Unmarked text
  plan : ∀ text, (source.draft settings.tailnet true).Says text → Unmarked text

end Command

end Tailnet
