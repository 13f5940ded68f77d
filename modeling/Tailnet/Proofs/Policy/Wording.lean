import Tailnet.Proofs.Policy.FixedPoint

/-!
Everything that is wrong with a source can be put in words, but for one thing. A compilation is
refused for a problem of the policy, which has its report, and every violation has its line: the
mistakes that only a caller could make, and numbers too long to be shown, do not occur. Surrogates
in a policy without violations do, and they have no report.
-/

namespace Tailnet

namespace Catalog

/-- Whether a catalog takes declarations. -/
def IsOpen (catalog : Catalog) : Prop := catalog.isSealed = false

/-- Whether an error is a problem of the policy. -/
def IsReported (cause : CatalogError) : Prop := cause.report?.isSome = true

theorem claim_meets {catalog : Catalog} (h : catalog.IsOpen) (kind : DeclarationKind)
    (written : String) : Meets (fun result => result.1.IsOpen) IsReported
      (catalog.claim kind written) := by
  unfold claim
  rw [if_neg (by rw [h]; exact Bool.false_ne_true)]
  split
  · exact .error rfl
  · split
    · split
      · exact .error rfl
      · exact .error rfl
    · exact .ok h

theorem registerGroup_meets {catalog : Catalog} (h : catalog.IsOpen) (written : String)
    (members : List String) : Meets (fun result => result.1.IsOpen) IsReported
      (catalog.registerGroup written members) :=
  (claim_meets h .group written).bind fun _ hOpen => .ok hOpen

theorem registerTag_meets {catalog : Catalog} (h : catalog.IsOpen) (written : String)
    (owners : List String) : Meets (fun result => result.1.IsOpen) IsReported
      (catalog.registerTag written owners) :=
  (claim_meets h .tag written).bind fun _ hOpen => .ok hOpen

theorem registerHost_meets {catalog : Catalog} (h : catalog.IsOpen) (written address : String) :
    Meets (fun result => result.1.IsOpen) IsReported (catalog.registerHost written address) := by
  have hAddress : Meets (fun _ => True) IsReported (hostAddress address) := by
    unfold hostAddress
    split
    · exact .ok trivial
    · exact .error rfl
  exact hAddress.bind fun _ _ => (claim_meets h .host written).bind fun _ hOpen => .ok hOpen

/-- Entries made in order keep a catalog open, and what stops them is reported. -/
theorem foldlM_meets {δ ρ : Type} (register : Catalog → δ → Except CatalogError (Catalog × ρ))
    (hStep : ∀ c d, c.IsOpen → Meets (fun result => result.1.IsOpen) IsReported (register c d))
    {catalog : Catalog} (h : catalog.IsOpen) (declarations : List δ) :
    Meets IsOpen IsReported
      (declarations.foldlM (fun c d => return (← register c d).1) catalog) := by
  refine .foldlM (fun c d hOpen => ?_) h declarations
  exact (hStep c d hOpen).bind fun _ hNext => .ok hNext

/-- A catalog that is only being filled is not found sealed. -/
theorem ofDeclarations_meets (groups tags : Table String (List String))
    (hosts : Table String String) :
    Meets IsOpen IsReported (ofDeclarations groups tags hosts) := by
  have hEmpty : empty.IsOpen := rfl
  have hGroups := foldlM_meets (fun c (d : String × List String) => c.registerGroup d.1 d.2)
    (fun _ d hOpen => registerGroup_meets hOpen d.1 d.2) hEmpty groups
  refine hGroups.bind fun first hFirst => ?_
  have hTags := foldlM_meets (fun c (d : String × List String) => c.registerTag d.1 d.2)
    (fun _ d hOpen => registerTag_meets hOpen d.1 d.2) hFirst tags
  refine hTags.bind fun second hSecond => ?_
  exact foldlM_meets (fun c (d : String × String) => c.registerHost d.1 d.2)
    (fun _ d hOpen => registerHost_meets hOpen d.1 d.2) hSecond hosts

end Catalog

namespace Violation

/-- Whether a violation is about a text. -/
def NamesText (v : Violation) : Prop := ∃ token, v.identifier = .text token

theorem NamesText.exists_line {v : Violation} (h : v.NamesText) : ∃ line, v.line = .ok line := by
  obtain ⟨token, hToken⟩ := h
  have hDisplay : v.report.identifier.display = .ok token := by
    rw [report, hToken]
    rfl
  rw [line, Report.line, hDisplay]
  exact ⟨_, rfl⟩

end Violation

/-- Violations about texts alone. -/
def AllNameTexts (violations : List Violation) : Prop := ∀ v ∈ violations, v.NamesText

theorem allNameTexts_nil : AllNameTexts [] := List.forall_mem_nil _

theorem allNameTexts_single (finding : Finding) (token : String) (location : Path) :
    AllNameTexts [⟨finding, .text token, location⟩] :=
  List.forall_mem_singleton.mpr ⟨token, rfl⟩

theorem allNameTexts_append_iff {violations more : List Violation} :
    AllNameTexts (violations ++ more) ↔ AllNameTexts violations ∧ AllNameTexts more :=
  List.forall_mem_append

theorem allNameTexts_ite {c : Prop} [Decidable c] {violations more : List Violation}
    (h : AllNameTexts violations) (hMore : AllNameTexts more) :
    AllNameTexts (if c then violations else more) := by
  split
  · exact h
  · exact hMore

theorem allNameTexts_filterMap {α : Type} {f : α → Option Violation}
    (h : ∀ a v, f a = some v → v.NamesText) (items : List α) :
    AllNameTexts (items.filterMap f) := by
  intro v hv
  obtain ⟨a, -, hFound⟩ := List.mem_filterMap.mp hv
  exact h a v hFound

namespace Catalog

variable {catalog : Catalog} {reference : Reference} {found : List Violation}

theorem allNameTexts_of_checkReference (h : catalog.checkReference reference = .ok found) :
    AllNameTexts found := by
  obtain ⟨finding, -, hFound⟩ := bind_eq_ok_iff.mp h
  cases finding with
  | none =>
      cases hFound
      exact allNameTexts_nil
  | some finding =>
      cases hFound
      exact allNameTexts_single _ _ _

theorem allNameTexts_of_checkOwner (h : catalog.checkOwner reference = .ok found) :
    AllNameTexts found := by
  unfold checkOwner at h
  split at h
  · exact allNameTexts_of_checkReference h
  · cases h
    exact allNameTexts_single _ _ _

/-- What is found in references one by one is about texts if it is so for each of them. -/
theorem allNameTexts_of_mapM {check : Reference → Except Report (List Violation)}
    (hCheck : ∀ {reference found}, check reference = .ok found → AllNameTexts found)
    {references : List Reference} {found : List (List Violation)}
    (h : references.mapM check = .ok found) : AllNameTexts found.flatten := by
  rw [mapM_eq_ok_iff] at h
  induction h with
  | nil => exact allNameTexts_nil
  | cons hFirst _ ih =>
      rw [List.flatten_cons, allNameTexts_append_iff]
      exact ⟨hCheck hFirst, ih⟩

end Catalog

theorem AccessRule.allNameTexts_shape (rule : AccessRule) (index : Nat) :
    AllNameTexts (rule.shape index) := by
  simp only [shape, allNameTexts_append_iff]
  refine ⟨⟨⟨allNameTexts_ite allNameTexts_nil (allNameTexts_single _ _ _),
    allNameTexts_ite (allNameTexts_single _ _ _) allNameTexts_nil⟩,
    allNameTexts_ite (allNameTexts_single _ _ _) allNameTexts_nil⟩,
    allNameTexts_filterMap ?_ _⟩
  intro destination v hPorts
  obtain ⟨cause, -, rfl⟩ := Option.map_eq_some_iff.mp hPorts
  exact ⟨_, rfl⟩

theorem ShellSpec.allNameTexts_shape (spec : ShellSpec) (index : Nat) :
    AllNameTexts (spec.rule.shape index) := by
  have hPeriod : AllNameTexts
      (if spec.rule.checkPeriod.isNull ∨ spec.rule.action = "check" then []
        else [⟨.misplacedCheckPeriod, spec.rule.checkPeriod,
          [.field "ssh", .item index] ++ [.field "checkPeriod"]⟩]) := by
    cases hSpec : spec.checkPeriod with
    | none =>
        have hNull : spec.rule.checkPeriod.isNull = true := by
          rw [rule, ShellRule.read, hSpec]
          rfl
        rw [if_pos (Or.inl hNull)]
        exact allNameTexts_nil
    | some period =>
        have hText : spec.rule.checkPeriod = .text period := by
          rw [rule, ShellRule.read, hSpec]
          rfl
        rw [hText]
        exact allNameTexts_ite allNameTexts_nil (allNameTexts_single _ _ _)
  simp only [ShellRule.shape, allNameTexts_append_iff]
  refine ⟨⟨⟨⟨⟨⟨allNameTexts_ite allNameTexts_nil (allNameTexts_single _ _ _),
    allNameTexts_ite (allNameTexts_single _ _ _) allNameTexts_nil⟩,
    allNameTexts_ite (allNameTexts_single _ _ _) allNameTexts_nil⟩,
    allNameTexts_filterMap ?_ _⟩,
    allNameTexts_ite (allNameTexts_single _ _ _) allNameTexts_nil⟩,
    allNameTexts_filterMap ?_ _⟩, hPeriod⟩
  · intro destination v hFound
    split at hFound
    · cases hFound
      exact ⟨_, rfl⟩
    · cases hFound
  · intro user v hFound
    split at hFound
    · cases hFound
      exact ⟨_, rfl⟩
    · cases hFound

namespace Source

variable {source : Source} {lint : Bool} {indent : Option Int}

theorem isTextual_toValue {document : Document} (h : source.document = .ok document) :
    document.toValue.isTextual = true := by
  obtain ⟨-, grants, hGrants, rfl⟩ := document_eq_ok_iff.mp h
  rw [toValue_build hGrants]
  exact isTextual_rendering source grants

theorem allNameTexts_violations {document : Document} (h : source.document = .ok document)
    {violations : List Violation} (hViolations : document.violations = .ok violations) :
    AllNameTexts violations := by
  obtain ⟨-, grants, -, rfl⟩ := document_eq_ok_iff.mp h
  obtain ⟨owners, hOwners, hRest⟩ := bind_eq_ok_iff.mp hViolations
  obtain ⟨members, hMembers, hRest⟩ := bind_eq_ok_iff.mp hRest
  obtain ⟨references, hReferences, hResult⟩ := bind_eq_ok_iff.mp hRest
  cases hResult
  simp only [allNameTexts_append_iff]
  refine ⟨⟨⟨⟨⟨Catalog.allNameTexts_of_mapM Catalog.allNameTexts_of_checkOwner hOwners,
    Catalog.allNameTexts_of_mapM Catalog.allNameTexts_of_checkReference hMembers⟩,
    Catalog.allNameTexts_of_mapM Catalog.allNameTexts_of_checkReference hReferences⟩, ?_⟩, ?_⟩,
    allNameTexts_filterMap ?_ _⟩
  · intro v hv
    obtain ⟨⟨rule, i⟩, -, hShape⟩ := List.mem_flatMap.mp hv
    exact rule.allNameTexts_shape i v hShape
  · intro v hv
    obtain ⟨⟨rule, i⟩, hRule, hShape⟩ := List.mem_flatMap.mp hv
    have hIn := List.fst_mem_of_mem_zipIdx hRule
    rw [Document.build, ruleSet_eq] at hIn
    obtain ⟨spec, -, rfl⟩ := List.mem_map.mp hIn
    exact spec.allNameTexts_shape i v hShape
  · intro reference v hFound
    unfold approverShape? at hFound
    split at hFound
    · cases hFound
      exact ⟨_, rfl⟩
    · cases hFound

theorem document_meets (source : Source) :
    Meets (fun document => source.document = .ok document)
      (fun cause => ∃ report, cause.report? = some report) source.document := by
  have hCatalog :=
    Catalog.ofDeclarations_meets source.groups source.tagOwners source.hosts
  unfold document
  generalize Catalog.ofDeclarations source.groups source.tagOwners source.hosts = made at hCatalog
  cases hCatalog with
  | error hReported => exact .error (Option.isSome_iff_exists.mp hReported)
  | ok _ =>
      cases source.approvals with
      | error cause => exact .error ⟨cause.report, rfl⟩
      | ok approvals => exact .ok rfl

/-- Whether nothing is wrong with the policy of a source but that there are surrogates in it. -/
def Unencodable (source : Source) : Prop :=
  ∃ document, source.document = .ok document ∧ document.violations = .ok [] ∧
    document.toValue.isEncodable source.halves = false

theorem not_unencodable_of_error {cause : CompileError} (h : source.document = .error cause) :
    ¬source.Unencodable := by
  rintro ⟨document, hDocument, -⟩
  cases h.symm.trans hDocument

theorem unencodable_iff {document : Document} (h : source.document = .ok document) :
    source.Unencodable ↔
      document.violations = .ok [] ∧ document.toValue.isEncodable source.halves = false := by
  refine ⟨?_, fun hWrong => ⟨document, h, hWrong⟩⟩
  rintro ⟨other, hOther, hWrong⟩
  obtain rfl := Except.ok.inj (h.symm.trans hOther)
  exact hWrong

theorem halves_document {document : Document} (h : source.document = .ok document) :
    document.halves = source.halves := by
  obtain ⟨-, grants, -, rfl⟩ := document_eq_ok_iff.mp h
  rfl

/-- A source is refused for a problem of the policy, or if nothing else is wrong for surrogates.
Otherwise each of its violations has a line, and there is an output exactly if there are none. -/
theorem compile_meets (source : Source) (lint : Bool) (indent : Option Int) :
    Meets
      (fun compilation =>
        (∀ v ∈ compilation.validation.violations, ∃ line, v.line = .ok line) ∧
        (compilation.validation.violations = [] ↔ ∃ text, compilation.output = some text) ∧
        ¬source.Unencodable)
      (fun cause =>
        (∃ report, cause.report? = some report) ∧ ¬source.Unencodable ∨
          (∃ text, cause = .encoding (.unencodable source.halves text)) ∧ source.Unencodable)
      (source.compile lint indent) := by
  have hMeets := source.document_meets
  unfold compile
  cases hDocument : source.document with
  | error cause =>
      rw [hDocument] at hMeets
      cases hMeets with
      | error hReport => exact .error (.inl ⟨hReport, not_unencodable_of_error hDocument⟩)
  | ok document =>
      rw [unencodable_iff hDocument, ok_bind, Document.validate]
      generalize (if lint then document.unused else []) = warnings
      cases hViolations : document.violations with
      | error report =>
          refine .error (.inl ⟨⟨report, rfl⟩, ?_⟩)
          rintro ⟨hNone, -⟩
          cases hNone
      | ok violations =>
          have hLines : ∀ v ∈ violations, ∃ line, v.line = .ok line :=
            fun v hv => (allNameTexts_violations hDocument hViolations v hv).exists_line
          cases violations with
          | cons violation rest =>
              refine .ok ⟨hLines, ⟨?_, ?_⟩, ?_⟩
              · intro hNone
                cases hNone
              · rintro ⟨_, hOutput⟩
                cases hOutput
              · rintro ⟨hNone, -⟩
                cases hNone
          | nil =>
              have hTextual := isTextual_toValue hDocument
              rw [← halves_document hDocument]
              cases hWhole : document.toValue.isEncodable document.halves with
              | true =>
                  obtain ⟨text, hText⟩ := (Document.exists_serialize_iff hTextual indent).mpr hWhole
                  simp only [ok_bind, Except.mapError, hText]
                  refine .ok ⟨hLines, ⟨fun _ => ⟨text, rfl⟩, fun _ => rfl⟩, ?_⟩
                  rintro ⟨-, hHalf⟩
                  cases hHalf
              | false =>
                  obtain ⟨text, hText⟩ := Document.exists_unencodable hTextual hWhole indent
                  simp only [ok_bind, Except.mapError, hText]
                  exact .error (.inr ⟨⟨text, rfl⟩, trivial, trivial⟩)

/-- Surrogates alone keep a source from having a compilation that is reported, and nothing else. -/
theorem compile_eq_unencodable_iff (source : Source) (lint : Bool) (indent : Option Int) :
    (∃ text, source.compile lint indent = .error (.encoding (.unencodable source.halves text))) ↔
      source.Unencodable := by
  have hMeets := source.compile_meets lint indent
  constructor
  · rintro ⟨text, hText⟩
    rw [hText] at hMeets
    cases hMeets with
    | error hWrong =>
        rcases hWrong with ⟨⟨report, hReport⟩, -⟩ | ⟨-, hUnencodable⟩
        · cases hReport
        · exact hUnencodable
  · intro hUnencodable
    generalize source.compile lint indent = outcome at hMeets ⊢
    cases hMeets with
    | ok hOk => exact absurd hUnencodable hOk.2.2
    | error hWrong =>
        rcases hWrong with ⟨-, hNot⟩ | ⟨⟨text, rfl⟩, -⟩
        · exact absurd hUnencodable hNot
        · exact ⟨text, rfl⟩

theorem not_unencodable_of_compile {compilation : Compilation}
    (h : source.compile lint indent = .ok compilation) : ¬source.Unencodable := by
  have hMeets := source.compile_meets lint indent
  rw [h] at hMeets
  cases hMeets with
  | ok hOk => exact hOk.2.2

end Source

end Tailnet
