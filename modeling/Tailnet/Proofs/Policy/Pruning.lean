import Tailnet.Proofs.Policy.Integrity
import Tailnet.Proofs.Policy.Locality
import Tailnet.Proofs.Session.Rebuilding

/-!
Declarations that nothing refers to, as warnings name them, and what becomes of a document without
them. A reference counts as a use of the declaration whose name stands behind its mark. It is looked
up by that name, too, but a mark that is still there is removed first. So a declaration can be
called unused though a reference is resolved to it, and only then is it missed.
-/

namespace Tailnet

open Text

/-- A source with a tag and a host of which no rule speaks. -/
def staleSource : Source :=
  { officeSource with
    groups := [("ops", ["alice@example.com"])]
    tagOwners := [("web", ["group:ops"]), ("old", ["tag:web"])]
    hosts := [("spare", "10.0.0.9")]
    acls := [⟨"accept", ["tag:web"], ["*:*"]⟩]
    ssh := []
    exitNode := []
    routes := [] }

/-- Whether a document refers to a declaration with the mark of its kind twice. -/
def Document.MarksTwice (document : Document) (declared : Unused) : Prop :=
  declared.kind ≠ .host ∧ ∃ r ∈ document.checked,
    r.principal.kind = declared.kind.principalKind ∧
      r.principal.name = declared.kind.mark ++ declared.name

/-- What is changed by removing a mark has one. -/
theorem eq_mark_append_of_unmarked_ne {kind : DeclarationKind} {name : String}
    (h : name ≠ unmarked kind name) : kind ≠ .host ∧ name = kind.mark ++ unmarked kind name := by
  constructor
  · rintro rfl
    exact h rfl
  · cases hStarts : startsWith kind.mark name with
    | true =>
        obtain ⟨rest, rfl⟩ := startsWith_iff.mp hStarts
        rw [unmarked_mark_append]
    | false => exact absurd (unmarked_of_startsWith_eq_false hStarts).symm h

namespace Catalog

variable {catalog : Catalog} {reference : Reference}

theorem not_lacks_of_finding? {p : Principal} {found : Option Finding}
    (h : catalog.finding? p = .ok found) : ¬catalog.Lacks p := by
  rintro ⟨hKind, hDeclares, hNone⟩
  simp [finding?, hKind, hDeclares, hNone] at h

theorem reported_eq_nil_iff (h : ¬catalog.Lacks reference.principal) :
    catalog.reported reference = [] ↔ catalog.finding? reference.principal = .ok none := by
  obtain ⟨found, hFound⟩ := exists_checkReference_iff.mpr h
  rw [reported, hFound]
  constructor
  · rintro (rfl : found = [])
    exact finding?_eq_ok_none_of_checkReference hFound
  · intro hNone
    rw [checkReference, hNone] at hFound
    cases hFound
    rfl

theorem reportedOwner_eq_nil_iff (h : ¬catalog.Lacks reference.principal) :
    catalog.reportedOwner reference = [] ↔
      reference.principal.kind.mayOwn = true ∧
        catalog.finding? reference.principal = .ok none := by
  rw [← reported_eq_nil_iff h, reportedOwner, reported, checkOwner]
  split
  case isTrue hOwns => simp [hOwns]
  case isFalse hOwns => simp [hOwns, Except.toOption]

theorem ownerReferences_without_subset (catalog : Catalog) (removed : List Unused) :
    (catalog.without removed).ownerReferences ⊆ catalog.ownerReferences := by
  intro r hr
  obtain ⟨tag, hTag, hr⟩ := List.mem_flatMap.mp hr
  obtain ⟨entry, hEntry, rfl⟩ := List.mem_map.mp hTag
  exact List.mem_flatMap.mpr ⟨_, List.mem_map_of_mem (List.mem_filter.mp hEntry).1, hr⟩

theorem memberReferences_without_subset (catalog : Catalog) (removed : List Unused) :
    (catalog.without removed).memberReferences ⊆ catalog.memberReferences := by
  intro r hr
  obtain ⟨group, hGroup, hr⟩ := List.mem_flatMap.mp hr
  obtain ⟨entry, hEntry, rfl⟩ := List.mem_map.mp hGroup
  exact List.mem_flatMap.mpr ⟨_, List.mem_map_of_mem (List.mem_filter.mp hEntry).1, hr⟩

end Catalog

namespace Document

variable {document : Document} {removed : List Unused}

theorem checked_without_subset (document : Document) (removed : List Unused) :
    (document.without removed).checked ⊆ document.checked := by
  have hOwners := document.catalog.ownerReferences_without_subset removed
  have hMembers := document.catalog.memberReferences_without_subset removed
  intro r hr
  simp only [checked, List.mem_append] at hr ⊢
  exact hr.imp_left fun hDeclared => hDeclared.imp (@hOwners r) (@hMembers r)

/-- Nothing is reported exactly if nothing is wrong with a reference, all owners can own, and the
rules and grants are well formed. -/
structure Spotless (document : Document) : Prop where
  resolved : ∀ r ∈ document.checked, document.catalog.finding? r.principal = .ok none
  owned : ∀ r ∈ document.catalog.ownerReferences, r.principal.kind.mayOwn = true
  access : ∀ entry ∈ document.access.zipIdx, entry.1.shape entry.2 = []
  shell : ∀ entry ∈ document.shell.zipIdx, entry.1.shape entry.2 = []
  approvers : ∀ r ∈ document.references, approverShape? r = none

theorem reported_eq_nil_iff
    (h : ∀ reference ∈ document.checked, ¬document.catalog.Lacks reference.principal) :
    document.reported = [] ↔ document.Spotless := by
  simp only [checked, List.forall_mem_append] at h
  obtain ⟨⟨hOwners, hMembers⟩, hOthers⟩ := h
  simp only [reported, List.append_eq_nil_iff, List.flatMap_eq_nil_iff, List.filterMap_eq_nil_iff]
  constructor
  · rintro ⟨⟨⟨⟨⟨hOwner, hMember⟩, hOther⟩, hAccess⟩, hShell⟩, hApprovers⟩
    refine ⟨?_, ?_, hAccess, hShell, hApprovers⟩
    · simp only [checked, List.forall_mem_append]
      refine ⟨⟨fun r hr => ?_, fun r hr => ?_⟩, fun r hr => ?_⟩
      · exact ((Catalog.reportedOwner_eq_nil_iff (hOwners r hr)).mp (hOwner r hr)).2
      · exact (Catalog.reported_eq_nil_iff (hMembers r hr)).mp (hMember r hr)
      · exact (Catalog.reported_eq_nil_iff (hOthers r hr)).mp (hOther r hr)
    · intro r hr
      exact ((Catalog.reportedOwner_eq_nil_iff (hOwners r hr)).mp (hOwner r hr)).1
  · rintro ⟨hResolved, hOwned, hAccess, hShell, hApprovers⟩
    simp only [checked, List.forall_mem_append] at hResolved
    obtain ⟨⟨hOwner, hMember⟩, hOther⟩ := hResolved
    refine ⟨⟨⟨⟨⟨fun r hr => ?_, fun r hr => ?_⟩, fun r hr => ?_⟩, hAccess⟩, hShell⟩, hApprovers⟩
    · exact (Catalog.reportedOwner_eq_nil_iff (hOwners r hr)).mpr ⟨hOwned r hr, hOwner r hr⟩
    · exact (Catalog.reported_eq_nil_iff (hMembers r hr)).mpr (hMember r hr)
    · exact (Catalog.reported_eq_nil_iff (hOthers r hr)).mpr (hOther r hr)

theorem mem_unused_iff {declared : Unused} :
    declared ∈ document.unused ↔ declared.name ∈ document.catalog.entryNames declared.kind ∧
      ∀ p ∈ document.uses, p.kind = declared.kind.principalKind → p.name ≠ declared.name := by
  obtain ⟨kind, name⟩ := declared
  cases kind <;>
    simp [unused, isUsed, Catalog.entryNames, DeclarationKind.principalKind]

namespace Spotless

variable (h : document.Spotless)

include h

/-- What is looked up counts as a use, since all owners can own. -/
theorem mem_uses {r : Reference} (hr : r ∈ document.checked) : r.principal ∈ document.uses := by
  refine List.mem_map_of_mem ?_
  simp only [checked, List.mem_append] at hr ⊢
  refine hr.imp_left fun hDeclared => hDeclared.imp_left fun hOwner => ?_
  exact List.mem_filter.mpr ⟨hOwner, h.owned r hOwner⟩

/-- What was resolved is looked up without some declarations, too, and is reported exactly if it was
resolved to one of them. -/
theorem exists_finding_without {r : Reference} (hr : r ∈ (document.without removed).checked) :
    ∃ found, (document.without removed).catalog.finding? r.principal = .ok found ∧
      (found = none ↔ ∀ kind : DeclarationKind, r.principal.kind = kind.principalKind →
        ⟨kind, unmarked kind r.principal.name⟩ ∉ removed) :=
  Catalog.finding?_without (h.resolved r (document.checked_without_subset removed hr))

/-- Without some declarations nothing else is reported than what was resolved to them. -/
theorem without_iff : (document.without removed).Spotless ↔
    ∀ r ∈ (document.without removed).checked, ∀ kind : DeclarationKind,
      r.principal.kind = kind.principalKind → ⟨kind, unmarked kind r.principal.name⟩ ∉ removed := by
  constructor
  · intro hSpotless r hr
    obtain ⟨found, hFinding, hNone⟩ := h.exists_finding_without hr
    rw [← hNone]
    exact Except.ok.inj (hFinding.symm.trans (hSpotless.resolved r hr))
  · intro hKept
    refine ⟨fun r hr => ?_, fun r hr => ?_, h.access, h.shell, h.approvers⟩
    · obtain ⟨found, hFinding, hNone⟩ := h.exists_finding_without hr
      rw [← hNone.mpr (hKept r hr)]
      exact hFinding
    · exact h.owned r (document.catalog.ownerReferences_without_subset removed hr)

/-- What is unused was nevertheless resolved to exactly if a mark stands twice. -/
theorem without_unused_iff : (document.without document.unused).Spotless ↔
    ∀ declared ∈ document.unused, ¬(document.without document.unused).MarksTwice declared := by
  rw [h.without_iff]
  constructor
  · rintro hKept ⟨kind, name⟩ hUnused ⟨-, r, hr, hKind, hName⟩
    have hOther := hKept r hr kind hKind
    rw [hName, unmarked_mark_append] at hOther
    exact hOther hUnused
  · intro hOnce r hr kind hKind hUnused
    have hUse := h.mem_uses (document.checked_without_subset document.unused hr)
    have hNe := (mem_unused_iff.mp hUnused).2 r.principal hUse hKind
    obtain ⟨hMarked, hName⟩ := eq_mark_append_of_unmarked_ne hNe
    exact hOnce _ hUnused ⟨hMarked, r, hr, hKind, hName⟩

end Spotless

/-- The document of a source and its validation are seen to exist by a check of both. -/
theorem exists_of_source (source : Source) (check : Document → Validation → Bool)
    (h : source.document.toOption.any (fun document =>
      (document.validate true).toOption.any (check document)) = true) :
    ∃ document validation, source.document = .ok document ∧
      document.validate true = .ok validation ∧ check document validation = true := by
  obtain ⟨document, hDocument, hValidate⟩ := (Option.any_eq_true _ _).mp h
  obtain ⟨validation, hValidation, hCheck⟩ := (Option.any_eq_true _ _).mp hValidate
  exact ⟨document, validation, toOption_eq_some_iff.mp hDocument,
    toOption_eq_some_iff.mp hValidation, hCheck⟩

/-- Removing what the warnings name leaves a document that comes about, too, and that can be
validated. Where nothing was violated before, nothing is violated then exactly if none of the
removed declarations is referred to with its mark twice. -/
theorem valid_without_unused_iff {validation : Validation} (h : document.Made)
    (hValidate : document.validate true = .ok validation) (hValid : validation.violations = [])
    (lint : Bool) :
    (document.without validation.warnings).Made ∧
    ∃ again, (document.without validation.warnings).validate lint = .ok again ∧
      (again.violations = [] ↔ ∀ declared ∈ validation.warnings,
        ¬(document.without validation.warnings).MarksTwice declared) := by
  obtain ⟨hGoes, rfl⟩ := validate_eq_ok_iff.mp hValidate
  have hSpotless : document.Spotless := (reported_eq_nil_iff hGoes).mp hValid
  have hGoesAgain : ∀ r ∈ (document.without document.unused).checked,
      ¬(document.without document.unused).catalog.Lacks r.principal := by
    intro r hr
    obtain ⟨found, hFound, -⟩ := hSpotless.exists_finding_without hr
    exact Catalog.not_lacks_of_finding? hFound
  refine ⟨h.without _, _, validate_eq_ok_iff.mpr ⟨hGoesAgain, rfl⟩, ?_⟩
  exact (reported_eq_nil_iff hGoesAgain).trans hSpotless.without_unused_iff

/-- The document of the source has two declarations too many. -/
theorem valid_without_staleSource :
    ∃ (document : Document) (validation : Validation), document.Made ∧
      document.validate true = .ok validation ∧ validation.violations = [] ∧
      validation.warnings = [⟨.tag, "old"⟩, ⟨.host, "spare"⟩] ∧
      (document.without validation.warnings).Made ∧
      ∃ again, (document.without validation.warnings).validate true = .ok again ∧
        (again.violations = [] ↔ ∀ declared ∈ validation.warnings,
          ¬(document.without validation.warnings).MarksTwice declared) := by
  obtain ⟨document, validation, hDocument, hValidate, hCheck⟩ :=
    exists_of_source staleSource (fun _ validation =>
      validation.isValid && validation.warnings = [⟨.tag, "old"⟩, ⟨.host, "spare"⟩])
      (by decide +kernel)
  simp only [Bool.and_eq_true, decide_eq_true_eq] at hCheck
  have hValid := List.isEmpty_iff.mp hCheck.1
  exact ⟨document, validation, .source _ hDocument, hValidate, hValid, hCheck.2,
    valid_without_unused_iff (.source _ hDocument) hValidate hValid true⟩

/-- A source with a rule that marks its only tag twice. -/
def twiceMarkedSource : Source :=
  { staleSource with
    groups := []
    tagOwners := [("server", ["admin"])]
    hosts := []
    acls := [⟨"accept", ["tag:tag:server"], ["*:*"]⟩] }

/-- The tag is said to be unused, but without it the rule is violated. -/
theorem exists_unused_missed :
    ∃ (document : Document) (validation : Validation), document.Made ∧
      document.validate true = .ok validation ∧ validation.violations = [] ∧
      validation.warnings = [⟨.tag, "server"⟩] ∧
      ∃ again, (document.without validation.warnings).validate true = .ok again ∧
        again.violations.map Violation.finding = [.unknownTag "tag:tag:server"] := by
  obtain ⟨document, validation, hDocument, hValidate, hCheck⟩ :=
    exists_of_source twiceMarkedSource (fun document validation =>
      validation.isValid && validation.warnings = [⟨.tag, "server"⟩] &&
        ((document.without validation.warnings).validate true).toOption.any fun again =>
          again.violations.map Violation.finding = [.unknownTag "tag:tag:server"])
      (by decide +kernel)
  simp only [Bool.and_eq_true, decide_eq_true_eq] at hCheck
  obtain ⟨⟨hValid, hWarnings⟩, hMissed⟩ := hCheck
  obtain ⟨again, hAgain, hFound⟩ := (Option.any_eq_true _ _).mp hMissed
  exact ⟨document, validation, .source _ hDocument, hValidate, List.isEmpty_iff.mp hValid,
    hWarnings, again, toOption_eq_some_iff.mp hAgain, of_decide_eq_true hFound⟩

end Document

end Tailnet
