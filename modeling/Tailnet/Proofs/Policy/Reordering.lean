import Tailnet.Proofs.Policy.Locality

/-!
The order of declarations. Whether declarations can stand together is a matter of their names and
addresses, and what is looked up is looked up in the finished catalog. So a source whose groups,
tags or hosts are declared in another order has a document exactly if it had one before, and what is
reported about the document and what is warned of is the same; a tag may speak of a group or of a
tag that is declared after it.
-/

namespace Tailnet

namespace Catalog

/-- Two catalogs that hold the same declarations, each under a name of its own, in whatever
order. -/
structure Rearranged (catalog other : Catalog) : Prop where
  tags : catalog.tags.Perm other.tags
  groups : catalog.groups.Perm other.groups
  hosts : catalog.hosts.Perm other.hosts
  claims : catalog.claims.Perm other.claims
  nodup_tags : catalog.tags.keys.Nodup
  nodup_claims : catalog.claims.keys.Nodup

namespace Rearranged

variable {catalog other : Catalog}

theorem declares_eq (h : catalog.Rearranged other) (kind : DeclarationKind) (name : String) :
    catalog.declares kind name = other.declares kind name := by
  rw [declares, declares, Table.get?_of_perm h.claims h.nodup_claims]

theorem ownersOf?_eq (h : catalog.Rearranged other) (tag : String) :
    catalog.ownersOf? tag = other.ownersOf? tag := by
  rw [ownersOf?, ownersOf?, Table.get?_of_perm h.tags h.nodup_tags]

/-- A principal is looked up by name, so the order does not matter. -/
theorem finding?_eq (h : catalog.Rearranged other) (p : Principal) :
    catalog.finding? p = other.finding? p := by
  simp only [finding?, h.declares_eq, h.ownersOf?_eq]

theorem lacks_iff (h : catalog.Rearranged other) (p : Principal) :
    catalog.Lacks p ↔ other.Lacks p := by
  simp only [Lacks, h.declares_eq, h.ownersOf?_eq]

theorem checkReference_eq (h : catalog.Rearranged other) :
    catalog.checkReference = other.checkReference := by
  funext reference
  simp only [checkReference, h.finding?_eq]

theorem reported_eq (h : catalog.Rearranged other) : catalog.reported = other.reported := by
  funext reference
  rw [reported, reported, h.checkReference_eq]

theorem reportedOwner_eq (h : catalog.Rearranged other) :
    catalog.reportedOwner = other.reportedOwner := by
  funext reference
  simp only [reportedOwner, checkOwner, h.checkReference_eq]

theorem ownerReferences_perm (h : catalog.Rearranged other) :
    catalog.ownerReferences.Perm other.ownerReferences :=
  (h.tags.map Prod.snd).flatMap_right _

theorem memberReferences_perm (h : catalog.Rearranged other) :
    catalog.memberReferences.Perm other.memberReferences :=
  (h.groups.map Prod.snd).flatMap_right _

end Rearranged

section Declarations

variable {groups groups' tags tags' : Table String (List String)}
  {hosts hosts' : Table String String}

theorem declaredNames_perm (hGroups : groups.Perm groups') (hTags : tags.Perm tags')
    (hHosts : hosts.Perm hosts') :
    (declaredNames groups tags hosts).Perm (declaredNames groups' tags' hosts') :=
  ((hGroups.map _).append (hTags.map _)).append (hHosts.map _)

/-- Which declarations can stand together does not depend on their order. -/
theorem Declarable.of_perm (h : Declarable groups tags hosts) (hGroups : groups.Perm groups')
    (hTags : tags.Perm tags') (hHosts : hosts.Perm hosts') : Declarable groups' tags' hosts' where
  admissible name hName :=
    h.admissible name ((declaredNames_perm hGroups hTags hHosts).mem_iff.mpr hName)
  distinct := (declaredNames_perm hGroups hTags hHosts).nodup_iff.mp h.distinct
  addresses d hd := h.addresses d (hHosts.mem_iff.mpr hd)

/-- Declarations that can stand together make the same catalog in any order, apart from the order
of its entries. -/
theorem Declarable.rearranged (h : Declarable groups tags hosts) (hGroups : groups.Perm groups')
    (hTags : tags.Perm tags') (hHosts : hosts.Perm hosts') :
    (declared groups tags hosts).close.Rearranged (declared groups' tags' hosts').close where
  tags := by
    simp only [close, tags_declared]
    exact hTags.map _
  groups := by
    simp only [close, groups_declared]
    exact hGroups.map _
  hosts := by
    simp only [close, hosts_declared]
    exact hHosts.map _
  claims := by
    simp only [close, claims_declared]
    exact ((hGroups.map _).append (hTags.map _)).append (hHosts.map _)
  nodup_tags := nodup_namesOf h .tag
  nodup_claims := by
    change (declared groups tags hosts).claims.keys.Nodup
    rw [keys_claims_declared]
    exact h.distinct

end Declarations

end Catalog

namespace Document

/-- A document with a catalog of which only the order is another one. -/
structure Rearranged (document other : Document) : Prop where
  catalog : document.catalog.Rearranged other.catalog
  rest : other = { document with catalog := other.catalog }

namespace Rearranged

variable {document other : Document}

theorem references_eq (h : document.Rearranged other) : document.references = other.references := by
  rw [h.rest]

theorem checked_perm (h : document.Rearranged other) : document.checked.Perm other.checked := by
  rw [checked, checked, h.references_eq]
  exact (h.catalog.ownerReferences_perm.append h.catalog.memberReferences_perm).append_right _

/-- What is reported about each declaration, rule and grant is the same, and so it is all in all. -/
theorem reported_perm (h : document.Rearranged other) : document.reported.Perm other.reported := by
  have hAccess : document.access = other.access := by rw [h.rest]
  have hShell : document.shell = other.shell := by rw [h.rest]
  rw [reported, reported, h.references_eq, hAccess, hShell, h.catalog.reported_eq,
    h.catalog.reportedOwner_eq]
  refine List.Perm.append_right _ (List.Perm.append_right _ (List.Perm.append_right _
    (List.Perm.append_right _ (List.Perm.append ?_ ?_))))
  · exact h.catalog.ownerReferences_perm.flatMap_right _
  · exact h.catalog.memberReferences_perm.flatMap_right _

theorem uses_perm (h : document.Rearranged other) : document.uses.Perm other.uses := by
  rw [uses, uses, h.references_eq]
  exact (((h.catalog.ownerReferences_perm.filter _).append
    h.catalog.memberReferences_perm).append_right _).map _

theorem isUsed_eq (h : document.Rearranged other) (kind : PrincipalKind) (name : String) :
    isUsed document.uses kind name = isUsed other.uses kind name := by
  rw [isUsed, isUsed, Bool.eq_iff_iff, List.any_eq_true, List.any_eq_true]
  exact exists_congr fun p => and_congr_left fun _ => h.uses_perm.mem_iff

/-- The declarations that are warned of are the same. -/
theorem unused_perm (h : document.Rearranged other) : document.unused.Perm other.unused := by
  simp only [unused, h.isUsed_eq]
  refine List.Perm.append (List.Perm.append ?_ ?_) ?_
  · exact (((h.catalog.tags.map _).map _).filter _).map _
  · exact (((h.catalog.groups.map _).map _).filter _).map _
  · exact (((h.catalog.hosts.map _).map _).filter _).map _

/-- A validation goes on to its end exactly if that of the other document does, with the same
outcome apart from the order. -/
theorem exists_validate (h : document.Rearranged other) {lint : Bool} {validation : Validation}
    (hValidation : document.validate lint = .ok validation) :
    ∃ found, other.validate lint = .ok found ∧
      validation.violations.Perm found.violations ∧ validation.warnings.Perm found.warnings := by
  obtain ⟨hGoes, rfl⟩ := validate_eq_ok_iff.mp hValidation
  refine ⟨_, validate_eq_ok_iff.mpr ⟨?_, rfl⟩, h.reported_perm, ?_⟩
  · intro reference hReference
    rw [← h.catalog.lacks_iff]
    exact hGoes reference (h.checked_perm.mem_iff.mpr hReference)
  · cases lint with
    | false => exact .refl _
    | true => exact h.unused_perm

end Rearranged

end Document

namespace Source

/-- The same source with other declarations. -/
def withDeclarations (source : Source) (groups tagOwners : Table String (List String))
    (hosts : Table String String) : Source :=
  { source with groups := groups, tagOwners := tagOwners, hosts := hosts }

variable {source : Source} {groups tagOwners : Table String (List String)}
  {hosts : Table String String}

/-- Declared in another order, the same declarations, rules and grants make the same document,
apart from the order in its catalog. -/
theorem exists_document_of_perm {document : Document} (hGroups : source.groups.Perm groups)
    (hTags : source.tagOwners.Perm tagOwners) (hHosts : source.hosts.Perm hosts)
    (h : source.document = .ok document) :
    ∃ other, (source.withDeclarations groups tagOwners hosts).document = .ok other ∧
      document.Rearranged other := by
  obtain ⟨hDeclarable, grants, hGrants, rfl⟩ := document_eq_ok_iff.mp h
  exact ⟨_, document_eq_ok_iff.mpr ⟨hDeclarable.of_perm hGroups hTags hHosts, grants, hGrants, rfl⟩,
    hDeclarable.rearranged hGroups hTags hHosts, rfl⟩

theorem exists_document_iff_of_perm (hGroups : source.groups.Perm groups)
    (hTags : source.tagOwners.Perm tagOwners) (hHosts : source.hosts.Perm hosts) :
    (∃ document, source.document = .ok document) ↔
      ∃ document, (source.withDeclarations groups tagOwners hosts).document = .ok document := by
  constructor
  · rintro ⟨document, hDocument⟩
    obtain ⟨other, hOther, -⟩ := exists_document_of_perm hGroups hTags hHosts hDocument
    exact ⟨other, hOther⟩
  · rintro ⟨document, hDocument⟩
    have hBack : (source.withDeclarations groups tagOwners hosts).groups.Perm source.groups :=
      hGroups.symm
    obtain ⟨other, hOther, -⟩ := exists_document_of_perm hBack hTags.symm hHosts.symm hDocument
    exact ⟨other, hOther⟩

/-- The document of a source can be validated. -/
theorem exists_validate {document : Document} (h : source.document = .ok document) (lint : Bool) :
    ∃ validation, document.validate lint = .ok validation := by
  obtain ⟨hDeclarable, grants, -, rfl⟩ := document_eq_ok_iff.mp h
  have hReached := Catalog.reached_of_ofDeclarations
    (Catalog.ofDeclarations_eq_ok_iff.mpr ⟨hDeclarable, rfl⟩)
  exact hReached.exists_validate _ _ lint

/-- The order in which groups, tags and hosts are declared matters neither to whether a source has a
document nor to the outcome of its validation: all violations and all warnings are the same, each as
often. -/
theorem verdict_of_perm (hGroups : source.groups.Perm groups)
    (hTags : source.tagOwners.Perm tagOwners) (hHosts : source.hosts.Perm hosts) :
    ((∃ document, source.document = .ok document) ↔
      ∃ document, (source.withDeclarations groups tagOwners hosts).document = .ok document) ∧
    ∀ document other, source.document = .ok document →
      (source.withDeclarations groups tagOwners hosts).document = .ok other →
      ∀ lint, ∃ validation found, document.validate lint = .ok validation ∧
        other.validate lint = .ok found ∧ validation.violations.Perm found.violations ∧
        validation.warnings.Perm found.warnings := by
  refine ⟨exists_document_iff_of_perm hGroups hTags hHosts, ?_⟩
  intro document other hDocument hOther lint
  obtain ⟨found, hFound, hRearranged⟩ := exists_document_of_perm hGroups hTags hHosts hDocument
  obtain rfl : found = other := Except.ok.inj (hFound.symm.trans hOther)
  obtain ⟨validation, hValidation⟩ := exists_validate hDocument lint
  obtain ⟨outcome, hOutcome, hSame⟩ := hRearranged.exists_validate hValidation
  exact ⟨validation, outcome, hValidation, hOutcome, hSame⟩

/-- A tag may be declared before the tag that owns it. -/
theorem verdict_of_perm_officeSource :
    officeSource.groups.Perm officeSource.groups ∧
      officeSource.tagOwners.Perm officeSource.tagOwners.reverse ∧
      officeSource.hosts.Perm officeSource.hosts ∧
      ∃ document other validation found, officeSource.document = .ok document ∧
        (officeSource.withDeclarations officeSource.groups officeSource.tagOwners.reverse
          officeSource.hosts).document = .ok other ∧
        document.validate true = .ok validation ∧ other.validate true = .ok found ∧
        validation.violations.Perm found.violations ∧
        validation.warnings.Perm found.warnings := by
  obtain ⟨compilation, text, hCompile, hText⟩ := exists_output_officeSource
  obtain ⟨document, hDocument, -⟩ := compile_output_iff.mp ⟨hCompile, hText⟩
  have hReversed := (List.reverse_perm officeSource.tagOwners).symm
  obtain ⟨hExists, hSame⟩ := verdict_of_perm (.refl officeSource.groups) hReversed
    (.refl officeSource.hosts)
  obtain ⟨other, hOther⟩ := hExists.mp ⟨document, hDocument⟩
  obtain ⟨validation, found, hOutcomes⟩ := hSame document other hDocument hOther true
  exact ⟨.refl _, hReversed, .refl _, document, other, validation, found, hDocument, hOther,
    hOutcomes⟩

end Source

end Tailnet
