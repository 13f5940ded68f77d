import Tailnet.Policy.Session
import Tailnet.Proofs.Catalog.Invariant

/-!
Where violations are reported, and what they depend on. What is wrong with a rule depends on the
catalog and on that rule alone, what is wrong with a declaration on the catalog, and what is wrong
with a grant on the catalog and the grants. A validation is not exhaustive only if it stops: at a
tag that is claimed but has no entry, as a failed registration leaves it behind.
-/

namespace Tailnet

/-- The kinds of rules, which have positions of their own. -/
inductive RuleKind where
  | access
  | shell
deriving DecidableEq

namespace RuleKind

/-- The section in which rules of a kind stand. -/
def sectionName : RuleKind → String
  | access => "acls"
  | shell => "ssh"

/-- The place of the rule of a kind at a position. -/
def place (kind : RuleKind) (index : Nat) : Path := [.field kind.sectionName, .item index]

end RuleKind

/-- A rule of either kind. -/
inductive Rule where
  | access (rule : AccessRule)
  | shell (rule : ShellRule)

namespace Rule

/-- The kind of a rule. -/
def kind : Rule → RuleKind
  | access _ => .access
  | shell _ => .shell

/-- The references of the rule at a position. -/
def references : Rule → Nat → List Reference
  | access rule, index => rule.references index
  | shell rule, index => rule.references index

/-- The violations in the shape of the rule at a position. -/
def shape : Rule → Nat → List Violation
  | access rule, index => rule.shape index
  | shell rule, index => rule.shape index

end Rule

namespace RuleSet

/-- Add a rule behind those of its kind. -/
def add (rules : RuleSet) : Rule → RuleSet
  | .access rule => rules.addAccess rule
  | .shell rule => rules.addShell rule

/-- The rules that were added one after the other. -/
def ofRules (rules : List Rule) : RuleSet := rules.foldl add empty

/-- The rules of a kind. -/
def ofKind (rules : RuleSet) : RuleKind → List Rule
  | .access => rules.access.map .access
  | .shell => rules.shell.map .shell

end RuleSet

/-- Whether a finding is about a rule as a whole, which is then named by its place. -/
def Finding.isAboutRule : Finding → Bool
  | noAccessSources | noAccessDestinations | noShellSources | noShellDestinations | noUsers => true
  | _ => false

/-- Whether a finding is about a principal that cannot be resolved. -/
def Finding.isAboutReference : Finding → Bool
  | malformedUser _ | unknownAutogroup _ | invalidAddress _ | unknownTag _ | unownedTag _
  | unknownGroup _ | unknownHost .. => true
  | _ => false

theorem Finding.isAboutRule_eq_false (found : Finding) (h : found.isAboutReference = true) :
    found.isAboutRule = false := by
  cases found with
  | noAccessSources | noAccessDestinations | noShellSources | noShellDestinations | noUsers =>
      cases h
  | _ => rfl

/-- The same violation of the rule at another position. -/
def Violation.renumber (kind : RuleKind) (index : Nat) (v : Violation) : Violation :=
  { finding := v.finding
    identifier := if v.finding.isAboutRule then .text (kind.place index).text else v.identifier
    location := kind.place index ++ v.location.drop 2 }

/-- The violations at a place and below it. -/
def Validation.under (validation : Validation) (place : Path) : List Violation :=
  validation.violations.filter fun v => place <+: v.location

/-- What is reported about each rule, about the declarations and about the grants is what is
reported about them alone, and nothing else is reported. -/
structure Validation.IsLocal (validation : Validation) (catalog : Catalog) (rules : RuleSet)
    (approvals : Approvals) (lint : Bool) : Prop where
  rule : ∀ kind index rule, (rules.ofKind kind)[index]? = some rule →
    ∃ alone, (Document.build catalog (.ofRules [rule]) .empty).validate lint = .ok alone ∧
      validation.under (kind.place index) =
        (alone.under (kind.place 0)).map (Violation.renumber kind index)
  declarations : ∃ alone, (Document.build catalog .empty .empty).validate lint = .ok alone ∧
    validation.under [.field "tagOwners"] ++ validation.under [.field "groups"] = alone.violations
  grants : ∃ alone, (Document.build catalog .empty approvals).validate lint = .ok alone ∧
    validation.under [.field "autoApprovers"] = alone.under [.field "autoApprovers"]
  exhaustive : ∀ v ∈ validation.violations,
    (∃ kind, ∃ index < (rules.ofKind kind).length, kind.place index <+: v.location) ∨
      ∃ name ∈ ["tagOwners", "groups", "autoApprovers"], [.field name] <+: v.location

namespace Catalog

/-- Whether a reference to a principal stops a validation: it is to a tag that is claimed but has no
entry. -/
def Lacks (catalog : Catalog) (p : Principal) : Prop :=
  p.kind = .tag ∧ catalog.declares .tag p.name = true ∧ catalog.ownersOf? p.name = none

/-- What is reported about a reference in a validation that goes on. -/
def reported (catalog : Catalog) (reference : Reference) : List Violation :=
  (catalog.checkReference reference).toOption.getD []

/-- What is reported about an owner in a validation that goes on. -/
def reportedOwner (catalog : Catalog) (reference : Reference) : List Violation :=
  (catalog.checkOwner reference).toOption.getD []

variable {catalog : Catalog} {reference : Reference} {v : Violation}

theorem exists_checkReference_iff :
    (∃ found, catalog.checkReference reference = .ok found) ↔
      ¬catalog.Lacks reference.principal := by
  have hChecked : (∃ found, catalog.checkReference reference = .ok found) ↔
      ∃ found, catalog.finding? reference.principal = .ok found := by
    unfold checkReference
    cases catalog.finding? reference.principal with
    | error report => simp [bind, Except.bind]
    | ok found => cases found <;> exact iff_of_true ⟨_, rfl⟩ ⟨_, rfl⟩
  rw [hChecked, Lacks, finding?]
  cases hKind : reference.principal.kind with
  | tag =>
      dsimp only
      split
      case isTrue hDeclares => cases catalog.ownersOf? reference.principal.name <;> simp [hDeclares]
      case isFalse hDeclares => exact iff_of_true ⟨_, rfl⟩ (fun hLacks => hDeclares hLacks.2.1)
  | _ =>
      refine iff_of_true ⟨_, rfl⟩ fun hLacks => ?_
      cases hLacks.1

theorem exists_checkOwner_iff :
    (∃ found, catalog.checkOwner reference = .ok found) ↔ ¬catalog.Lacks reference.principal := by
  unfold checkOwner
  split
  case isTrue => exact exists_checkReference_iff
  case isFalse hKind =>
    refine iff_of_true ⟨_, rfl⟩ fun hLacks => hKind ?_
    rw [hLacks.1]
    rfl

/-- What a validation finds about a principal is that it cannot be resolved. -/
theorem isAboutReference_of_finding? {p : Principal} {found : Finding}
    (h : catalog.finding? p = .ok (some found)) : found.isAboutReference = true := by
  unfold finding? at h
  cases hKind : p.kind with
  | tag =>
      rw [hKind] at h
      dsimp only at h
      split at h
      · split at h
        · cases h
        · split at h <;> cases h
          rfl
      · cases h
        rfl
  | wildcard | special =>
      rw [hKind] at h
      cases h
  | _ =>
      rw [hKind] at h
      dsimp only at h
      split at h <;> cases h
      rfl

theorem exists_of_mem_reported (h : v ∈ catalog.reported reference) :
    ∃ found, catalog.finding? reference.principal = .ok (some found) ∧
      v = ⟨found, .text reference.principal.raw, reference.location⟩ := by
  unfold reported checkReference at h
  cases hFinding : catalog.finding? reference.principal with
  | error report => simp [hFinding, bind, Except.bind, Except.toOption] at h
  | ok found =>
      rw [hFinding, ok_bind] at h
      cases found with
      | none => cases h
      | some found => exact ⟨found, rfl, List.mem_singleton.mp h⟩

theorem mem_reported (h : v ∈ catalog.reported reference) :
    v.location = reference.location ∧ v.finding.isAboutRule = false := by
  obtain ⟨found, hFinding, rfl⟩ := exists_of_mem_reported h
  exact ⟨rfl, found.isAboutRule_eq_false (isAboutReference_of_finding? hFinding)⟩

theorem mem_reportedOwner (h : v ∈ catalog.reportedOwner reference) :
    v.location = reference.location := by
  unfold reportedOwner checkOwner at h
  split at h
  · exact (mem_reported h).1
  · obtain rfl := List.mem_singleton.mp h
    rfl

/-- What is reported about a reference that stands elsewhere is the same there. -/
theorem reported_relocate (catalog : Catalog) (p : Principal) (before after : Path) :
    catalog.reported ⟨p, after⟩ =
      (catalog.reported ⟨p, before⟩).map fun v => { v with location := after } := by
  unfold reported checkReference
  cases catalog.finding? p with
  | error report => rfl
  | ok found => cases found <;> rfl

end Catalog

namespace Document

variable {document : Document}

/-- The references that a validation looks up. -/
def checked (document : Document) : List Reference :=
  document.catalog.ownerReferences ++ document.catalog.memberReferences ++ document.references

/-- What is reported about a document in a validation that goes on. -/
def reported (document : Document) : List Violation :=
  document.catalog.ownerReferences.flatMap document.catalog.reportedOwner ++
    document.catalog.memberReferences.flatMap document.catalog.reported ++
    document.references.flatMap document.catalog.reported ++
    (document.access.zipIdx.flatMap fun (rule, i) => rule.shape i) ++
    (document.shell.zipIdx.flatMap fun (rule, i) => rule.shape i) ++
    document.references.filterMap approverShape?

/-- Checks of references that all return give what each of them gives. -/
theorem flatten_of_mapM {check : Reference → Except Report (List Violation)}
    {references : List Reference} {found : List (List Violation)}
    (h : references.mapM check = .ok found) :
    found.flatten = references.flatMap fun r => (check r).toOption.getD [] := by
  have hAll := mapM_eq_ok_iff.mp h
  clear h
  induction hAll with
  | nil => rfl
  | cons hFirst _ ih =>
      rw [List.flatten_cons, List.flatMap_cons, ih, hFirst]
      rfl

/-- A validation stops exactly at a reference to a tag that is claimed but has no entry. Otherwise
it reports all that there is. -/
theorem violations_eq_ok_iff {violations : List Violation} :
    document.violations = .ok violations ↔
      (∀ reference ∈ document.checked, ¬document.catalog.Lacks reference.principal) ∧
        violations = document.reported := by
  have hGoes : (∀ reference ∈ document.checked, ¬document.catalog.Lacks reference.principal) ↔
      (∃ owners, document.catalog.ownerReferences.mapM document.catalog.checkOwner = .ok owners) ∧
      (∃ members,
        document.catalog.memberReferences.mapM document.catalog.checkReference = .ok members) ∧
      ∃ others, document.references.mapM document.catalog.checkReference = .ok others := by
    simp only [checked, List.forall_mem_append, exists_mapM_eq_ok_iff,
      Catalog.exists_checkReference_iff, Catalog.exists_checkOwner_iff, and_assoc]
  rw [hGoes]
  simp only [Document.violations, bind_eq_ok_iff, pure_eq_ok_iff]
  constructor
  · rintro ⟨owners, hOwners, members, hMembers, others, hOthers, rfl⟩
    refine ⟨⟨⟨owners, hOwners⟩, ⟨members, hMembers⟩, others, hOthers⟩, ?_⟩
    rw [flatten_of_mapM hOwners, flatten_of_mapM hMembers, flatten_of_mapM hOthers]
    rfl
  · rintro ⟨⟨⟨owners, hOwners⟩, ⟨members, hMembers⟩, others, hOthers⟩, rfl⟩
    refine ⟨owners, hOwners, members, hMembers, others, hOthers, ?_⟩
    rw [flatten_of_mapM hOwners, flatten_of_mapM hMembers, flatten_of_mapM hOthers]
    rfl

theorem validate_eq_ok_iff {lint : Bool} {validation : Validation} :
    document.validate lint = .ok validation ↔
      (∀ reference ∈ document.checked, ¬document.catalog.Lacks reference.principal) ∧
        validation = ⟨document.reported, if lint then document.unused else []⟩ := by
  simp only [validate, bind_eq_ok_iff, pure_eq_ok_iff, violations_eq_ok_iff]
  constructor
  · rintro ⟨violations, ⟨hGoes, rfl⟩, rfl⟩
    exact ⟨hGoes, rfl⟩
  · rintro ⟨hGoes, rfl⟩
    exact ⟨_, ⟨hGoes, rfl⟩, rfl⟩

end Document

section Places

variable {kind : RuleKind} {index : Nat} {reference : Reference}

theorem exists_location_of_mem_referencesAt {location : Path} {principals : List Principal}
    (h : reference ∈ referencesAt location principals) :
    ∃ i, reference.location = location ++ [.item i] := by
  obtain ⟨⟨p, i⟩, -, rfl⟩ := List.mem_map.mp h
  exact ⟨i, rfl⟩

theorem RuleKind.place_prefix_place {other : RuleKind} {i : Nat} {location : Path}
    (h : kind.place index <+: location) :
    other.place i <+: location ↔ other = kind ∧ i = index := by
  obtain ⟨rest, rfl⟩ := h
  cases kind <;> cases other <;> simp [place, sectionName, List.cons_prefix_cons]

namespace Rule

theorem place_prefix_of_mem_references (rule : Rule) (h : reference ∈ rule.references index) :
    rule.kind.place index <+: reference.location := by
  cases rule <;> rcases List.mem_append.mp h with hIn | hIn <;>
    obtain ⟨i, hLocation⟩ := exists_location_of_mem_referencesAt hIn <;> rw [hLocation] <;>
    exact ⟨[_, _], rfl⟩

/-- The shape of a rule does not depend on its position. -/
theorem shape_eq_map_renumber (rule : Rule) (index : Nat) :
    rule.shape index = (rule.shape 0).map (Violation.renumber rule.kind index) := by
  cases rule with
  | access rule =>
      simp [shape, AccessRule.shape, kind, aboutRule, Violation.renumber, Finding.isAboutRule,
        RuleKind.place, RuleKind.sectionName, apply_ite (List.map _), List.map_filterMap,
        Function.comp_def]
  | shell rule =>
      simp [shape, ShellRule.shape, kind, aboutRule, Violation.renumber, Finding.isAboutRule,
        RuleKind.place, RuleKind.sectionName, apply_ite (List.map _), List.map_filterMap,
        apply_ite (Option.map _)]

theorem place_prefix_of_mem_shape (rule : Rule) {v : Violation} (h : v ∈ rule.shape index) :
    rule.kind.place index <+: v.location := by
  rw [shape_eq_map_renumber] at h
  obtain ⟨first, -, rfl⟩ := List.mem_map.mp h
  exact List.prefix_append _ _

/-- The references of a rule are the same at every position, apart from where they stand. -/
theorem references_eq_map (rule : Rule) (index : Nat) :
    rule.references index = (rule.references 0).map
      fun r => ⟨r.principal, rule.kind.place index ++ r.location.drop 2⟩ := by
  cases rule <;> simp [references, AccessRule.references, ShellRule.references, referencesAt, kind,
    RuleKind.place, RuleKind.sectionName, Function.comp_def]

/-- What is reported about the rule at a position. -/
def reported (rule : Rule) (catalog : Catalog) (index : Nat) : List Violation :=
  (rule.references index).flatMap catalog.reported ++ rule.shape index

theorem reported_eq_map_renumber (rule : Rule) (catalog : Catalog) (index : Nat) :
    rule.reported catalog index =
      (rule.reported catalog 0).map (Violation.renumber rule.kind index) := by
  rw [reported, reported, List.map_append, ← shape_eq_map_renumber, references_eq_map,
    List.flatMap_map, List.map_flatMap]
  congr 1
  refine List.flatMap_congr fun reference hReference => ?_
  rw [catalog.reported_relocate reference.principal reference.location]
  refine List.map_congr_left fun v hv => ?_
  obtain ⟨hLocation, hToken⟩ := Catalog.mem_reported hv
  rw [Violation.renumber, hToken, hLocation]
  rfl

end Rule

namespace RuleSet

variable (rules : RuleSet) (rule : Rule)

theorem ofKind_add :
    (rules.add rule).ofKind kind =
      rules.ofKind kind ++ if kind = rule.kind then [rule] else [] := by
  cases rule <;> cases kind <;> simp [add, addAccess, addShell, ofKind, Rule.kind]

theorem kind_of_mem_ofKind {rules : RuleSet} {rule : Rule} (h : rule ∈ rules.ofKind kind) :
    rule.kind = kind := by
  cases kind <;> obtain ⟨given, -, rfl⟩ := List.mem_map.mp h <;> rfl

theorem references_add :
    (rules.add rule).references =
      rules.references ++ rule.references (rules.ofKind rule.kind).length := by
  cases rule <;> simp [add, addAccess, addShell, ofKind, Rule.kind, Rule.references]

theorem ofRules_nil : ofRules [] = empty := rfl

theorem ofRules_append_singleton (rules : List Rule) :
    ofRules (rules ++ [rule]) = (ofRules rules).add rule := by
  rw [ofRules, List.foldl_append]
  rfl

theorem ofRules_singleton : (ofRules [rule]).ofKind rule.kind = [rule] ∧
    (ofRules [rule]).references = rule.references 0 := by
  cases rule <;> exact ⟨rfl, rfl⟩

/-- The references at the place of a rule are those of the rule. The induction is on the rules, the
last one first, since a rule is given its position by those before it. -/
theorem filter_references (rules : List Rule) (kind : RuleKind) (index : Nat) :
    (ofRules rules).references.filter (fun r => kind.place index <+: r.location) =
      ((ofRules rules).ofKind kind)[index]?.elim [] (·.references index) := by
  induction rules using List.reverseRecOn with
  | nil => cases kind <;> rfl
  | append_singleton rules rule ih =>
      rw [ofRules_append_singleton, references_add, List.filter_append, ih, ofKind_add]
      have hOwn : ∀ r ∈ rule.references ((ofRules rules).ofKind rule.kind).length,
          kind.place index <+: r.location ↔
            kind = rule.kind ∧ index = ((ofRules rules).ofKind rule.kind).length :=
        fun r hr => RuleKind.place_prefix_place (rule.place_prefix_of_mem_references hr)
      by_cases hLast : kind = rule.kind ∧ index = ((ofRules rules).ofKind rule.kind).length
      · obtain ⟨rfl, rfl⟩ := hLast
        rw [if_pos rfl, List.getElem?_eq_none (Nat.le_refl _), List.getElem?_concat_length,
          List.filter_eq_self.mpr fun r hr => decide_eq_true ((hOwn r hr).mpr ⟨rfl, rfl⟩)]
        rfl
      · rw [List.filter_eq_nil_iff.mpr fun r hr hPlace =>
          hLast ((hOwn r hr).mp (of_decide_eq_true hPlace)), List.append_nil]
        congr 1
        grind

/-- Every reference of rules stands at the place of a rule. -/
theorem exists_place_of_mem_references (rules : List Rule) {reference : Reference}
    (h : reference ∈ (ofRules rules).references) :
    ∃ kind, ∃ index < ((ofRules rules).ofKind kind).length,
      kind.place index <+: reference.location := by
  induction rules using List.reverseRecOn with
  | nil => cases h
  | append_singleton rules last ih =>
      rw [ofRules_append_singleton, references_add] at h
      simp only [ofRules_append_singleton, ofKind_add, List.length_append]
      rcases List.mem_append.mp h with hBefore | hLast
      · obtain ⟨kind, index, hIndex, hPlace⟩ := ih hBefore
        exact ⟨kind, index, Nat.lt_add_right _ hIndex, hPlace⟩
      · refine ⟨last.kind, _, ?_, last.place_prefix_of_mem_references hLast⟩
        rw [if_pos rfl]
        exact Nat.lt_add_one _

/-- The violations in the shapes of the rules of a kind. -/
def shapes (rules : RuleSet) (kind : RuleKind) : List Violation :=
  (rules.ofKind kind).zipIdx.flatMap fun (rule, i) => rule.shape i

theorem shapes_access :
    rules.shapes .access = rules.access.zipIdx.flatMap fun (rule, i) => rule.shape i := by
  simp [shapes, ofKind, List.zipIdx_map, List.flatMap_map, Rule.shape]

theorem shapes_shell :
    rules.shapes .shell = rules.shell.zipIdx.flatMap fun (rule, i) => rule.shape i := by
  simp [shapes, ofKind, List.zipIdx_map, List.flatMap_map, Rule.shape]

/-- Of lists for the items of a list, a choice by position leaves the one at the position. -/
theorem filter_flatMap_zipIdx {α β : Type} {f : α × Nat → List β} {p : β → Bool} {items : List α}
    (hPlace : ∀ a ∈ items, ∀ i, ∀ b ∈ f (a, i), p b = decide (i = index)) :
    (items.zipIdx.flatMap f).filter p = items[index]?.elim [] (f ⟨·, index⟩) := by
  induction items using List.reverseRecOn with
  | nil => rfl
  | append_singleton items last ih =>
      rw [List.forall_mem_append, List.forall_mem_singleton] at hPlace
      rw [List.zipIdx_append, List.flatMap_append, List.filter_append, ih hPlace.1,
        List.zipIdx_singleton, List.flatMap_singleton, Nat.zero_add]
      by_cases hLast : index = items.length
      · subst hLast
        rw [List.getElem?_eq_none (Nat.le_refl _), List.getElem?_concat_length,
          List.filter_eq_self.mpr fun b hb => (hPlace.2 _ b hb).trans (decide_eq_true rfl)]
        rfl
      · rw [List.filter_eq_nil_iff.mpr fun b hb => by
          rw [hPlace.2 _ b hb, decide_eq_true_eq]
          exact Ne.symm hLast, List.append_nil]
        congr 1
        grind

/-- Of the shapes of rules, those at the place of a rule are those of the rule. -/
theorem filter_shapes (other kind : RuleKind) (index : Nat) :
    (rules.shapes other).filter (fun v => kind.place index <+: v.location) =
      if kind = other then (rules.ofKind kind)[index]?.elim [] (·.shape index) else [] := by
  have hOwn : ∀ rule ∈ rules.ofKind other, ∀ i, ∀ v ∈ rule.shape i,
      kind.place index <+: v.location ↔ kind = other ∧ index = i := by
    intro rule hRule i v hv
    rw [← kind_of_mem_ofKind hRule]
    exact RuleKind.place_prefix_place (rule.place_prefix_of_mem_shape hv)
  split
  case isTrue hSame =>
    subst hSame
    refine filter_flatMap_zipIdx fun rule hRule i v hv => decide_eq_decide.mpr ?_
    rw [hOwn rule hRule i v hv]
    simp [eq_comm]
  case isFalse hOther =>
    rw [List.filter_eq_nil_iff]
    intro v hv hPlace
    obtain ⟨⟨rule, i⟩, hRule, hIn⟩ := List.mem_flatMap.mp hv
    have hMem := List.mem_of_getElem? (List.mk_mem_zipIdx_iff_getElem?.mp hRule)
    exact hOther ((hOwn rule hMem i v hIn).mp (of_decide_eq_true hPlace)).1

theorem exists_place_of_mem_shapes {v : Violation} (h : v ∈ rules.shapes kind) :
    ∃ index < (rules.ofKind kind).length, kind.place index <+: v.location := by
  obtain ⟨⟨rule, i⟩, hRule, hIn⟩ := List.mem_flatMap.mp h
  have hFound := List.mk_mem_zipIdx_iff_getElem?.mp hRule
  refine ⟨i, (List.getElem?_eq_some_iff.mp hFound).1, ?_⟩
  rw [← kind_of_mem_ofKind (List.mem_of_getElem? hFound)]
  exact rule.place_prefix_of_mem_shape hIn

end RuleSet

end Places

section Sections

variable {name : String} {violations : List Violation}

/-- Violations that all stand in a section. -/
def AllIn (name : String) (violations : List Violation) : Prop :=
  ∀ v ∈ violations, v.location.head? = some (.field name)

theorem field_prefix_iff {location : Path} :
    [.field name] <+: location ↔ location.head? = some (.field name) := by
  cases location <;> simp [List.cons_prefix_cons, eq_comm]

theorem RuleKind.head?_of_place_prefix {kind : RuleKind} {index : Nat} {location : Path}
    (h : kind.place index <+: location) : location.head? = some (.field kind.sectionName) := by
  obtain ⟨rest, rfl⟩ := h
  rfl

namespace AllIn

theorem filter_field (h : AllIn name violations) (other : String) :
    violations.filter (fun v => [.field other] <+: v.location) =
      if name = other then violations else [] := by
  split
  case isTrue hSame =>
    subst hSame
    exact List.filter_eq_self.mpr fun v hv => decide_eq_true (field_prefix_iff.mpr (h v hv))
  case isFalse hOther =>
    refine List.filter_eq_nil_iff.mpr fun v hv hPlace => hOther ?_
    have hHead := (h v hv).symm.trans (field_prefix_iff.mp (of_decide_eq_true hPlace))
    simpa using hHead

theorem filter_place (h : AllIn name violations) {kind : RuleKind} (hName : name ≠ kind.sectionName)
    (index : Nat) :
    violations.filter (fun v => kind.place index <+: v.location) = [] := by
  refine List.filter_eq_nil_iff.mpr fun v hv hPlace => hName ?_
  have hHead :=
    (h v hv).symm.trans (RuleKind.head?_of_place_prefix (of_decide_eq_true hPlace))
  simpa using hHead

theorem flatMap {report : Reference → List Violation} {references : List Reference}
    (hReport : ∀ r, ∀ v ∈ report r, v.location = r.location)
    (h : ∀ r ∈ references, r.location.head? = some (.field name)) :
    AllIn name (references.flatMap report) := by
  intro v hv
  obtain ⟨r, hr, hIn⟩ := List.mem_flatMap.mp hv
  rw [hReport r v hIn, h r hr]

end AllIn

variable (catalog : Catalog) (rules : List Rule) (approvals : Approvals)

theorem head?_of_mem_referencesAt {step : Step} {rest : Path} {principals : List Principal}
    {reference : Reference} (h : reference ∈ referencesAt (step :: rest) principals) :
    reference.location.head? = some step := by
  obtain ⟨i, hLocation⟩ := exists_location_of_mem_referencesAt h
  rw [hLocation]
  rfl

theorem Catalog.allIn_tagOwners :
    AllIn "tagOwners" (catalog.ownerReferences.flatMap catalog.reportedOwner) := by
  refine .flatMap (fun _ _ => Catalog.mem_reportedOwner) fun r hr => ?_
  obtain ⟨tag, -, hIn⟩ := List.mem_flatMap.mp hr
  exact head?_of_mem_referencesAt hIn

theorem Catalog.allIn_groups :
    AllIn "groups" (catalog.memberReferences.flatMap catalog.reported) := by
  refine .flatMap (fun _ _ hv => (Catalog.mem_reported hv).1) fun r hr => ?_
  obtain ⟨group, -, hIn⟩ := List.mem_flatMap.mp hr
  exact head?_of_mem_referencesAt hIn

theorem Approvals.head?_of_mem_references {r : Reference} (h : r ∈ approvals.references) :
    r.location.head? = some (.field "autoApprovers") := by
  rcases List.mem_append.mp h with hExit | hRoute
  · exact head?_of_mem_referencesAt hExit
  · obtain ⟨route, -, hIn⟩ := List.mem_flatMap.mp hRoute
    exact head?_of_mem_referencesAt hIn

theorem Approvals.allIn_autoApprovers :
    AllIn "autoApprovers" (approvals.references.flatMap catalog.reported) ∧
      AllIn "autoApprovers" (approvals.references.filterMap approverShape?) := by
  refine ⟨.flatMap (fun _ _ hv => (Catalog.mem_reported hv).1)
    fun _ => approvals.head?_of_mem_references, fun v hv => ?_⟩
  obtain ⟨r, hr, hShape⟩ := List.mem_filterMap.mp hv
  unfold approverShape? at hShape
  split at hShape <;> cases hShape
  exact approvals.head?_of_mem_references hr

theorem RuleSet.allIn_shapes (rules : RuleSet) (kind : RuleKind) :
    AllIn kind.sectionName (rules.shapes kind) := by
  intro v hv
  obtain ⟨index, -, hPlace⟩ := rules.exists_place_of_mem_shapes hv
  exact RuleKind.head?_of_place_prefix hPlace

theorem RuleSet.head?_of_mem_references {r : Reference} (h : r ∈ (ofRules rules).references) :
    ∃ kind : RuleKind, r.location.head? = some (.field kind.sectionName) := by
  obtain ⟨kind, index, -, hPlace⟩ := exists_place_of_mem_references rules h
  exact ⟨kind, RuleKind.head?_of_place_prefix hPlace⟩

/-- Principals of rules are not judged as approvers. -/
theorem RuleSet.approvers_references :
    (ofRules rules).references.filterMap approverShape? = [] := by
  refine List.filterMap_eq_nil_iff.mpr fun r hr => ?_
  obtain ⟨kind, hHead⟩ := head?_of_mem_references rules hr
  unfold approverShape?
  rw [if_neg]
  rw [hHead]
  cases kind <;> simp [RuleKind.sectionName]

/-- All that is reported about a document, part by part. -/
theorem Document.reported_build :
    (Document.build catalog (.ofRules rules) approvals).reported =
      catalog.ownerReferences.flatMap catalog.reportedOwner ++
        catalog.memberReferences.flatMap catalog.reported ++
        (RuleSet.ofRules rules).references.flatMap catalog.reported ++
        approvals.references.flatMap catalog.reported ++
        (RuleSet.ofRules rules).shapes .access ++ (RuleSet.ofRules rules).shapes .shell ++
        approvals.references.filterMap approverShape? := by
  have hClose : catalog.close.reported = catalog.reported ∧
      catalog.close.reportedOwner = catalog.reportedOwner := ⟨rfl, rfl⟩
  rw [RuleSet.shapes_access, RuleSet.shapes_shell]
  simp only [reported, build, List.flatMap_append, List.filterMap_append,
    RuleSet.approvers_references, List.nil_append, hClose, ← List.append_assoc]
  rfl

theorem Catalog.filter_flatMap_reported (references : List Reference) (place : Path) :
    (references.flatMap catalog.reported).filter (fun v => place <+: v.location) =
      (references.filter fun r => place <+: r.location).flatMap catalog.reported := by
  induction references with
  | nil => rfl
  | cons r rest ih =>
      have hOwn : ∀ v ∈ catalog.reported r,
          decide (place <+: v.location) = decide (place <+: r.location) :=
        fun v hv => by rw [(Catalog.mem_reported hv).1]
      rw [List.flatMap_cons, List.filter_append, ih, List.filter_congr hOwn, List.filter_cons]
      by_cases hPlace : place <+: r.location
      · simp [hPlace]
      · simp [hPlace]

/-- What is reported at the place of a rule is what is reported about the rule. -/
theorem Document.filter_place_reported (kind : RuleKind) (index : Nat) :
    (Document.build catalog (.ofRules rules) approvals).reported.filter
        (fun v => kind.place index <+: v.location) =
      ((RuleSet.ofRules rules).ofKind kind)[index]?.elim [] (·.reported catalog index) := by
  have hNames : "tagOwners" ≠ kind.sectionName ∧ "groups" ≠ kind.sectionName ∧
      "autoApprovers" ≠ kind.sectionName := by
    cases kind <;> decide
  have hGrants := approvals.allIn_autoApprovers catalog
  rw [reported_build]
  simp only [List.filter_append, catalog.allIn_tagOwners.filter_place hNames.1,
    catalog.allIn_groups.filter_place hNames.2.1, hGrants.1.filter_place hNames.2.2,
    hGrants.2.filter_place hNames.2.2, Catalog.filter_flatMap_reported, RuleSet.filter_references,
    RuleSet.filter_shapes, List.nil_append, List.append_nil, Rule.reported]
  cases ((RuleSet.ofRules rules).ofKind kind)[index]? <;> cases kind <;> simp

/-- What is reported in another section is reported about the declarations or the grants. -/
theorem Document.filter_field_reported {name : String}
    (hName : ∀ kind : RuleKind, kind.sectionName ≠ name) :
    (Document.build catalog (.ofRules rules) approvals).reported.filter
        (fun v => [.field name] <+: v.location) =
      (if "tagOwners" = name then catalog.ownerReferences.flatMap catalog.reportedOwner else []) ++
        (if "groups" = name then catalog.memberReferences.flatMap catalog.reported else []) ++
        (if "autoApprovers" = name then approvals.references.flatMap catalog.reported ++
          approvals.references.filterMap approverShape? else []) := by
  have hRules : (RuleSet.ofRules rules).references.filter
      (fun r => [.field name] <+: r.location) = [] := by
    refine List.filter_eq_nil_iff.mpr fun r hr hPlace => ?_
    obtain ⟨kind, hHead⟩ := RuleSet.head?_of_mem_references rules hr
    have hSame := hHead.symm.trans (field_prefix_iff.mp (of_decide_eq_true hPlace))
    exact hName kind (by simpa using hSame)
  have hGrants := approvals.allIn_autoApprovers catalog
  have hShapes (kind : RuleKind) := (RuleSet.ofRules rules).allIn_shapes kind
  have hNone := catalog.filter_flatMap_reported (RuleSet.ofRules rules).references [.field name]
  rw [hRules, List.flatMap_nil] at hNone
  rw [reported_build]
  simp only [List.filter_append, catalog.allIn_tagOwners.filter_field,
    catalog.allIn_groups.filter_field, hGrants.1.filter_field, hGrants.2.filter_field, hNone,
    (hShapes .access).filter_field, (hShapes .shell).filter_field, if_neg (hName _),
    List.nil_append, List.append_assoc]
  by_cases hLast : "autoApprovers" = name
  · simp only [if_pos hLast]
  · simp only [if_neg hLast, List.append_nil]

end Sections

namespace Document

variable {catalog : Catalog} {rules : List Rule} {approvals : Approvals} {lint : Bool}

/-- Nothing is reported elsewhere. -/
theorem exists_place_of_mem_reported {v : Violation}
    (h : v ∈ (Document.build catalog (.ofRules rules) approvals).reported) :
    (∃ kind, ∃ index < ((RuleSet.ofRules rules).ofKind kind).length,
      kind.place index <+: v.location) ∨
      ∃ name ∈ ["tagOwners", "groups", "autoApprovers"], [.field name] <+: v.location := by
  have hField {name : String} {violations : List Violation} (hAll : AllIn name violations)
      (hIn : v ∈ violations) : [.field name] <+: v.location := field_prefix_iff.mpr (hAll v hIn)
  have hGrants := approvals.allIn_autoApprovers catalog
  rw [reported_build] at h
  simp only [List.mem_append] at h
  rcases h with (((((hOwner | hMember) | hRule) | hGrant) | hAccess) | hShell) | hShape
  · exact .inr ⟨_, by simp, hField catalog.allIn_tagOwners hOwner⟩
  · exact .inr ⟨_, by simp, hField catalog.allIn_groups hMember⟩
  · obtain ⟨r, hr, hIn⟩ := List.mem_flatMap.mp hRule
    rw [(Catalog.mem_reported hIn).1]
    exact .inl (RuleSet.exists_place_of_mem_references rules hr)
  · exact .inr ⟨_, by simp, hField hGrants.1 hGrant⟩
  · exact .inl ⟨.access, (RuleSet.ofRules rules).exists_place_of_mem_shapes hAccess⟩
  · exact .inl ⟨.shell, (RuleSet.ofRules rules).exists_place_of_mem_shapes hShell⟩
  · exact .inr ⟨_, by simp, hField hGrants.2 hShape⟩

/-- A document on the same catalog that refers to no other principals can be validated as well. -/
theorem exists_validate_of_subset {others : List Rule} {other : Approvals}
    (hGoes : ∀ reference ∈ (build catalog (.ofRules rules) approvals).checked,
      ¬catalog.Lacks reference.principal)
    (hSubset : ∀ reference ∈ (build catalog (.ofRules others) other).references,
      ∃ same ∈ (build catalog (.ofRules rules) approvals).references,
        same.principal = reference.principal) :
    (build catalog (.ofRules others) other).validate lint =
      .ok ⟨(build catalog (.ofRules others) other).reported,
        if lint then (build catalog (.ofRules others) other).unused else []⟩ := by
  refine validate_eq_ok_iff.mpr ⟨fun reference hReference => ?_, rfl⟩
  rcases List.mem_append.mp hReference with hDeclared | hReferred
  · exact hGoes reference (List.mem_append_left _ hDeclared)
  · obtain ⟨same, hSame, hPrincipal⟩ := hSubset reference hReferred
    rw [← hPrincipal]
    exact hGoes same (List.mem_append_right _ hSame)

/-- A validation that does not stop is local. -/
theorem isLocal_of_validate {validation : Validation}
    (h : (build catalog (.ofRules rules) approvals).validate lint = .ok validation) :
    validation.IsLocal catalog (.ofRules rules) approvals lint := by
  obtain ⟨hGoes, rfl⟩ := validate_eq_ok_iff.mp h
  have hNames {name : String} (hName : name ≠ "acls" ∧ name ≠ "ssh") (kind : RuleKind) :
      kind.sectionName ≠ name := by
    cases kind with
    | access => exact hName.1.symm
    | shell => exact hName.2.symm
  constructor
  case rule =>
    intro kind index rule hRule
    have hKind := RuleSet.kind_of_mem_ofKind (List.mem_of_getElem? hRule)
    obtain ⟨hAlone, hReferences⟩ := RuleSet.ofRules_singleton rule
    refine ⟨_, exists_validate_of_subset hGoes fun reference hReference => ?_, ?_⟩
    · have hIn : reference ∈ rule.references 0 := by
        rw [build, hReferences] at hReference
        exact (List.mem_append.mp hReference).resolve_right List.not_mem_nil
      let moved : Reference :=
        ⟨reference.principal, rule.kind.place index ++ reference.location.drop 2⟩
      have hMoved : moved ∈ rule.references index := by
        rw [rule.references_eq_map]
        exact List.mem_map_of_mem hIn
      have hOwn := RuleSet.filter_references rules kind index
      rw [hRule, Option.elim_some] at hOwn
      rw [← hOwn] at hMoved
      exact ⟨moved, List.mem_append_left _ (List.mem_of_mem_filter hMoved), rfl⟩
    · subst hKind
      change (reported _).filter _ = ((reported _).filter _).map _
      rw [filter_place_reported, filter_place_reported, hRule, hAlone]
      exact rule.reported_eq_map_renumber catalog index
  case declarations =>
    have hGone : ∀ reference ∈ (build catalog (.ofRules []) .empty).references,
        ∃ same ∈ (build catalog (.ofRules rules) approvals).references,
          same.principal = reference.principal := List.forall_mem_nil _
    have hAlone : (build catalog (.ofRules []) .empty).validate lint = _ :=
      exists_validate_of_subset hGoes hGone
    rw [RuleSet.ofRules_nil] at hAlone
    refine ⟨_, hAlone, ?_⟩
    change (reported _).filter _ ++ (reported _).filter _ = reported _
    rw [filter_field_reported _ _ _ (hNames (by decide)),
      filter_field_reported _ _ _ (hNames (by decide)), ← RuleSet.ofRules_nil, reported_build]
    simp [RuleSet.ofRules, RuleSet.empty, RuleSet.shapes, RuleSet.ofKind, Approvals.empty,
      Approvals.references, referencesAt, Table.values]
  case grants =>
    have hKept : ∀ reference ∈ (build catalog (.ofRules []) approvals).references,
        ∃ same ∈ (build catalog (.ofRules rules) approvals).references,
          same.principal = reference.principal :=
      fun reference hReference => ⟨reference, List.mem_append_right _ hReference, rfl⟩
    have hAlone : (build catalog (.ofRules []) approvals).validate lint = _ :=
      exists_validate_of_subset hGoes hKept
    rw [RuleSet.ofRules_nil] at hAlone
    refine ⟨_, hAlone, ?_⟩
    change (reported _).filter _ = (reported _).filter _
    rw [← RuleSet.ofRules_nil, filter_field_reported _ _ _ (hNames (by decide)),
      filter_field_reported _ _ _ (hNames (by decide))]
  case exhaustive =>
    exact fun v => exists_place_of_mem_reported

/-- For every catalog, all rules in the order in which they were added and all grants, a validation
reports exactly what there is to report about each rule, about the declarations and about the grants
alone, wherever it does not stop; and it stops exactly at a reference to a tag that is claimed but
has no entry. -/
theorem validate_isLocal (catalog : Catalog) (rules : List Rule) (approvals : Approvals)
    (lint : Bool) :
    ((∃ validation, (build catalog (.ofRules rules) approvals).validate lint = .ok validation ∧
        validation.IsLocal catalog (.ofRules rules) approvals lint) ↔
      ∀ reference ∈ (build catalog (.ofRules rules) approvals).checked,
        ¬catalog.Lacks reference.principal) ∧
    ∀ validation, (build catalog (.ofRules rules) approvals).validate lint = .ok validation →
      validation.IsLocal catalog (.ofRules rules) approvals lint := by
  refine ⟨⟨?_, fun hGoes => ?_⟩, fun validation => isLocal_of_validate⟩
  · rintro ⟨validation, hValidation, -⟩
    exact (validate_eq_ok_iff.mp hValidation).1
  · have hValidation : (build catalog (.ofRules rules) approvals).validate lint = _ :=
      validate_eq_ok_iff.mpr ⟨hGoes, rfl⟩
    exact ⟨_, hValidation, isLocal_of_validate hValidation⟩

end Document

/-- On a catalog that comes about by registrations a validation never stops. -/
theorem Catalog.Reached.exists_isLocal {catalog : Catalog} (h : catalog.Reached)
    (rules : List Rule) (approvals : Approvals) (lint : Bool) :
    ∃ validation,
      (Document.build catalog (.ofRules rules) approvals).validate lint = .ok validation ∧
        validation.IsLocal catalog (.ofRules rules) approvals lint := by
  obtain ⟨validation, hValidation⟩ := h.exists_validate (.ofRules rules) approvals lint
  exact ⟨validation, hValidation, Document.isLocal_of_validate hValidation⟩

/-- The catalog that is left behind by the registration of a tag whose owners cannot be read. -/
def unfinishedCatalog : Catalog :=
  (Session.empty.step (.registerTag (.text "tag:web") .null)).1.catalog

/-- A rule that a source may reach everything. -/
def ruleFor (source : String) : Rule := .access (.read "accept" [source] ["*:*"])

/-- A tag without an entry in one rule masks the unknown host in another. -/
theorem exists_masked_violation :
    (Document.build unfinishedCatalog (.ofRules [ruleFor "tag:web", ruleFor "nowhere"])
      .empty).validate true = .error (Catalog.unknownTag "web") ∧
    ∃ alone,
      (Document.build unfinishedCatalog (.ofRules [ruleFor "nowhere"]) .empty).validate true =
        .ok alone ∧
      alone.under (RuleKind.access.place 0) =
        [⟨.unknownHost "nowhere" "nowhere" false false, .text "nowhere",
          [.field "acls", .item 0, .field "src", .item 0]⟩] := by
  exact ⟨rfl, _, rfl, rfl⟩

end Tailnet
