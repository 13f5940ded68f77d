import Tailnet.Proofs.Policy.Integrity
import Tailnet.Proofs.Session.Placing

/-!
Where violations point. The place of every violation is found in the policy, and what stands there
is what the violation is about: the token that it names, the destination with the target that it
names, or nothing at all where the rule that it names lacks something. Places are noted when rules
are added, while the policy is written from the finished document, so the two have to stay in step.
-/

namespace Tailnet

open Text

/-- Whether a place is that of a destination of an access rule. -/
def Path.isAccessDestination : Path → Bool
  | [.field "acls", .item _, .field "dst", .item _] => true
  | _ => false

/-- What a violation is about: where a rule lacks something an empty list, and the violation names
the rule's place; where the target of a destination cannot be resolved the destination, and the
violation names its target; everywhere else what the violation names. -/
inductive Violation.IsAbout (v : Violation) : Value → Prop where
  | lack (hFinding : v.finding.isAboutRule = true)
      (hNamed : v.identifier = .text (Path.text v.location.dropLast)) : IsAbout v (.list [])
  | target {token : String} (hFinding : v.finding.isAboutReference = true)
      (hPlace : v.location.isAccessDestination = true)
      (hNamed : v.identifier = .text (Destination.read token).target.raw) : IsAbout v (.text token)
  | own (hFinding : v.finding.isAboutRule = false)
      (hPlace : v.finding.isAboutReference = true → v.location.isAccessDestination = false) :
      IsAbout v v.identifier

/-- The place of a violation is found in a policy, with what the violation is about. -/
def Violation.PointsInto (policy : Value) (v : Violation) : Prop :=
  ∃ value, v.location.resolve? policy = some value ∧ v.IsAbout value

section Resolution

theorem Step.follow?_field (name : String) (value : Value) :
    (Step.field name).follow? value = value.field? name := by
  cases value <;> rfl

theorem Step.follow?_entry (key : String) (value : Value) :
    (Step.entry key).follow? value = value.field? key := by
  cases value <;> rfl

namespace Path

theorem resolve?_append (path rest : Path) (value : Value) :
    resolve? (path ++ rest) value = (resolve? path value).bind (resolve? rest) := by
  induction path generalizing value with
  | nil => rfl
  | cons step path ih =>
      rw [List.cons_append, resolve?, resolve?, Option.bind_assoc]
      exact congrArg _ (funext ih)

/-- What is found below a part of a value is found there in the value. -/
theorem resolve?_field_of_part {name : String} {rest : Path} {value found : Value}
    (hNe : rest ≠ []) (h : resolve? rest (value.part name) = some found) :
    resolve? (.field name :: rest) value = some found := by
  obtain ⟨step, rest, rfl⟩ := List.exists_cons_of_ne_nil hNe
  rw [resolve?, Step.follow?_field]
  cases hField : value.field? name with
  | some part => rwa [Value.part, hField] at h
  | none =>
      rw [Value.part, hField, resolve?] at h
      cases step <;> cases h

theorem resolve?_item_texts (tokens : List String) (i : Nat) :
    resolve? [.item i] (.texts tokens) = tokens[i]?.map Value.text := by
  simp [resolve?, Step.follow?, Value.texts]

end Path

end Resolution

/-- A reference whose place in a policy holds its principal, or a destination with it as the
target. -/
inductive Reference.StandsIn (policy : Value) (r : Reference) : Prop where
  | token (hFound : r.location.resolve? policy = some (.text r.principal.raw))
      (hPlace : r.location.isAccessDestination = false)
  | target {token : String} (hFound : r.location.resolve? policy = some (.text token))
      (hTarget : (Destination.read token).target = r.principal)
      (hPlace : r.location.isAccessDestination = true)

section References

variable {r : Reference} {policy : Value} {location : Path}

theorem exists_of_mem_referencesAt {principals : List Principal}
    (h : r ∈ referencesAt location principals) :
    ∃ i, r.location = location ++ [.item i] ∧ principals[i]? = some r.principal := by
  obtain ⟨⟨p, i⟩, hIn, rfl⟩ := List.mem_map.mp h
  exact ⟨i, rfl, List.mk_mem_zipIdx_iff_getElem?.mp hIn⟩

/-- References to principals stand where the tokens of these are. -/
theorem standsIn_of_mem_referencesAt {principals : List Principal}
    (h : r ∈ referencesAt location principals)
    (hTokens : location.resolve? policy = some (.texts (principals.map Principal.raw)))
    (hPlace : ∀ i, Path.isAccessDestination (location ++ [.item i]) = false) :
    r.StandsIn policy := by
  obtain ⟨i, hLocation, hPrincipal⟩ := exists_of_mem_referencesAt h
  refine .token ?_ (hLocation ▸ hPlace i)
  rw [hLocation, Path.resolve?_append, hTokens, Option.bind_some, Path.resolve?_item_texts,
    List.getElem?_map, hPrincipal]
  rfl

/-- References to the targets of destinations stand where the tokens of these are. -/
theorem standsIn_of_mem_targets {destinations : List Destination}
    (h : r ∈ referencesAt location (destinations.map Destination.target))
    (hTokens : location.resolve? policy = some (.texts (destinations.map Destination.raw)))
    (hRead : ∀ d ∈ destinations, Destination.read d.raw = d)
    (hPlace : ∀ i, Path.isAccessDestination (location ++ [.item i]) = true) :
    r.StandsIn policy := by
  obtain ⟨i, hLocation, hTarget⟩ := exists_of_mem_referencesAt h
  rw [List.getElem?_map, Option.map_eq_some_iff] at hTarget
  obtain ⟨d, hd, hPrincipal⟩ := hTarget
  refine @Reference.StandsIn.target _ _ d.raw ?_ ?_ (hLocation ▸ hPlace i)
  · rw [hLocation, Path.resolve?_append, hTokens, Option.bind_some, Path.resolve?_item_texts,
      List.getElem?_map, hd]
    rfl
  · rw [hRead d (List.mem_of_getElem? hd), hPrincipal]

end References

/-- The rule as data. -/
def Rule.toValue : Rule → Value
  | access rule => rule.toValue
  | shell rule => rule.toValue

section Rules

variable {policy : Value} {index : Nat}

theorem AccessRule.field?_toValue (rule : AccessRule) :
    rule.toValue.field? "action" = some (.text rule.action) ∧
    rule.toValue.field? "src" = some (.texts (rule.sources.map Principal.raw)) ∧
    rule.toValue.field? "dst" = some (.texts (rule.destinations.map Destination.raw)) := by
  simp [toValue, Value.field?_record, Table.get?_cons]

theorem ShellRule.field?_toValue (rule : ShellRule) :
    rule.toValue.field? "action" = some (.text rule.action) ∧
    rule.toValue.field? "src" = some (.texts (rule.sources.map Principal.raw)) ∧
    rule.toValue.field? "dst" = some (.texts (rule.destinations.map Principal.raw)) ∧
    rule.toValue.field? "users" = some (.texts rule.users) ∧
    (rule.checkPeriod.isNull = false →
      rule.toValue.field? "checkPeriod" = some rule.checkPeriod) := by
  simp +contextual [toValue, Value.field?_record, Table.get?_cons]

/-- The fields of a rule stand below its place. -/
theorem resolve?_place_field {kind : RuleKind} {rule : Value}
    (hRule : (kind.place index).resolve? policy = some rule) (name : String) :
    Path.resolve? (kind.place index ++ [.field name]) policy = rule.field? name := by
  rw [Path.resolve?_append, hRule, Option.bind_some, Path.resolve?, Step.follow?_field]
  cases rule.field? name <;> rfl

namespace Rule

/-- The references of a rule stand in a policy that has the rule at its position. -/
theorem standsIn_of_mem_references {rule : Rule}
    (hRule : (rule.kind.place index).resolve? policy = some rule.toValue)
    (hRead : ∀ d ∈ rule.destinations, Destination.read d.raw = d) {r : Reference}
    (hr : r ∈ rule.references index) : r.StandsIn policy := by
  have hField := resolve?_place_field hRule
  cases rule with
  | access rule =>
      obtain ⟨-, hSources, hDestinations⟩ := rule.field?_toValue
      rcases List.mem_append.mp hr with hSource | hTarget
      · exact standsIn_of_mem_referencesAt hSource ((hField "src").trans hSources) fun _ => rfl
      · exact standsIn_of_mem_targets hTarget ((hField "dst").trans hDestinations) hRead
          fun _ => rfl
  | shell rule =>
      obtain ⟨-, hSources, hDestinations, -⟩ := rule.field?_toValue
      rcases List.mem_append.mp hr with hSource | hDestination
      · exact standsIn_of_mem_referencesAt hSource ((hField "src").trans hSources) fun _ => rfl
      · exact standsIn_of_mem_referencesAt hDestination ((hField "dst").trans hDestinations)
          fun _ => rfl

end Rule

/-- What is named and found at its place is pointed at, unless it is about more than that. -/
theorem Violation.pointsInto_own {v : Violation}
    (hFound : v.location.resolve? policy = some v.identifier)
    (hFinding : v.finding.isAboutRule = false ∧ v.finding.isAboutReference = false) :
    v.PointsInto policy := by
  refine ⟨_, hFound, .own hFinding.1 fun hReference => ?_⟩
  rw [hFinding.2] at hReference
  cases hReference

/-- A rule that lacks something has an empty list there. -/
theorem pointsInto_of_mem_lack {α : Type} {items : List α} {token : α → String} {place : Path}
    {finding : Finding} {name : String} (hFinding : finding.isAboutRule = true)
    (hTokens : Path.resolve? (place ++ [.field name]) policy = some (.texts (items.map token)))
    {v : Violation} (hv : v ∈ if items.isEmpty then [aboutRule place finding name] else []) :
    v.PointsInto policy := by
  split at hv
  case isTrue hNone =>
    obtain rfl := List.mem_singleton.mp hv
    rw [List.isEmpty_iff.mp hNone] at hTokens
    refine ⟨_, hTokens, .lack hFinding ?_⟩
    rw [aboutRule, List.dropLast_concat]
  case isFalse => cases hv

theorem resolve?_item_of_texts {place : Path} {name token : String} {tokens : List String} {i : Nat}
    (hTokens : Path.resolve? (place ++ [.field name]) policy = some (.texts tokens))
    (hToken : tokens[i]? = some token) :
    Path.resolve? (place ++ [.field name, .item i]) policy = some (.text token) := by
  rw [List.append_cons, Path.resolve?_append, hTokens, Option.bind_some, Path.resolve?_item_texts,
    hToken, Option.map_some]

theorem AccessRule.pointsInto_of_mem_shape {rule : AccessRule}
    (hRule : (RuleKind.access.place index).resolve? policy = some rule.toValue) {v : Violation}
    (hv : v ∈ rule.shape index) : v.PointsInto policy := by
  have hField := resolve?_place_field hRule
  obtain ⟨hAction, hSources, hDestinations⟩ := rule.field?_toValue
  simp only [shape, List.mem_append] at hv
  rcases hv with ((hv | hv) | hv) | hv
  · split at hv
    · cases hv
    · obtain rfl := List.mem_singleton.mp hv
      exact Violation.pointsInto_own ((hField "action").trans hAction) ⟨rfl, rfl⟩
  · exact pointsInto_of_mem_lack rfl ((hField "src").trans hSources) hv
  · exact pointsInto_of_mem_lack rfl ((hField "dst").trans hDestinations) hv
  · obtain ⟨⟨d, i⟩, hd, hPorts⟩ := List.mem_filterMap.mp hv
    obtain ⟨cause, -, rfl⟩ := Option.map_eq_some_iff.mp hPorts
    refine Violation.pointsInto_own ?_ ⟨rfl, rfl⟩
    refine resolve?_item_of_texts ((hField "dst").trans hDestinations) ?_
    rw [List.getElem?_map, List.mk_mem_zipIdx_iff_getElem?.mp hd, Option.map_some]

theorem ShellRule.pointsInto_of_mem_shape {rule : ShellRule}
    (hRule : (RuleKind.shell.place index).resolve? policy = some rule.toValue) {v : Violation}
    (hv : v ∈ rule.shape index) : v.PointsInto policy := by
  have hField := resolve?_place_field hRule
  obtain ⟨hAction, hSources, hDestinations, hUsers, hPeriod⟩ := rule.field?_toValue
  simp only [shape, List.mem_append] at hv
  rcases hv with (((((hv | hv) | hv) | hv) | hv) | hv) | hv
  · split at hv
    · cases hv
    · obtain rfl := List.mem_singleton.mp hv
      exact Violation.pointsInto_own ((hField "action").trans hAction) ⟨rfl, rfl⟩
  · exact pointsInto_of_mem_lack rfl ((hField "src").trans hSources) hv
  · exact pointsInto_of_mem_lack rfl ((hField "dst").trans hDestinations) hv
  · obtain ⟨⟨p, i⟩, hp, hWildcard⟩ := List.mem_filterMap.mp hv
    split at hWildcard
    case isTrue =>
      cases hWildcard
      refine Violation.pointsInto_own ?_ ⟨rfl, rfl⟩
      refine resolve?_item_of_texts ((hField "dst").trans hDestinations) ?_
      rw [List.getElem?_map, List.mk_mem_zipIdx_iff_getElem?.mp hp, Option.map_some]
    case isFalse => cases hWildcard
  · rw [← List.map_id rule.users] at hUsers
    exact pointsInto_of_mem_lack rfl ((hField "users").trans hUsers) hv
  · obtain ⟨⟨user, i⟩, hUser, hEmpty⟩ := List.mem_filterMap.mp hv
    split at hEmpty
    case isTrue =>
      cases hEmpty
      refine Violation.pointsInto_own ?_ ⟨rfl, rfl⟩
      exact resolve?_item_of_texts ((hField "users").trans hUsers)
        (List.mk_mem_zipIdx_iff_getElem?.mp hUser)
    case isFalse => cases hEmpty
  · split at hv
    case isTrue => cases hv
    case isFalse hMisplaced =>
      obtain rfl := List.mem_singleton.mp hv
      rw [not_or, Bool.not_eq_true] at hMisplaced
      exact Violation.pointsInto_own ((hField "checkPeriod").trans (hPeriod hMisplaced.1))
        ⟨rfl, rfl⟩

end Rules

section Declarations

variable {catalog : Catalog} {policy : Value} {r : Reference} {v : Violation}

/-- What is reported about a reference points where the reference stands. -/
theorem Catalog.pointsInto_of_mem_reported (hStands : r.StandsIn policy)
    (hv : v ∈ catalog.reported r) : v.PointsInto policy := by
  obtain ⟨found, hFinding, rfl⟩ := exists_of_mem_reported hv
  have hReference := isAboutReference_of_finding? hFinding
  cases hStands with
  | token hFound hPlace =>
      exact ⟨_, hFound, .own (found.isAboutRule_eq_false hReference) fun _ => hPlace⟩
  | target hFound hTarget hPlace =>
      refine ⟨_, hFound, .target hReference hPlace ?_⟩
      rw [hTarget]

/-- Everywhere but at a destination with ports, a reference stands where its own token is. -/
theorem Reference.StandsIn.resolve?_eq (h : r.StandsIn policy)
    (hPlace : r.location.isAccessDestination = false) :
    r.location.resolve? policy = some (.text r.principal.raw) := by
  cases h with
  | token hFound => exact hFound
  | target _ _ hTarget =>
      rw [hTarget] at hPlace
      cases hPlace

theorem Path.isAccessDestination_of_head? {location : Path} {name : String}
    (hHead : location.head? = some (.field name)) (hName : name ≠ "acls") :
    location.isAccessDestination = false := by
  unfold isAccessDestination
  split
  case h_1 =>
    obtain rfl : "acls" = name := by simpa using hHead
    exact absurd rfl hName
  case h_2 => rfl

theorem Catalog.pointsInto_of_mem_reportedOwner (hStands : r.StandsIn policy)
    (hPlace : r.location.isAccessDestination = false) (hv : v ∈ catalog.reportedOwner r) :
    v.PointsInto policy := by
  unfold reportedOwner checkOwner at hv
  split at hv
  · exact pointsInto_of_mem_reported hStands hv
  · obtain rfl := List.mem_singleton.mp hv
    exact Violation.pointsInto_own (hStands.resolve?_eq hPlace) ⟨rfl, rfl⟩

theorem pointsInto_of_approverShape? (hStands : r.StandsIn policy)
    (hv : approverShape? r = some v) : v.PointsInto policy := by
  unfold approverShape? at hv
  split at hv
  case isTrue hApprover =>
    cases hv
    have hPlace := Path.isAccessDestination_of_head? hApprover.1 (by decide)
    exact Violation.pointsInto_own (hStands.resolve?_eq hPlace) ⟨rfl, rfl⟩
  case isFalse => cases hv

end Declarations

section Documents

theorem Path.resolve?_entry {value found : Value} {name key : String}
    (h : (value.part name).field? key = some found) :
    resolve? [.field name, .entry key] value = some found := by
  refine resolve?_field_of_part (List.cons_ne_nil _ _) ?_
  rw [resolve?, Step.follow?_entry, h]
  rfl

namespace Document

variable {document : Document} {r : Reference}

theorem standsIn_ownerReferences (h : document.catalog.Filed)
    (hr : r ∈ document.catalog.ownerReferences) :
    r.StandsIn document.toValue ∧ r.location.isAccessDestination = false := by
  obtain ⟨tag, hTag, hOwner⟩ := List.mem_flatMap.mp hr
  refine ⟨standsIn_of_mem_referencesAt hOwner ?_ fun _ => rfl, ?_⟩
  · refine Path.resolve?_entry ?_
    rw [(parts_toValue document).1, field?_entriesValue_iff h.tags.nodup_names]
    exact ⟨tag, hTag, rfl, rfl⟩
  · obtain ⟨i, hLocation, -⟩ := exists_of_mem_referencesAt hOwner
    exact hLocation ▸ rfl

theorem standsIn_memberReferences (h : document.catalog.Filed)
    (hr : r ∈ document.catalog.memberReferences) : r.StandsIn document.toValue := by
  obtain ⟨group, hGroup, hMember⟩ := List.mem_flatMap.mp hr
  refine standsIn_of_mem_referencesAt hMember (Path.resolve?_entry ?_) fun _ => rfl
  rw [field?_groups_toValue, field?_entriesValue_iff h.groups.nodup_names]
  exact ⟨group, hGroup, rfl, rfl⟩

theorem standsIn_approvals (hRoutes : document.approvals.routes.keys.Nodup)
    (hr : r ∈ document.approvals.references) : r.StandsIn document.toValue := by
  have hPart : document.toValue.part "autoApprovers" = document.approvals.toValue :=
    (parts_toValue document).2.2.2.2
  rcases List.mem_append.mp hr with hExit | hRoute
  · refine standsIn_of_mem_referencesAt hExit ?_ fun _ => rfl
    refine Path.resolve?_field_of_part (List.cons_ne_nil _ _) ?_
    rw [hPart, Path.resolve?, Step.follow?_field]
    simp [Approvals.toValue, Value.field?_record, Table.get?_cons, Path.resolve?]
  · obtain ⟨⟨network, bound⟩, hBound, hApprover⟩ := List.mem_flatMap.mp hRoute
    refine standsIn_of_mem_referencesAt hApprover ?_ fun _ => rfl
    refine Path.resolve?_field_of_part (List.cons_ne_nil _ _) ?_
    rw [hPart]
    refine Path.resolve?_entry ?_
    simp only [Approvals.toValue, Value.part_record_cons, String.reduceEq, if_false, if_true]
    refine Value.field?_record_of_mem ?_ (List.mem_map_of_mem hBound)
    rw [Table.keys, List.map_map]
    exact hRoutes

/-- The rules of a document stand at their places. -/
theorem resolve?_place {catalog : Catalog} {rules : RuleSet} {approvals : Approvals}
    {kind : RuleKind} {index : Nat} {rule : Rule} (h : (rules.ofKind kind)[index]? = some rule) :
    (kind.place index).resolve? (build catalog rules approvals).toValue = some rule.toValue := by
  obtain ⟨-, -, hAccess, hShell, -⟩ := parts_toValue (build catalog rules approvals)
  have hItem {items : List Value} : Path.resolve? [.item index] (.list items) = items[index]? := by
    simp [Path.resolve?, Step.follow?]
  refine Path.resolve?_field_of_part (List.cons_ne_nil _ _) ?_
  cases kind with
  | access =>
      obtain ⟨given, hGiven, rfl⟩ := Option.map_eq_some_iff.mp (List.getElem?_map ▸ h)
      rw [RuleKind.sectionName, hAccess, hItem, List.getElem?_map]
      exact Option.map_eq_some_iff.mpr ⟨given, hGiven, rfl⟩
  | shell =>
      obtain ⟨given, hGiven, rfl⟩ := Option.map_eq_some_iff.mp (List.getElem?_map ▸ h)
      rw [RuleKind.sectionName, hShell, hItem, List.getElem?_map]
      exact Option.map_eq_some_iff.mpr ⟨given, hGiven, rfl⟩

/-- Of a document that came about, every violation points into its policy. -/
theorem Made.pointsInto_of_validate {lint : Bool} {validation : Validation} (h : document.Made)
    (hValidation : document.validate lint = .ok validation) :
    ∀ v ∈ validation.violations, v.PointsInto document.toValue := by
  have hKeyed := h.keyed
  obtain ⟨catalog, rules, approvals, halves, hPlaced, rfl⟩ := h.placed
  obtain ⟨-, rfl⟩ := validate_eq_ok_iff.mp hValidation
  have hReferences : ∀ r ∈ (build catalog rules approvals halves).references,
      r.StandsIn (build catalog rules approvals halves).toValue := by
    intro r hr
    rcases List.mem_append.mp hr with hRule | hApprover
    · obtain ⟨kind, index, rule, hFound, hIn⟩ := hPlaced.references r hRule
      have hMem := List.mem_of_getElem? hFound
      obtain rfl := RuleSet.kind_of_mem_ofKind hMem
      exact rule.standsIn_of_mem_references (resolve?_place hFound) (hPlaced.read _ rule hMem) hIn
    · exact standsIn_approvals hKeyed.routes hApprover
  intro v hv
  simp only [reported, List.mem_append, List.mem_flatMap, List.mem_filterMap] at hv
  rcases hv with ((((hv | hv) | hv) | hv) | hv) | hv
  · obtain ⟨r, hr, hv⟩ := hv
    obtain ⟨hStands, hPlace⟩ := standsIn_ownerReferences hKeyed.catalog hr
    exact Catalog.pointsInto_of_mem_reportedOwner hStands hPlace hv
  · obtain ⟨r, hr, hv⟩ := hv
    exact Catalog.pointsInto_of_mem_reported (standsIn_memberReferences hKeyed.catalog hr) hv
  · obtain ⟨r, hr, hv⟩ := hv
    exact Catalog.pointsInto_of_mem_reported (hReferences r hr) hv
  · obtain ⟨⟨rule, index⟩, hRule, hv⟩ := hv
    have hFound : (rules.ofKind .access)[index]? = some (.access rule) := by
      rw [RuleSet.ofKind, List.getElem?_map]
      exact Option.map_eq_some_iff.mpr ⟨rule, List.mk_mem_zipIdx_iff_getElem?.mp hRule, rfl⟩
    exact AccessRule.pointsInto_of_mem_shape (resolve?_place hFound) hv
  · obtain ⟨⟨rule, index⟩, hRule, hv⟩ := hv
    have hFound : (rules.ofKind .shell)[index]? = some (.shell rule) := by
      rw [RuleSet.ofKind, List.getElem?_map]
      exact Option.map_eq_some_iff.mpr ⟨rule, List.mk_mem_zipIdx_iff_getElem?.mp hRule, rfl⟩
    exact ShellRule.pointsInto_of_mem_shape (resolve?_place hFound) hv
  · obtain ⟨r, hr, hv⟩ := hv
    exact pointsInto_of_approverShape? (hReferences r hr) hv

/-- Steps towards a document with a rule that has no source, a host that is not declared and a
destination without ports. -/
def misguidedSteps : List SessionStep :=
  [.addAccess (.text "accept") (.texts []) (.texts ["nas:22", "*"]), .build true true]

/-- The three violations of this document point into its policy. -/
theorem Made.pointsInto_of_validate_misguided : ∃ document validation,
    (Session.empty.after misguidedSteps).document = some document ∧
      document.validate false = .ok validation ∧ validation.violations.length = 3 ∧
      ∀ v ∈ validation.violations, v.PointsInto document.toValue := by
  have hRun : (Session.empty.after misguidedSteps).document.any (fun document =>
      (document.validate false).toOption.any fun validation =>
        validation.violations.length == 3) = true := by decide +kernel
  obtain ⟨document, hDocument, hRun⟩ := (Option.any_eq_true _ _).mp hRun
  obtain ⟨validation, hValidation, hLength⟩ := (Option.any_eq_true _ _).mp hRun
  have hReturned := toOption_eq_some_iff.mp hValidation
  exact ⟨document, validation, hDocument, hReturned, beq_iff_eq.mp hLength,
    Made.pointsInto_of_validate (.session .usual misguidedSteps hDocument) hReturned⟩

end Document

end Documents

end Tailnet
