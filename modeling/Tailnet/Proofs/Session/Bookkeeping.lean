import Tailnet.Proofs.Policy.Listing
import Tailnet.Proofs.Session.Naming

/-!
The references of documents that are built in sessions. They are noted one by one while rules are
added, and worked out from the grants when a document is built. In whatever order this happens, they
account for every principal of every rule and every approver exactly once, at its own place.
-/

namespace Tailnet

/-- The rules of a kind among some. -/
def RuleKind.among (kind : RuleKind) (rules : List Rule) : List Rule :=
  rules.filter fun rule => rule.kind = kind

theorem RuleKind.among_append_singleton (kind : RuleKind) (rules : List Rule) (last : Rule) :
    kind.among (rules ++ [last]) =
      kind.among rules ++ if kind = last.kind then [last] else [] := by
  simp [among, List.filter_singleton, eq_comm]

namespace Rule

/-- Rules with their positions among those of their kind. -/
def numbered (rules : List Rule) : List (Rule × Nat) :=
  rules.zipIdx.map fun (rule, n) => (rule, (rule.kind.among (rules.take n)).length)

/-- A rule that is added gets the next position, and leaves those of the others as they are. -/
theorem numbered_append_singleton (rules : List Rule) (last : Rule) :
    numbered (rules ++ [last]) = numbered rules ++ [(last, (last.kind.among rules).length)] := by
  rw [numbered, List.zipIdx_append, List.map_append]
  congr 1
  · refine List.map_congr_left fun entry hIn => ?_
    obtain ⟨rule, n⟩ := entry
    have hBefore : n < rules.length := by
      simpa using List.snd_lt_of_mem_zipIdx hIn
    dsimp only
    rw [List.take_append_of_le_length (Nat.le_of_lt hBefore)]
  · simp

theorem mem_numbered_iff {rules : List Rule} {rule : Rule} {index : Nat} :
    (rule, index) ∈ numbered rules ↔ (rule.kind.among rules)[index]? = some rule := by
  induction rules using List.reverseRecOn with
  | nil => simp [numbered, RuleKind.among]
  | append_singleton rules last ih =>
      rw [numbered_append_singleton, List.mem_append, ih, RuleKind.among_append_singleton,
        List.mem_singleton, Prod.mk.injEq]
      by_cases hKind : rule.kind = last.kind
      · rw [if_pos hKind, List.getElem?_append]
        grind
      · rw [if_neg hKind, List.append_nil]
        have hNe : rule ≠ last := fun hSame => hKind (congrArg kind hSame)
        simp [hNe]

/-- No two rules of a kind have the same position. -/
theorem nodup_numbered (rules : List Rule) :
    ((numbered rules).map fun (rule, index) => (rule.kind, index)).Nodup := by
  induction rules using List.reverseRecOn with
  | nil => exact List.nodup_nil
  | append_singleton rules last ih =>
      rw [numbered_append_singleton, List.map_append, List.map_singleton, ← List.concat_eq_append]
      refine ih.concat fun hIn => ?_
      obtain ⟨⟨rule, index⟩, hRule, hSame⟩ := List.mem_map.mp hIn
      obtain ⟨hKind, hIndex⟩ := Prod.mk.inj hSame
      have hBound := (List.getElem?_eq_some_iff.mp (mem_numbered_iff.mp hRule)).1
      rw [hKind, hIndex] at hBound
      exact Nat.lt_irrefl _ hBound

/-- The references of a rule are those to the principals in its two lists. -/
theorem references_eq (rule : Rule) (index : Nat) :
    rule.references index =
      referencesAt (Listing.rule rule.kind index .source).path (rule.principals .source) ++
      referencesAt (Listing.rule rule.kind index .destination).path
        (rule.principals .destination) := by
  cases rule <;> rfl

end Rule

namespace RuleSet

theorem ofKind_ofRules (rules : List Rule) (kind : RuleKind) :
    (ofRules rules).ofKind kind = kind.among rules := by
  induction rules using List.reverseRecOn with
  | nil => cases kind <;> rfl
  | append_singleton rules last ih =>
      rw [ofRules_append_singleton, ofKind_add, ih, RuleKind.among_append_singleton]

theorem references_ofRules (rules : List Rule) :
    (ofRules rules).references =
      (Rule.numbered rules).flatMap fun (rule, index) => rule.references index := by
  induction rules using List.reverseRecOn with
  | nil => rfl
  | append_singleton rules last ih =>
      rw [ofRules_append_singleton, references_add, ih, ofKind_ofRules,
        Rule.numbered_append_singleton]
      simp

end RuleSet

namespace Document

/-- The lists of a document whose rules were added in a given order: those of the rules as they were
added, and then those of the approvers. -/
def listings (document : Document) (added : List Rule) : List Listing :=
  ((Rule.numbered added).flatMap fun (rule, index) =>
    [.rule rule.kind index .source, .rule rule.kind index .destination]) ++
    .exitNode :: document.approvals.routes.keys.map .route

/-- A document whose references account for what its rules, added in a given order, and its grants
speak of. -/
structure Accounts (document : Document) (added : List Rule) : Prop where
  /-- The rules of each kind stand in the order in which they were added. -/
  rules : ∀ kind, document.rulesOf kind = kind.among added
  /-- List by list, in this order, there is one reference for each principal. -/
  references : document.references =
    (document.listings added).flatMap fun listing =>
      referencesAt listing.path (document.listed listing)
  /-- What a reference notes stands at its place in the document, and nothing that stands there is
  left out. -/
  mem_iff : ∀ r, r ∈ document.references ↔ ∃ listing i,
    r.location = Listing.place listing i ∧ (document.listed listing)[i]? = some r.principal
  /-- No place is written twice. -/
  nodup : (document.references.map fun r => r.location.text).Nodup

end Document

theorem mem_referencesAt_iff {location : Path} {principals : List Principal} {r : Reference} :
    r ∈ referencesAt location principals ↔
      ∃ i, r.location = location ++ [.item i] ∧ principals[i]? = some r.principal := by
  simp only [referencesAt, List.mem_map, Prod.exists, List.mk_mem_zipIdx_iff_getElem?]
  constructor
  · rintro ⟨p, i, hItem, rfl⟩
    exact ⟨i, rfl, hItem⟩
  · rintro ⟨i, hLocation, hItem⟩
    exact ⟨r.principal, i, hItem, by rw [← hLocation]⟩

/-- The references of a list are written with its places. -/
theorem Listing.texts_referencesAt (listing : Listing) (principals : List Principal) :
    (referencesAt listing.path principals).map (fun r => r.location.text) =
      (List.range principals.length).map fun i => (listing.place i).text := by
  rw [List.range_eq_range', ← List.zipIdx_map_snd, referencesAt, List.map_map, List.map_map]
  rfl

/-- A document made of rules that were added in a given order, and of grants in which no network
stands twice. -/
structure Document.Collects (document : Document) (added : List Rule) : Prop where
  references : document.references =
    (RuleSet.ofRules added).references ++ document.approvals.references
  rules : ∀ kind, document.rulesOf kind = kind.among added
  routes : document.approvals.routes.keys.Nodup

namespace Document.Collects

variable {document : Document} {added : List Rule}

theorem build (catalog : Catalog) {approvals : Approvals} (h : approvals.routes.keys.Nodup)
    (halves : Text.Halves) :
    (Document.build catalog (.ofRules added) approvals halves).Collects added where
  references := rfl
  rules kind := by
    rw [← RuleSet.ofKind_ofRules]
    cases kind <;> rfl
  routes := h

variable (h : document.Collects added)

include h

/-- What is listed for a rule is what the rule says. -/
theorem listed_rule {rule : Rule} {index : Nat} (hRule : (rule, index) ∈ Rule.numbered added)
    (side : RuleSide) : document.listed (.rule rule.kind index side) = rule.principals side := by
  simp [listed, h.rules, Rule.mem_numbered_iff.mp hRule]

/-- What is listed for a network are its approvers. -/
theorem listed_route {network : String} {bound : Table String Principal}
    (hEntry : (network, bound) ∈ document.approvals.routes) :
    document.listed (.route network) = bound.values := by
  simp [listed, Approvals.route?, Table.get?_eq_some_of_mem h.routes hEntry]

/-- The references go through the lists one after the other. -/
theorem references_eq : document.references =
    (document.listings added).flatMap fun listing =>
      referencesAt listing.path (document.listed listing) := by
  rw [h.references, RuleSet.references_ofRules, listings, List.flatMap_append,
    List.flatMap_assoc, List.flatMap_cons, List.flatMap_map]
  congr 1
  · refine List.flatMap_congr fun numbered hRule => ?_
    obtain ⟨rule, index⟩ := numbered
    simp [rule.references_eq, h.listed_rule hRule]
  · rw [Approvals.references, Table.keys, List.flatMap_map]
    congr 1
    refine List.flatMap_congr fun entry hEntry => ?_
    rw [h.listed_route hEntry]
    rfl

/-- A list with something in it is gone through. -/
theorem mem_listings {listing : Listing} (hSome : document.listed listing ≠ []) :
    listing ∈ document.listings added := by
  cases listing with
  | exitNode => simp [listings]
  | route network =>
      have hKey : network ∈ document.approvals.routes.keys := by
        by_contra hNone
        apply hSome
        simp [listed, Approvals.route?, Table.get?_eq_none_iff.mpr hNone]
      simp [listings, hKey]
  | rule kind index side =>
      rw [listed, h.rules] at hSome
      split at hSome
      case h_1 rule hRule =>
        obtain rfl : rule.kind = kind := by
          simpa using (List.mem_filter.mp (List.mem_of_getElem? hRule)).2
        have hNumbered := Rule.mem_numbered_iff.mpr hRule
        refine List.mem_append_left _ (List.mem_flatMap.mpr ⟨_, hNumbered, ?_⟩)
        cases side <;> simp
      case h_2 => exact absurd rfl hSome

/-- No list is gone through twice. -/
theorem nodup_listings : (document.listings added).Nodup := by
  have hRules := Rule.nodup_numbered added
  have hRoutes : (document.approvals.routes.keys.map Listing.route).Nodup :=
    h.routes.map fun _ _ hSame => Listing.route.inj hSame
  rw [List.Nodup, List.pairwise_map] at hRules
  refine List.nodup_append.mpr ⟨List.nodup_flatMap.mpr ⟨?_, ?_⟩, ?_, ?_⟩
  · rintro ⟨rule, index⟩ -
    simp
  · refine hRules.imp fun {a b} hApart listing hFirst hSecond => ?_
    simp at hFirst hSecond
    grind
  · simp [hRoutes]
  · simp
    grind

theorem mem_references_iff (r : Reference) : r ∈ document.references ↔ ∃ listing i,
    r.location = Listing.place listing i ∧ (document.listed listing)[i]? = some r.principal := by
  simp only [h.references_eq, List.mem_flatMap, mem_referencesAt_iff]
  constructor
  · rintro ⟨listing, -, i, hFound⟩
    exact ⟨listing, i, hFound⟩
  · rintro ⟨listing, i, hFound⟩
    refine ⟨listing, h.mem_listings fun hNone => ?_, i, hFound⟩
    simp [hNone] at hFound

theorem nodup_texts : (document.references.map fun r => r.location.text).Nodup := by
  rw [h.references_eq, List.map_flatMap]
  refine List.nodup_flatMap.mpr ⟨fun listing _ => ?_, ?_⟩
  · rw [Listing.texts_referencesAt]
    exact List.nodup_range.map fun _ _ hSame => (Listing.text_place_inj hSame).2
  · refine h.nodup_listings.imp fun {listing other} hNe text hFirst hSecond => hNe ?_
    dsimp only at hFirst hSecond
    rw [Listing.texts_referencesAt, List.mem_map] at hFirst hSecond
    obtain ⟨i, -, hFirst⟩ := hFirst
    obtain ⟨j, -, hSecond⟩ := hSecond
    exact (Listing.text_place_inj (hFirst.trans hSecond.symm)).1

theorem accounts : document.Accounts added :=
  ⟨h.rules, h.references_eq, h.mem_references_iff, h.nodup_texts⟩

end Document.Collects

/-- The rule that an answer tells of, if it tells that one was added. -/
def Answer.rule? : Answer → Option Rule
  | accessRule rule => some (.access rule)
  | shellRule rule => some (.shell rule)
  | _ => none

namespace Session

/-- The rules that were added, as answers tell, in their order. -/
def rulesAdded (outcomes : List (Session × Except StepError Answer)) : List Rule :=
  outcomes.filterMap fun outcome => outcome.2.toOption.bind Answer.rule?

/-- What a step does to the rules: it adds the one that its answer tells of, or nothing. -/
def Adds (session : Session) (outcome : Session × Except StepError Answer) : Prop :=
  outcome.1.rules = (rulesAdded [outcome]).foldl RuleSet.add session.rules

variable (session : Session)

theorem adds_register (kind : DeclarationKind) (name tokens : Value)
    (enter : Catalog → String → List String → Catalog × Entry) :
    session.Adds (session.register kind name tokens enter) := by
  have hRegisters := session.registers kind name tokens enter
  generalize session.register kind name tokens enter = outcome at hRegisters ⊢
  cases hRegisters <;> rfl

/-- Answers that are no rules tell of none. -/
theorem adds_of_map {α : Type} {after : Session} (hRules : after.rules = session.rules)
    (x : Except StepError α) {answer : α → Answer} (hAnswer : ∀ a, (answer a).rule? = none) :
    session.Adds (after, x.map answer) := by
  cases x with
  | ok a => simp [Adds, rulesAdded, Except.map, Except.toOption, hAnswer, hRules]
  | error fault => exact hRules

theorem adds_grantTokens (tokens : Value) (grant : List String → Approvals)
    {answer : Approvals → Answer} (hAnswer : ∀ approvals, (answer approvals).rule? = none) :
    session.Adds (session.grantTokens tokens grant answer) := by
  unfold grantTokens
  cases hFault : (tokensOf tokens).fault with
  | none => simp [Adds, rulesAdded, hFault, Except.toOption, hAnswer]
  | some fault => simp [Adds, rulesAdded, hFault, Except.toOption]

theorem adds_step (next : SessionStep) : session.Adds (session.step next) := by
  cases next with
  | registerTag name owners => exact session.adds_register .tag name owners Catalog.enterTag
  | registerGroup name members =>
      exact session.adds_register .group name members Catalog.enterGroup
  | registerHost name address =>
      dsimp only [step]
      split <;> rfl
  | declareAll tagOwners groups hosts =>
      dsimp only [step]
      cases declareMappings tagOwners groups hosts <;> rfl
  | addAccess | addShell =>
      dsimp only [step]
      split <;> rfl
  | grantExitNode tokens => exact session.adds_grantTokens tokens _ fun _ => rfl
  | grantRoute network tokens =>
      dsimp only [step]
      unfold grantRoute
      split
      · rfl
      · split
        · rfl
        · exact session.adds_grantTokens tokens _ fun _ => rfl
  | «exists» kind name => exact session.adds_of_map rfl _ fun _ => rfl
  | ownersOf tag => exact session.adds_of_map rfl _ fun _ => rfl
  | validate lint => exact session.adds_of_map rfl _ fun _ => rfl
  | requireValid =>
      dsimp only [step]
      cases session.validation true with
      | error fault => rfl
      | ok validation =>
          dsimp only
          split <;> rfl
  | serialize indent =>
      dsimp only [step]
      cases session.document with
      | none => rfl
      | some document => exact session.adds_of_map rfl _ fun _ => rfl
  | _ => rfl

/-- The rules of a session are those that its steps have added. -/
theorem rules_after (steps : List SessionStep) :
    (session.after steps).rules =
      (rulesAdded (session.run steps)).foldl RuleSet.add session.rules := by
  induction steps generalizing session with
  | nil => rfl
  | cons next rest ih =>
      have hStep := session.adds_step next
      rw [after_cons, ih, hStep, ← List.foldl_append, rulesAdded, rulesAdded,
        ← List.filterMap_append]
      rfl

/-- Whatever is done in a session, and whatever of it fails half-way, the references of the document
that is built then account for all rules that were added and for all grants. -/
theorem references_accounted (halves : Text.Halves) (steps : List SessionStep) :
    ∃ document,
      (((empty halves).after steps).step (.build true true)).1.document = some document ∧
        document.Accounts (rulesAdded ((empty halves).run steps)) := by
  let session := (empty halves).after steps
  have hRules : session.rules = .ofRules (rulesAdded ((empty halves).run steps)) :=
    (empty halves).rules_after steps
  have hRoutes : session.approvals.routes.keys.Nodup := routes_after steps
  refine ⟨.build session.catalog session.rules session.approvals session.halves, rfl, ?_⟩
  rw [hRules]
  exact (Document.Collects.build session.catalog hRoutes session.halves).accounts

end Session

end Tailnet
