import Tailnet.Proofs.Policy.Locality
import Tailnet.Proofs.Session.Naming

/-!
Positions in documents. References note the position of their rule when it is added. However a
document comes about, the rule is at that position in it, and its destinations are still those that
were read from their tokens.
-/

namespace Tailnet

/-- The destinations of a rule that have ports. -/
def Rule.destinations : Rule → List Destination
  | access rule => rule.destinations
  | shell _ => []

/-- Rules whose references are those of a rule at its position, and whose destinations are those of
their own tokens. -/
structure RuleSet.Placed (rules : RuleSet) : Prop where
  references : ∀ r ∈ rules.references, ∃ (kind : RuleKind) (index : Nat) (rule : Rule),
    (rules.ofKind kind)[index]? = some rule ∧ r ∈ rule.references index
  read : ∀ kind, ∀ rule ∈ rules.ofKind kind, ∀ d ∈ rule.destinations, Destination.read d.raw = d

namespace RuleSet.Placed

theorem empty : RuleSet.empty.Placed where
  references := List.forall_mem_nil _
  read := by
    rintro (_ | _) rule ⟨⟩

/-- A rule that is added gets the next position, which its references tell. -/
theorem add {rules : RuleSet} (h : rules.Placed) (rule : Rule)
    (hRead : ∀ d ∈ rule.destinations, Destination.read d.raw = d) : (rules.add rule).Placed := by
  constructor
  · intro r hr
    rw [references_add, List.mem_append] at hr
    rcases hr with hOld | hNew
    · obtain ⟨kind, index, old, hOld, hIn⟩ := h.references r hOld
      refine ⟨kind, index, old, ?_, hIn⟩
      rw [ofKind_add, List.getElem?_append_left (List.getElem?_eq_some_iff.mp hOld).1, hOld]
    · refine ⟨rule.kind, _, rule, ?_, hNew⟩
      rw [ofKind_add, if_pos rfl, List.getElem?_concat_length]
  · intro kind other hOther
    rw [ofKind_add, List.mem_append] at hOther
    rcases hOther with hOld | hNew
    · exact h.read kind other hOld
    · split at hNew
      · exact List.mem_singleton.mp hNew ▸ hRead
      · cases hNew

end RuleSet.Placed

theorem AccessRule.read_raw_of_mem {action : String} {sources destinations : List String} :
    ∀ d ∈ (read action sources destinations).destinations, Destination.read d.raw = d := by
  intro d hd
  obtain ⟨token, -, rfl⟩ := List.mem_map.mp hd
  rw [Destination.raw_read, Destination.read_trim]

/-- The rules of a source are added one by one. -/
theorem Source.placed_ruleSet (source : Source) : source.ruleSet.Placed := by
  rw [ruleSet]
  have hAccess := List.foldlRecOn source.acls _ RuleSet.Placed.empty fun rules hRules spec _ =>
    hRules.add (.access (.read spec.action spec.sources spec.destinations))
      AccessRule.read_raw_of_mem
  exact List.foldlRecOn source.ssh _ hAccess fun rules hRules spec _ =>
    hRules.add (.shell _) (List.forall_mem_nil _)

/-- Documents made of placed rules. -/
def Document.Placed (document : Document) : Prop :=
  ∃ catalog rules approvals halves,
    rules.Placed ∧ document = .build catalog rules approvals halves

/-- Sessions in which the rules are placed, those collected and those of the document. -/
structure Session.Placed (session : Session) : Prop where
  rules : session.rules.Placed
  document : ∀ document, session.document = some document → document.Placed

namespace Session.Placed

theorem empty (halves : Text.Halves) : (Session.empty halves).Placed where
  rules := .empty
  document := nofun

variable {session : Session}

/-- A step adds a rule that was just read, builds a document from the rules, or leaves both
alone. -/
theorem step (h : session.Placed) (next : SessionStep) : (session.step next).1.Placed := by
  cases next with
  | addAccess action sources destinations =>
      dsimp only [Session.step]
      split
      case h_1 rule hRule =>
        simp only [readAccess, bind_eq_ok_iff, pure_eq_ok_iff] at hRule
        obtain ⟨written, -, senders, -, receivers, -, rfl⟩ := hRule
        exact ⟨h.rules.add (.access _) AccessRule.read_raw_of_mem, h.document⟩
      case h_2 => exact h
  | addShell action sources destinations users checkPeriod =>
      dsimp only [Session.step]
      split
      case h_1 rule hRule => exact ⟨h.rules.add (.shell rule) (List.forall_mem_nil _), h.document⟩
      case h_2 => exact h
  | build withRules withApprovals =>
      refine ⟨h.rules, fun document hDocument => ?_⟩
      obtain rfl := Option.some.inj hDocument
      refine ⟨session.catalog, _, _, _, ?_, rfl⟩
      cases withRules with
      | true => exact h.rules
      | false => exact .empty
  | registerTag name owners =>
      obtain ⟨_, _, hTag⟩ := session.exists_register .tag name owners Catalog.enterTag
      rw [Session.step, hTag]
      exact ⟨h.rules, h.document⟩
  | registerGroup name members =>
      obtain ⟨_, _, hGroup⟩ := session.exists_register .group name members Catalog.enterGroup
      rw [Session.step, hGroup]
      exact ⟨h.rules, h.document⟩
  | grantRoute network tokens =>
      obtain ⟨_, _, hGrant⟩ := session.exists_grantRoute network tokens
      rw [Session.step, hGrant]
      exact ⟨h.rules, h.document⟩
  | registerHost name address =>
      dsimp only [Session.step]
      split
      case h_1 => exact ⟨h.rules, h.document⟩
      case h_2 => exact h
  | declareAll tagOwners groups hosts =>
      dsimp only [Session.step]
      cases declareMappings tagOwners groups hosts with
      | ok catalog => exact ⟨h.rules, h.document⟩
      | error fault => exact h
  | _ => exact ⟨h.rules, h.document⟩

theorem after (h : session.Placed) (steps : List SessionStep) : (session.after steps).Placed := by
  induction steps generalizing session with
  | nil => exact h
  | cons next rest ih =>
      rw [after_cons]
      exact ih (h.step next)

end Session.Placed

/-- However a document comes about, its references tell the positions of their rules. -/
theorem Document.Made.placed {document : Document} (h : document.Made) : document.Placed := by
  cases h with
  | session halves steps h => exact ((Session.Placed.empty halves).after steps).document document h
  | source source h =>
      obtain ⟨catalog, -, h⟩ := bind_eq_ok_iff.mp h
      obtain ⟨approvals, -, h⟩ := bind_eq_ok_iff.mp h
      cases h
      exact ⟨catalog, source.ruleSet, approvals, source.halves, source.placed_ruleSet, rfl⟩

end Tailnet
