import Mathlib.Logic.Function.Basic
import Tailnet.Proofs.Session.Registration

/-!
Sessions whose catalogs are changed in place. A document shares the catalog it was built on with the
session, which goes on working on it; only its rules and grants are copies. A catalog is closed when
a document is built on it, and a closed catalog is never changed. So it does not matter that it is
shared: a session answers as if documents had catalogs of their own, and what is read from a
document stays the same whatever is done later.
-/

namespace Tailnet

/-- A document that shares the catalog at a place. -/
structure SharedDocument where
  place : Nat
  access : List AccessRule
  shell : List ShellRule
  approvals : Approvals
  references : List Reference
  halves : Text.Halves

/-- The document as it reads while the catalogs are the given ones. -/
def SharedDocument.read (document : SharedDocument) (catalogs : Nat → Catalog) : Document :=
  ⟨catalogs document.place, document.access, document.shell, document.approvals,
    document.references, document.halves⟩

/-- The document with the catalog at a place for its own. -/
def Document.sharing (document : Document) (place : Nat) : SharedDocument :=
  ⟨place, document.access, document.shell, document.approvals, document.references,
    document.halves⟩

theorem Document.read_sharing {document : Document} {catalogs : Nat → Catalog} {place : Nat}
    (h : catalogs place = document.catalog) : (document.sharing place).read catalogs = document :=
  congrArg (fun catalog => { document with catalog }) h

/-- A session together with all catalogs made so far, each at its place. It works on one of them. -/
structure SharedSession where
  catalogs : Nat → Catalog
  made : Nat
  current : Nat
  rules : RuleSet
  approvals : Approvals
  document : Option SharedDocument
  halves : Text.Halves
  current_lt : current < made

/-- What happens to a session: a step, or it takes up a catalog that was made before. -/
inductive SharedStep where
  | does (next : SessionStep)
  | takesUp (place : Nat)

/-- Whether a step with a given answer has put another catalog in the place of the current one. -/
def SessionStep.replacesCatalog : SessionStep → Except StepError Answer → Bool
  | newCatalog, _ | declareAll .., .ok _ => true
  | _, _ => false

attribute [ext] Session

namespace Session

/-- A registration touches nothing but the catalog. -/
theorem exists_register (session : Session) (kind : DeclarationKind) (name tokens : Value)
    (enter : Catalog → String → List String → Catalog × Entry) :
    ∃ catalog answer, session.register kind name tokens enter =
      ({ session with catalog }, answer) := by
  have hRegisters := session.registers kind name tokens enter
  generalize session.register kind name tokens enter = outcome at hRegisters ⊢
  cases hRegisters <;> exact ⟨_, _, rfl⟩

/-- A grant of a route touches nothing but the approvals. -/
theorem exists_grantRoute (session : Session) (network tokens : Value) :
    ∃ approvals answer, session.grantRoute network tokens =
      ({ session with approvals }, answer) := by
  unfold grantRoute
  split
  · exact ⟨_, _, rfl⟩
  · split <;> exact ⟨_, _, rfl⟩

variable {session : Session} {next : SessionStep}

/-- A closed catalog is replaced or stays as it is. -/
theorem step_catalog_of_not_replaced (h : session.catalog.isSealed = true)
    (hNext : next.replacesCatalog (session.step next).2 = false) :
    (session.step next).1.catalog = session.catalog := by
  cases next with
  | registerTag | registerGroup | registerHost =>
      rw [(registration_of_sealed h (by rfl)).choose_spec]
  | declareAll tagOwners groups hosts =>
      dsimp only [step] at hNext ⊢
      cases hCatalog : declareMappings tagOwners groups hosts with
      | ok catalog =>
          rw [hCatalog] at hNext
          cases hNext
      | error cause => rfl
  | newCatalog => cases hNext
  | «seal» | build => exact close_catalog_of_sealed h
  | addAccess | addShell =>
      dsimp only [step]
      split <;> rfl
  | grantRoute network tokens =>
      obtain ⟨_, _, hGrant⟩ := session.exists_grantRoute network tokens
      exact congrArg (·.1.catalog) hGrant
  | _ => rfl

theorem step_halves (session : Session) (next : SessionStep) :
    (session.step next).1.halves = session.halves := by
  cases next with
  | registerTag name owners =>
      obtain ⟨_, _, hTag⟩ := session.exists_register .tag name owners Catalog.enterTag
      exact congrArg (·.1.halves) hTag
  | registerGroup name members =>
      obtain ⟨_, _, hGroup⟩ := session.exists_register .group name members Catalog.enterGroup
      exact congrArg (·.1.halves) hGroup
  | grantRoute network tokens =>
      obtain ⟨_, _, hGrant⟩ := session.exists_grantRoute network tokens
      exact congrArg (·.1.halves) hGrant
  | declareAll tagOwners groups hosts =>
      dsimp only [step]
      cases declareMappings tagOwners groups hosts <;> rfl
  | registerHost | addAccess | addShell =>
      dsimp only [step]
      split <;> rfl
  | _ => rfl

/-- Only building makes another document. -/
theorem step_document (h : ∀ withRules withApprovals, next ≠ .build withRules withApprovals) :
    (session.step next).1.document = session.document := by
  cases next with
  | build withRules withApprovals => exact absurd rfl (h withRules withApprovals)
  | registerTag name owners =>
      obtain ⟨_, _, hTag⟩ := session.exists_register .tag name owners Catalog.enterTag
      exact congrArg (·.1.document) hTag
  | registerGroup name members =>
      obtain ⟨_, _, hGroup⟩ := session.exists_register .group name members Catalog.enterGroup
      exact congrArg (·.1.document) hGroup
  | grantRoute network tokens =>
      obtain ⟨_, _, hGrant⟩ := session.exists_grantRoute network tokens
      exact congrArg (·.1.document) hGrant
  | declareAll tagOwners groups hosts =>
      dsimp only [step]
      cases declareMappings tagOwners groups hosts <;> rfl
  | registerHost | addAccess | addShell =>
      dsimp only [step]
      split <;> rfl
  | _ => rfl

end Session

namespace SharedSession

/-- The session with nothing in it. -/
def empty (halves : Text.Halves := .usual) : SharedSession :=
  ⟨fun _ => .empty, 1, 0, .empty, .empty, none, halves, Nat.one_pos⟩

/-- The session with its catalogs looked up. -/
def view (s : SharedSession) : Session :=
  ⟨s.catalogs s.current, s.rules, s.approvals, s.document.map (·.read s.catalogs), s.halves⟩

/-- Change the current catalog in place. -/
def write (s : SharedSession) (catalog : Catalog) : SharedSession :=
  { s with catalogs := Function.update s.catalogs s.current catalog }

/-- Go on with a new catalog. -/
def allocate (s : SharedSession) (catalog : Catalog) : SharedSession :=
  { s with
    catalogs := Function.update s.catalogs s.made catalog
    made := s.made + 1
    current := s.made
    current_lt := s.made.lt_succ_self }

/-- Keep the catalog that a step has left, as a new one or in place of the current one. -/
def keep (s : SharedSession) (replaces : Bool) (catalog : Catalog) : SharedSession :=
  if replaces then s.allocate catalog else s.write catalog

/-- Go on with a catalog that was made before. -/
def takeUp (s : SharedSession) (place : Nat) : SharedSession :=
  if h : place < s.made then { s with current := place, current_lt := h } else s

/-- The document after a step. One that is built shares the current catalog. -/
def documentAfter (s : SharedSession) (built : Option Document) :
    SessionStep → Option SharedDocument
  | .build .. => built.map (·.sharing s.current)
  | _ => s.document

/-- The state after a step, and its answer. -/
def step (s : SharedSession) (next : SessionStep) : SharedSession × Except StepError Answer :=
  let (last, answer) := s.view.step next
  ({ s.keep (next.replacesCatalog answer) last.catalog with
      rules := last.rules
      approvals := last.approvals
      document := s.documentAfter last.document next },
    answer)

/-- The state after a step, or with another catalog taken up. -/
def advance (s : SharedSession) : SharedStep → SharedSession
  | .does next => (s.step next).1
  | .takesUp place => s.takeUp place

/-- The state after a sequence of steps. -/
def after (s : SharedSession) (steps : List SharedStep) : SharedSession := steps.foldl advance s

/-- The answers to a sequence of steps, with the session as it reads after each. -/
def run (s : SharedSession) : List SessionStep → List (Session × Except StepError Answer)
  | [] => []
  | next :: rest => ((s.step next).1.view, (s.step next).2) :: run (s.step next).1 rest

/-- A place holds a closed catalog. -/
structure Holds (s : SharedSession) (place : Nat) (catalog : Catalog) : Prop where
  isMade : place < s.made
  isRead : s.catalogs place = catalog
  isSealed : catalog.isSealed = true

variable {s : SharedSession} {place : Nat} {catalog : Catalog}

namespace Holds

theorem ext_catalogs {s t : SharedSession} (h : s.Holds place catalog) (hMade : s.made ≤ t.made)
    (hCatalogs : t.catalogs place = s.catalogs place) : t.Holds place catalog :=
  ⟨h.isMade.trans_le hMade, hCatalogs.trans h.isRead, h.isSealed⟩

theorem allocate (h : s.Holds place catalog) (new : Catalog) :
    (s.allocate new).Holds place catalog :=
  h.ext_catalogs s.made.le_succ (Function.update_of_ne h.isMade.ne _ _)

/-- Writing keeps what a place holds, if it writes there only what is there. -/
theorem write (h : s.Holds place catalog) {changed : Catalog}
    (hChanged : place = s.current → changed = s.catalogs s.current) :
    (s.write changed).Holds place catalog := by
  refine h.ext_catalogs le_rfl ?_
  by_cases hPlace : place = s.current
  · rw [SharedSession.write, hChanged hPlace, Function.update_eq_self]
  · exact Function.update_of_ne hPlace _ _

theorem keep (h : s.Holds place catalog) {replaces : Bool} {left : Catalog}
    (hLeft : replaces = false → place = s.current → left = s.catalogs s.current) :
    (s.keep replaces left).Holds place catalog := by
  cases replaces with
  | true => exact h.allocate left
  | false => exact h.write (hLeft rfl)

theorem step (h : s.Holds place catalog) (next : SessionStep) :
    (s.step next).1.Holds place catalog := by
  have hKept : (s.keep (next.replacesCatalog (s.view.step next).2)
      (s.view.step next).1.catalog).Holds place catalog := by
    refine h.keep fun hReplaces hPlace => Session.step_catalog_of_not_replaced ?_ hReplaces
    rw [view, ← hPlace, h.isRead, h.isSealed]
  exact ⟨hKept.isMade, hKept.isRead, hKept.isSealed⟩

theorem takeUp (h : s.Holds place catalog) (other : Nat) :
    (s.takeUp other).Holds place catalog := by
  unfold SharedSession.takeUp
  split
  · exact h.ext_catalogs le_rfl rfl
  · exact h

theorem after (h : s.Holds place catalog) (steps : List SharedStep) :
    (s.after steps).Holds place catalog := by
  induction steps generalizing s with
  | nil => exact h
  | cons next rest ih =>
      cases next with
      | does next => exact ih (h.step next)
      | takesUp other => exact ih (h.takeUp other)

/-- Whoever goes on with a closed catalog can register nothing in it. -/
theorem registration_refused (h : s.Holds place catalog) {next : SessionStep}
    (hNext : next.isRegistration = true) :
    ∃ fault, (s.takeUp place).step next = (s.takeUp place, .error fault) := by
  have hSealed : (s.takeUp place).view.catalog.isSealed = true := by
    rw [SharedSession.takeUp, dif_pos h.isMade]
    exact h.isRead ▸ h.isSealed
  obtain ⟨fault, hStep⟩ := Session.registration_of_sealed hSealed hNext
  have hDocument : (s.takeUp place).documentAfter (s.takeUp place).view.document next =
      (s.takeUp place).document := by
    cases next with
    | build => cases hNext
    | _ => rfl
  have hReplaces : next.replacesCatalog (.error fault) = false := by
    cases next with
    | newCatalog => cases hNext
    | _ => rfl
  have hWrite : (s.takeUp place).write (s.takeUp place).view.catalog = s.takeUp place :=
    congrArg (fun catalogs => { s.takeUp place with catalogs }) (Function.update_eq_self _ _)
  refine ⟨fault, ?_⟩
  unfold SharedSession.step
  rw [hStep]
  dsimp only
  rw [hReplaces, hDocument]
  exact congrArg (·, _) hWrite

end Holds

/-- A document shares a closed catalog. -/
def Sound (s : SharedSession) : Prop :=
  ∀ document, s.document = some document → ∃ catalog, s.Holds document.place catalog

/-- A document that is built is read as what was built. -/
theorem build_document (s : SharedSession) (withRules withApprovals : Bool) :
    let built := (s.step (.build withRules withApprovals)).1
    ∃ document, built.document = some document ∧
      built.Holds document.place (s.catalogs s.current).close ∧
      (s.view.step (.build withRules withApprovals)).1.document =
        some (document.read built.catalogs) := by
  have hHolds : (s.step (.build withRules withApprovals)).1.Holds s.current
      (s.catalogs s.current).close := ⟨s.current_lt, Function.update_self _ _ _, rfl⟩
  exact ⟨_, rfl, hHolds, congrArg some (Document.read_sharing hHolds.isRead).symm⟩

/-- A step builds a document on the current catalog, or keeps the document that there was. -/
theorem document_step (s : SharedSession) (next : SessionStep) :
    (∃ document catalog, (s.step next).1.document = some document ∧
      (s.step next).1.Holds document.place catalog ∧
      (s.view.step next).1.document = some (document.read (s.step next).1.catalogs)) ∨
    (s.step next).1.document = s.document ∧
      (s.view.step next).1.document = s.view.document := by
  cases next with
  | build withRules withApprovals =>
      obtain ⟨document, hBuilt⟩ := s.build_document withRules withApprovals
      exact .inl ⟨document, _, hBuilt⟩
  | _ => exact .inr ⟨rfl, Session.step_document nofun⟩

theorem Sound.step (h : s.Sound) (next : SessionStep) : (s.step next).1.Sound := by
  intro document hDocument
  rcases s.document_step next with ⟨built, catalog, hBuilt, hHolds, -⟩ | ⟨hKept, -⟩
  · obtain rfl : built = document := Option.some.inj (hBuilt.symm.trans hDocument)
    exact ⟨catalog, hHolds⟩
  · rw [hKept] at hDocument
    obtain ⟨catalog, hHolds⟩ := h document hDocument
    exact ⟨catalog, hHolds.step next⟩

theorem step_catalog (s : SharedSession) (next : SessionStep) :
    (s.step next).1.view.catalog = (s.view.step next).1.catalog := by
  have hKeep : ∀ replaces catalog, (s.keep replaces catalog).catalogs
      (s.keep replaces catalog).current = catalog := by
    intro replaces catalog
    cases replaces <;> exact Function.update_self _ _ _
  exact hKeep _ _

theorem step_halves (s : SharedSession) (next : SessionStep) :
    (s.step next).1.view.halves = (s.view.step next).1.halves := by
  have hKeep : ∀ replaces catalog, (s.keep replaces catalog).halves = s.halves := by
    intro replaces catalog
    cases replaces <;> rfl
  exact (hKeep _ _).trans (s.view.step_halves next).symm

/-- What a step does to the catalogs in their places is, for who looks them up, what it does to a
session and a document with catalogs of their own. -/
theorem view_step (h : s.Sound) (next : SessionStep) :
    (s.step next).1.view = (s.view.step next).1 := by
  have hDocument : (s.step next).1.view.document = (s.view.step next).1.document := by
    rcases s.document_step next with ⟨built, _, hBuilt, -, hRead⟩ | ⟨hKept, hViewed⟩
    · rw [hRead, view, hBuilt, Option.map_some]
    · rw [hViewed, view, view, hKept]
      cases hOld : s.document with
      | none => rfl
      | some document =>
          obtain ⟨catalog, hHolds⟩ := h document hOld
          rw [Option.map_some, Option.map_some, SharedDocument.read, SharedDocument.read,
            (hHolds.step next).isRead, hHolds.isRead]
  exact Session.ext (s.step_catalog next) rfl rfl hDocument (s.step_halves next)

/-- Sharing the catalogs makes no difference to what a session answers. -/
theorem run_eq (h : s.Sound) (steps : List SessionStep) : s.run steps = s.view.run steps := by
  induction steps generalizing s with
  | nil => rfl
  | cons next rest ih =>
      rw [run, Session.run, ih (h.step next), view_step h next]
      rfl

theorem run_empty (halves : Text.Halves) (steps : List SessionStep) :
    (empty halves).run steps = (Session.empty halves).run steps :=
  run_eq (fun _ hDocument => absurd hDocument (Option.some_ne_none _).symm) steps

/-- A document that was built is read as it was built whatever is done later: steps on the catalog
it shares, on the rules and on the approvals, further documents, other catalogs, and going back to
the catalog of the document. So it always has the same validation and the same text, and
registrations in its catalog are refused and change nothing. -/
theorem document_frozen (s : SharedSession) (withRules withApprovals : Bool) :
    let built := (s.step (.build withRules withApprovals)).1
    ∃ document, built.document = some document ∧
      (s.view.step (.build withRules withApprovals)).1.document =
        some (document.read built.catalogs) ∧
      ∀ later : List SharedStep, let last := built.after later
        (∀ lint, (document.read last.catalogs).validate lint =
          (document.read built.catalogs).validate lint) ∧
        (∀ indent, (document.read last.catalogs).serialize indent =
          (document.read built.catalogs).serialize indent) ∧
        ∀ next : SessionStep, next.isRegistration = true →
          ∃ fault, (last.takeUp document.place).step next =
            (last.takeUp document.place, .error fault) := by
  intro built
  obtain ⟨document, hDocument, hHolds, hRead⟩ := s.build_document withRules withApprovals
  refine ⟨document, hDocument, hRead, fun later => ?_⟩
  have hLast := hHolds.after later
  have hSame : document.read (built.after later).catalogs = document.read built.catalogs := by
    rw [SharedDocument.read, SharedDocument.read, hLast.isRead, hHolds.isRead]
  refine ⟨fun lint => by rw [hSame], fun indent => by rw [hSame], fun next hNext => ?_⟩
  exact hLast.registration_refused hNext

end SharedSession

end Tailnet
