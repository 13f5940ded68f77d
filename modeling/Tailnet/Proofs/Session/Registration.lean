import Tailnet.Policy.Session
import Tailnet.Proofs.Catalog.Invariant

/-!
Registrations in a session. A registration is refused and leaves all as it was, or claims its name;
then either its tokens are read and entered, or the name stays claimed without an entry. Texts are
always read, so with them a catalog goes from one consistent state to the next.
-/

namespace Tailnet

open Text

namespace Session

/-- The session after a sequence of steps. -/
def after (session : Session) (steps : List SessionStep) : Session :=
  steps.foldl (fun current next => (current.step next).1) session

theorem after_cons (session : Session) (next : SessionStep) (rest : List SessionStep) :
    session.after (next :: rest) = (session.step next).1.after rest := rfl

theorem after_append (session : Session) (steps more : List SessionStep) :
    session.after (steps ++ more) = (session.after steps).after more := List.foldl_append

/-- What a registration comes to. -/
inductive Registers (session : Session) (kind : DeclarationKind) (name tokens : Value)
    (enter : Catalog → String → List String → Catalog × Entry) :
    Session × Except StepError Answer → Prop where
  | refused (fault : StepError) (hClaim : ∀ written, textOf name = .ok written →
      ∀ claim, session.catalog.claim kind written ≠ .ok claim) :
      Registers session kind name tokens enter (session, .error fault)
  | unread {written bare : String} {claimed : Catalog} (fault : StepError)
      (hName : textOf name = .ok written)
      (hClaim : session.catalog.claim kind written = .ok (claimed, bare))
      (hTokens : allTokens tokens = .error fault) :
      Registers session kind name tokens enter
        ({ session with catalog := claimed }, .error fault)
  | made {written bare : String} {claimed : Catalog} {list : List String}
      (hName : textOf name = .ok written)
      (hClaim : session.catalog.claim kind written = .ok (claimed, bare))
      (hTokens : allTokens tokens = .ok list) :
      Registers session kind name tokens enter
        ({ session with catalog := (enter claimed bare list).1 },
          .ok (.entry kind (enter claimed bare list).2))

variable (session : Session)

theorem registers (kind : DeclarationKind) (name tokens : Value)
    (enter : Catalog → String → List String → Catalog × Entry) :
    Registers session kind name tokens enter (session.register kind name tokens enter) := by
  unfold register
  cases hName : textOf name with
  | error fault =>
      refine .refused fault fun written hWritten => ?_
      rw [hName] at hWritten
      cases hWritten
  | ok written =>
      dsimp only
      cases hClaim : session.catalog.claim kind written with
      | error cause =>
          refine .refused _ fun other hOther => ?_
          rw [hName] at hOther
          cases hOther
          rw [hClaim]
          exact nofun
      | ok claim =>
          dsimp only
          cases hTokens : allTokens tokens with
          | error fault => exact .unread fault hName hClaim hTokens
          | ok list => exact .made hName hClaim hTokens

theorem readTokens_texts (tokens : List String) :
    readTokens (tokens.map Value.text) = ⟨tokens, none⟩ := by
  induction tokens with
  | nil => rfl
  | cons token rest ih =>
      change Tokens.mk (token :: (readTokens (rest.map Value.text)).list)
        (readTokens (rest.map Value.text)).fault = _
      rw [ih]

theorem allTokens_texts (tokens : List String) : allTokens (.texts tokens) = .ok tokens := by
  have hTokens : tokensOf (.texts tokens) = ⟨tokens, none⟩ := readTokens_texts tokens
  rw [allTokens, hTokens]

/-- A host is declared as its name and address are written. -/
theorem declareHost_eq_ok {catalog next : Catalog} {name address : Value} {entry : HostEntry}
    (h : declareHost catalog name address = .ok (next, entry)) :
    ∃ written read, catalog.registerHost written read = .ok (next, entry) := by
  obtain ⟨read, -, h⟩ := bind_eq_ok_iff.mp h
  obtain ⟨checked, -, h⟩ := bind_eq_ok_iff.mp h
  obtain ⟨written, -, h⟩ := bind_eq_ok_iff.mp h
  exact ⟨written, checked, mapError_eq_ok_iff.mp h⟩

end Session

/-- Whether a step declares a tag, a group or a host. -/
def SessionStep.isRegistration : SessionStep → Bool
  | registerTag .. | registerGroup .. | registerHost .. => true
  | _ => false

/-- What is done to a catalog: registrations with texts as owners and members, and closing it. -/
inductive CatalogStep where
  | registerTag (name : Value) (owners : List String)
  | registerGroup (name : Value) (members : List String)
  | registerHost (name address : Value)
  | close

/-- The step of a session. -/
def CatalogStep.inSession : CatalogStep → SessionStep
  | registerTag name owners => .registerTag name (.texts owners)
  | registerGroup name members => .registerGroup name (.texts members)
  | registerHost name address => .registerHost name address
  | close => .seal

theorem CatalogStep.isRegistration_inSession {next : CatalogStep} (h : next ≠ .close) :
    next.inSession.isRegistration = true := by
  cases next with
  | close => exact absurd rfl h
  | _ => rfl

namespace Session

/-- A step is refused and changes nothing, or the catalog goes on to one that can be reached. -/
inductive Advances (session : Session) : Session × Except StepError Answer → Prop where
  | refused (fault : StepError) : Advances session (session, .error fault)
  | on {catalog : Catalog} (answer : Answer) (h : session.catalog.Reached → catalog.Reached) :
      Advances session ({ session with catalog }, .ok answer)

/-- With texts as tokens, a registration never stops between the claim and the entry. -/
theorem advances_register (session : Session) {kind : DeclarationKind} (name : Value)
    (tokens : List String) (enter : Catalog → String → List String → Catalog × Entry)
    (hEnter : ∀ {written claimed bare}, session.catalog.claim kind written = .ok (claimed, bare) →
      session.catalog.Reached → (enter claimed bare tokens).1.Reached) :
    session.Advances (session.register kind name (.texts tokens) enter) := by
  have hRegisters := session.registers kind name (.texts tokens) enter
  generalize session.register kind name (.texts tokens) enter = outcome at hRegisters ⊢
  cases hRegisters with
  | refused fault => exact .refused fault
  | unread fault _ _ hTokens =>
      rw [allTokens_texts] at hTokens
      cases hTokens
  | made _ hClaim hTokens =>
      rw [allTokens_texts] at hTokens
      cases hTokens
      exact .on _ (hEnter hClaim)

theorem advances_step (session : Session) (next : CatalogStep) :
    session.Advances (session.step next.inSession) := by
  cases next with
  | registerTag name owners =>
      exact session.advances_register name owners Catalog.enterTag fun hClaim hReached =>
        .tag _ owners hReached (bind_eq_ok_iff.mpr ⟨_, hClaim, rfl⟩)
  | registerGroup name members =>
      exact session.advances_register name members Catalog.enterGroup fun hClaim hReached =>
        .group _ members hReached (bind_eq_ok_iff.mpr ⟨_, hClaim, rfl⟩)
  | registerHost name address =>
      dsimp only [CatalogStep.inSession, step]
      cases hHost : declareHost session.catalog name address with
      | error fault => exact .refused fault
      | ok result =>
          obtain ⟨written, read, hRegister⟩ := declareHost_eq_ok hHost
          exact .on _ fun hReached => .host written read hReached hRegister
  | close => exact .on _ .close

/-- Whatever the steps are and whichever of them are refused, the catalog is one that can be
reached. -/
theorem reached_after {session : Session} (h : session.catalog.Reached)
    (steps : List CatalogStep) :
    (session.after (steps.map CatalogStep.inSession)).catalog.Reached := by
  induction steps generalizing session with
  | nil => exact h
  | cons next rest ih =>
      rw [List.map_cons, after_cons]
      refine ih ?_
      have hStep := session.advances_step next
      generalize session.step next.inSession = outcome at hStep ⊢
      cases hStep with
      | refused => exact h
      | on _ hReached => exact hReached h

/-- A step that is refused changes nothing. -/
theorem step_eq_self_of_error {session : Session} {next : CatalogStep} {fault : StepError}
    (h : (session.step next.inSession).2 = .error fault) :
    (session.step next.inSession).1 = session := by
  have hStep := session.advances_step next
  generalize session.step next.inSession = outcome at hStep h ⊢
  cases hStep with
  | refused => rfl
  | on => cases h

section Sealed

variable {session : Session} (h : session.catalog.isSealed = true)

include h

theorem register_of_sealed (kind : DeclarationKind) (name tokens : Value)
    (enter : Catalog → String → List String → Catalog × Entry) :
    ∃ fault, session.register kind name tokens enter = (session, .error fault) := by
  have hRegisters := session.registers kind name tokens enter
  generalize session.register kind name tokens enter = outcome at hRegisters ⊢
  cases hRegisters with
  | refused fault => exact ⟨fault, rfl⟩
  | unread _ _ hClaim => exact absurd (Catalog.isOpen_of_claim hClaim) (by simp [h])
  | made _ hClaim => exact absurd (Catalog.isOpen_of_claim hClaim) (by simp [h])

theorem declareHost_of_sealed (name address : Value) :
    ∃ fault, declareHost session.catalog name address = .error fault := by
  cases hHost : declareHost session.catalog name address with
  | error fault => exact ⟨fault, rfl⟩
  | ok result =>
      obtain ⟨written, read, hRegister⟩ := declareHost_eq_ok hHost
      obtain ⟨_, -, hRest⟩ := bind_eq_ok_iff.mp hRegister
      obtain ⟨_, hClaim, -⟩ := bind_eq_ok_iff.mp hRest
      exact absurd (Catalog.isOpen_of_claim hClaim) (by simp [h])

/-- A closed catalog refuses every registration, whatever its arguments. -/
theorem registration_of_sealed {next : SessionStep} (hNext : next.isRegistration = true) :
    ∃ fault, session.step next = (session, .error fault) := by
  cases next with
  | registerTag name owners => exact register_of_sealed h .tag name owners Catalog.enterTag
  | registerGroup name members => exact register_of_sealed h .group name members Catalog.enterGroup
  | registerHost name address =>
      obtain ⟨fault, hFault⟩ := declareHost_of_sealed h name address
      refine ⟨fault, ?_⟩
      rw [step, hFault]
  | _ => cases hNext

theorem close_catalog_of_sealed : session.catalog.close = session.catalog := by
  rw [Catalog.close, ← h]

theorem step_catalog_of_sealed (next : CatalogStep) :
    (session.step next.inSession).1 = session := by
  by_cases hClose : next = .close
  · subst hClose
    exact congrArg (Session.mk · _ _ _ _) (close_catalog_of_sealed h)
  · obtain ⟨fault, hStep⟩ := registration_of_sealed h (CatalogStep.isRegistration_inSession hClose)
    rw [hStep]

end Sealed

/-- Once it was closed, a catalog stays closed. -/
theorem isSealed_after {steps : List CatalogStep} (session : Session)
    (h : session.catalog.isSealed = true ∨ .close ∈ steps) :
    (session.after (steps.map CatalogStep.inSession)).catalog.isSealed = true := by
  induction steps generalizing session with
  | nil => exact h.resolve_right List.not_mem_nil
  | cons next rest ih =>
      rw [List.map_cons, after_cons]
      refine ih _ ?_
      by_cases hSealed : session.catalog.isSealed = true
      · rw [step_catalog_of_sealed hSealed]
        exact .inl hSealed
      · rcases List.mem_cons.mp (h.resolve_left hSealed) with rfl | hRest
        · exact .inl rfl
        · exact .inr hRest

theorem step_exists_tag_iff (session : Session) (tag : String) :
    (session.step (.exists (.text "tag") (.text tag))).2 = .ok (.truth true) ↔
      session.catalog.declares .tag tag = true := by
  change Except.ok (Answer.truth (session.catalog.declares .tag tag)) = _ ↔ _
  simp

theorem step_ownersOf_iff (session : Session) (tag : String) :
    (∃ owners, (session.step (.ownersOf (.text tag))).2 = .ok (.principals owners)) ↔
      ∃ owners, session.catalog.ownersOf? tag = some owners := by
  change (∃ owners, (sortedOwners session.catalog (.text tag)).map Answer.principals = _) ↔ _
  unfold sortedOwners
  dsimp only [Value.text]
  cases session.catalog.ownersOf? tag with
  | none => simp [Except.map]
  | some owners => simp [Except.map]

/-- Whatever registrations with texts as owners and members are made from an empty catalog, and
wherever it is closed in between, the catalog is consistent, a step that is refused changes nothing,
and after the closing all registrations are refused. So the look-ups of a tag and of its owners
agree, and a document on the catalog can be validated. -/
theorem catalog_consistent_after (session : Session) (steps : List CatalogStep) :
    let last := ({ session with catalog := .empty } : Session).after
      (steps.map CatalogStep.inSession)
    last.catalog.Consistent ∧
    (∀ next fault, (last.step (CatalogStep.inSession next)).2 = .error fault →
      (last.step next.inSession).1 = last) ∧
    (.close ∈ steps → ∀ next, (last.step (CatalogStep.inSession next)).1 = last ∧
      (next ≠ .close → ∃ fault, (last.step next.inSession).2 = .error fault)) ∧
    (∀ tag : String, (last.step (.exists (.text "tag") (.text tag))).2 = .ok (.truth true) ↔
      ∃ owners, (last.step (.ownersOf (.text tag))).2 = .ok (.principals owners)) ∧
    ∀ rules approvals lint, ∃ validation,
      (Document.build last.catalog rules approvals).validate lint = .ok validation := by
  intro last
  have hReached : last.catalog.Reached := reached_after .empty steps
  refine ⟨hReached.consistent, fun _ _ => step_eq_self_of_error, ?_, ?_,
    hReached.exists_validate⟩
  · intro hClose next
    have hSealed : last.catalog.isSealed = true := isSealed_after _ (.inr hClose)
    refine ⟨step_catalog_of_sealed hSealed next, fun hNext => ?_⟩
    obtain ⟨fault, hStep⟩ :=
      registration_of_sealed hSealed (CatalogStep.isRegistration_inSession hNext)
    exact ⟨fault, by rw [hStep]⟩
  · intro tag
    rw [step_exists_tag_iff, step_ownersOf_iff]
    exact hReached.consistent.declares_tag_iff tag

end Session

end Tailnet
