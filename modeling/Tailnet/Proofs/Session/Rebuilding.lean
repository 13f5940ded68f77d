import Tailnet.Proofs.Catalog.Removal
import Tailnet.Proofs.Session.Naming

/-!
Documents that are built again without some of their declarations, but with the same rules and
grants. Whichever way a document comes about, it also comes about without them.
-/

namespace Tailnet

open Text

/-- The document on its catalog without some declarations. -/
def Document.without (document : Document) (removed : List Unused) : Document :=
  { document with catalog := document.catalog.without removed }

/-- The step of a session that makes a declaration. -/
def Declaration.step : Declaration → SessionStep
  | group key members => .registerGroup (.text key) (.texts members)
  | tag key owners => .registerTag (.text key) (.texts owners)
  | host key address => .registerHost (.text key) (.text address)

theorem Catalog.hostAddress_trim (address : String) :
    hostAddress (trim address) = hostAddress address := by
  simp only [hostAddress, AddressRange.read?_trim, trim_trim]

namespace Session

theorem register_eq_of_claim {session : Session} {kind : DeclarationKind} {key bare : String}
    {claimed : Catalog} (h : session.catalog.claim kind key = .ok (claimed, bare))
    (tokens : List String) (enter : Catalog → String → List String → Catalog × Entry) :
    (session.register kind (.text key) (.texts tokens) enter).1 =
      { session with catalog := (enter claimed bare tokens).1 } := by
  have hName : textOf (.text key) = .ok key := rfl
  unfold register
  rw [hName, allTokens_texts]
  dsimp only
  rw [h]

/-- A declaration that a catalog takes is made by its step. -/
theorem step_declaration {session : Session} {d : Declaration} {next : Catalog}
    (h : session.catalog.register d = .ok next) :
    (session.step d.step).1 = { session with catalog := next } := by
  cases d with
  | group key members =>
      obtain ⟨made, hMade, h⟩ := bind_eq_ok_iff.mp h
      obtain rfl := pure_eq_ok_iff.mp h
      obtain ⟨⟨claimed, bare⟩, hClaim, hMade⟩ := bind_eq_ok_iff.mp hMade
      obtain rfl := pure_eq_ok_iff.mp hMade
      exact register_eq_of_claim hClaim members Catalog.enterGroup
  | tag key owners =>
      obtain ⟨made, hMade, h⟩ := bind_eq_ok_iff.mp h
      obtain rfl := pure_eq_ok_iff.mp h
      obtain ⟨⟨claimed, bare⟩, hClaim, hMade⟩ := bind_eq_ok_iff.mp hMade
      obtain rfl := pure_eq_ok_iff.mp hMade
      exact register_eq_of_claim hClaim owners Catalog.enterTag
  | host key address =>
      obtain ⟨⟨made, entry⟩, hMade, h⟩ := bind_eq_ok_iff.mp h
      obtain rfl := pure_eq_ok_iff.mp h
      have hHost : declareHost session.catalog (.text key) (.text address) = .ok (made, entry) := by
        obtain ⟨read, hRead, -⟩ := bind_eq_ok_iff.mp hMade
        obtain ⟨hAddress, rfl⟩ := Catalog.hostAddress_eq_ok_iff.mp hRead
        have hAgain : session.catalog.registerHost key (trim address) = .ok (made, entry) := by
          rw [Catalog.registerHost, Catalog.hostAddress_trim]
          exact hMade
        exact bind_eq_ok_iff.mpr ⟨address, rfl, bind_eq_ok_iff.mpr
          ⟨_, mapError_eq_ok_iff.mpr hRead, bind_eq_ok_iff.mpr
            ⟨key, rfl, mapError_eq_ok_iff.mpr hAgain⟩⟩⟩
      dsimp only [Declaration.step, step]
      rw [hHost]

/-- The step of a session that claims a name for a kind and fails on the tokens. -/
def claimStep (kind : DeclarationKind) (written : String) : SessionStep :=
  match kind with
  | .group => .registerGroup (.text written) .null
  | _ => .registerTag (.text written) .null

theorem step_claimStep {session : Session} {kind : DeclarationKind} {written bare : String}
    {claimed : Catalog} (hKind : kind ≠ .host)
    (h : session.catalog.claim kind written = .ok (claimed, bare)) :
    (session.step (claimStep kind written)).1 = { session with catalog := claimed } := by
  have hName : textOf (.text written) = .ok written := rfl
  have hTokens : allTokens .null = .error .notTokens := rfl
  cases kind with
  | tag | group =>
      dsimp only [claimStep, step, register]
      rw [hName, hTokens]
      dsimp only
      rw [h]
  | host => exact absurd rfl hKind

/-- Steps that make a catalog out of an empty one and leave the rest of a session as it is. -/
def Makes (steps : List SessionStep) (catalog : Catalog) : Prop :=
  ∀ session : Session, session.catalog = .empty →
    session.after steps = { session with catalog }

/-- One more step makes what it makes of the catalog of those before it. -/
theorem Makes.append {steps : List SessionStep} {catalog last : Catalog} (h : Makes steps catalog)
    {next : SessionStep} (hStep : ∀ session : Session, session.catalog = catalog →
      (session.step next).1 = { session with catalog := last }) : Makes (steps ++ [next]) last := by
  intro session hSession
  rw [after_append, h session hSession]
  exact hStep _ rfl

/-- Whatever catalog a session has made, one can make it without some declarations: those steps are
left out that made them. -/
theorem exists_makes_without {catalog : Catalog} (h : catalog.Drafted) (removed : List Unused) :
    ∃ steps, Makes steps (catalog.without removed) := by
  induction h with
  | empty => exact ⟨[], fun session hSession => congrArg (Session.mk · _ _ _ _) hSession⟩
  | @claim catalog claimed kind written bare before hKind step ih =>
      obtain ⟨steps, hSteps⟩ := ih
      by_cases hKept : ⟨kind, bare⟩ ∉ removed
      · have hClaim := Catalog.claim_without step hKept
        refine ⟨steps ++ [claimStep kind written], hSteps.append fun session hSession => ?_⟩
        exact step_claimStep hKind (hSession ▸ hClaim)
      · rw [Catalog.without_of_claim step (not_not.mp hKept)]
        exact ⟨steps, hSteps⟩
  | @register catalog next d before step ih =>
      obtain ⟨steps, hSteps⟩ := ih
      have hStep := @Catalog.register_without catalog removed next d step
      split at hStep
      case isTrue =>
        exact ⟨_, hSteps.append fun session hSession => step_declaration (hSession ▸ hStep)⟩
      case isFalse => exact ⟨steps, hStep ▸ hSteps⟩
  | close before ih =>
      obtain ⟨steps, hSteps⟩ := ih
      refine ⟨steps ++ [.seal], hSteps.append fun session hSession => ?_⟩
      exact congrArg (fun catalog => { session with catalog := catalog.close }) hSession

end Session

/-- A document that a session has built can be built without some declarations: what is left of its
catalog is made once more before the document is built. -/
theorem Document.made_without_of_session {halves : Text.Halves} {steps : List SessionStep}
    {document : Document} (h : ((Session.empty halves).after steps).document = some document)
    (removed : List Unused) :
    (document.without removed).Made := by
  obtain ⟨before, withRules, withApprovals, rfl⟩ := Session.exists_build h
  have hDrafted := @Session.drafted_after (.empty halves) .empty before
  obtain ⟨making, hMaking⟩ := Session.exists_makes_without hDrafted removed
  refine .session halves (before ++ .newCatalog :: (making ++ [.build withRules withApprovals])) ?_
  have hHalves : ((Session.empty halves).after before).halves = halves :=
    Session.halves_after before
  rw [Session.after_append, Session.after_cons, Session.after_append, hMaking _ rfl]
  exact congrArg (fun halves => some ((Document.build _ _ _ halves).without removed)) hHalves

/-- The source without some declarations. -/
def Source.without (source : Source) (removed : List Unused) : Source :=
  { source with
    groups := source.groups.filter fun d => ⟨.group, nameOf .group d.1⟩ ∉ removed
    tagOwners := source.tagOwners.filter fun d => ⟨.tag, nameOf .tag d.1⟩ ∉ removed
    hosts := source.hosts.filter fun d => ⟨.host, nameOf .host d.1⟩ ∉ removed }

/-- What is left of the declarations of a source makes what is left of its document. -/
theorem Source.document_without {source : Source} {document : Document}
    (h : source.document = .ok document) (removed : List Unused) :
    (source.without removed).document = .ok (document.without removed) := by
  obtain ⟨catalog, hCatalog, h⟩ := bind_eq_ok_iff.mp h
  obtain ⟨approvals, hApprovals, h⟩ := bind_eq_ok_iff.mp h
  obtain rfl := pure_eq_ok_iff.mp h
  have hLeft : Catalog.ofDeclarations (source.without removed).groups
      (source.without removed).tagOwners (source.without removed).hosts =
      .ok (catalog.without removed) := by
    have hMade := mapError_eq_ok_iff.mp hCatalog
    rw [Catalog.ofDeclarations_eq_registerAll] at hMade ⊢
    rw [← Catalog.registerAll_without hMade]
    simp only [Catalog.declarationsOf, List.filter_append, List.filter_map]
    rfl
  exact bind_eq_ok_iff.mpr ⟨_, mapError_eq_ok_iff.mpr hLeft, bind_eq_ok_iff.mpr
    ⟨approvals, hApprovals, rfl⟩⟩

/-- However a document comes about, it also comes about without some of its declarations. -/
theorem Document.Made.without {document : Document} (h : document.Made) (removed : List Unused) :
    (document.without removed).Made := by
  cases h with
  | session halves steps h => exact Document.made_without_of_session h removed
  | source source h => exact .source _ (source.document_without h removed)

end Tailnet
