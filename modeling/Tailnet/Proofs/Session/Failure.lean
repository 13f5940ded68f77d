import Tailnet.Proofs.Session.Registration

/-!
What a step that fails leaves behind. Names are claimed and networks entered before the tokens are
read that belong to them, and approvers are entered one by one while they are read. So a step that
fails on its tokens may have changed the session; a step that fails on anything else has not.
-/

namespace Tailnet

open Text

namespace Approvals

theorem mem_keys_grant {approvers : Table String Principal} {tokens : List String} {name : String} :
    name ∈ (grant approvers tokens).keys ↔
      name ∈ approvers.keys ∨ ∃ token ∈ tokens, name = trim token := by
  induction tokens generalizing approvers with
  | nil => simp [grant]
  | cons token rest ih =>
      change name ∈ (grant (approvers.insertNew (Principal.read token).raw _) rest).keys ↔ _
      rw [ih, Table.mem_keys_insertNew, Principal.raw_read]
      simp [or_assoc]

/-- Granting changes nothing exactly if all tokens were granted before. -/
theorem grant_eq_self_iff {approvers : Table String Principal} {tokens : List String} :
    grant approvers tokens = approvers ↔ ∀ token ∈ tokens, trim token ∈ approvers.keys := by
  constructor
  · intro h token hToken
    rw [← h, mem_keys_grant]
    exact .inr ⟨token, hToken, rfl⟩
  · intro h
    induction tokens with
    | nil => rfl
    | cons token rest ih =>
        obtain ⟨hToken, hRest⟩ := List.forall_mem_cons.mp h
        change grant (approvers.insertNew (Principal.read token).raw _) rest = approvers
        rw [Table.insertNew_of_mem (by rwa [Principal.raw_read]), ih hRest]

/-- The same for grants of a network, which must have been entered before as well. -/
theorem grantRouteText_eq_self_iff {approvals : Approvals} {network : String}
    {tokens : List String} :
    approvals.grantRouteText network tokens = approvals ↔
      ∃ bound, approvals.routes.get? network = some bound ∧
        ∀ token ∈ tokens, trim token ∈ bound.keys := by
  have hRoutes : approvals.grantRouteText network tokens = approvals ↔
      approvals.routes.get? network =
        some (grant ((approvals.routes.get? network).getD []) tokens) := by
    rw [← Table.insert_eq_self_iff]
    exact ⟨congrArg Approvals.routes, congrArg (Approvals.mk approvals.exitNode)⟩
  rw [hRoutes]
  cases approvals.routes.get? network with
  | none => simp
  | some bound =>
      rw [Option.some.injEq, Option.getD_some, eq_comm, grant_eq_self_iff]
      simp

end Approvals

namespace Session

/-- Tokens that cannot all be read. -/
def Unreadable (tokens : Value) : Prop := ∃ fault, (tokensOf tokens).fault = some fault

/-- A name that a declaration of a kind can claim in an open catalog. -/
def Claimable (session : Session) (kind : DeclarationKind) (name : Value) : Prop :=
  session.catalog.isSealed = false ∧ ∃ written, textOf name = .ok written ∧
    Admissible (nameOf kind written) ∧ nameOf kind written ∉ session.catalog.claims.keys

/-- Tokens of which one is read that is not yet among the approvers. -/
def AddsTo (approvers : Table String Principal) (tokens : Value) : Prop :=
  ∃ token ∈ (tokensOf tokens).list, trim token ∉ approvers.keys

/-- Steps that fail on their tokens and leave something behind: the claim of a name, an approver
read before the fault, or a network. -/
def LeavesTrace (session : Session) : SessionStep → Prop
  | .registerTag name owners => Unreadable owners ∧ session.Claimable .tag name
  | .registerGroup name members => Unreadable members ∧ session.Claimable .group name
  | .grantExitNode tokens => Unreadable tokens ∧ AddsTo session.approvals.exitNode tokens
  | .grantRoute network tokens => Unreadable tokens ∧
      ∃ written found, textOf network = .ok written ∧ Approvals.readNetwork written = .ok found ∧
        ∀ bound, session.approvals.routes.get? found.text = some bound → AddsTo bound tokens
  | _ => False

variable {session : Session}

theorem unreadable_iff {tokens : Value} :
    Unreadable tokens ↔ ∃ fault, allTokens tokens = .error fault := by
  unfold Unreadable allTokens
  obtain ⟨list, fault⟩ := tokensOf tokens
  cases fault <;> simp

/-- A name can be claimed exactly if claiming it succeeds, and then the claim is one more. -/
theorem claimable_iff {kind : DeclarationKind} {name : Value} :
    session.Claimable kind name ↔
      ∃ written, textOf name = .ok written ∧
        ∃ claim, session.catalog.claim kind written = .ok claim := by
  constructor
  · rintro ⟨hOpen, written, hName, hAdmissible, hFree⟩
    exact ⟨written, hName, _, (Catalog.claim_eq_ok_iff hOpen).mpr ⟨hAdmissible, hFree, rfl⟩⟩
  · rintro ⟨written, hName, claim, hClaim⟩
    have hOpen := Catalog.isOpen_of_claim hClaim
    obtain ⟨hAdmissible, hFree, -⟩ := (Catalog.claim_eq_ok_iff hOpen).mp hClaim
    exact ⟨hOpen, written, hName, hAdmissible, hFree⟩

theorem ne_of_claim {kind : DeclarationKind} {written bare : String} {claimed : Catalog}
    (h : session.catalog.claim kind written = .ok (claimed, bare)) : claimed ≠ session.catalog := by
  obtain ⟨-, -, hClaimed⟩ := (Catalog.claim_eq_ok_iff (Catalog.isOpen_of_claim h)).mp h
  intro hSame
  have hClaims := congrArg (List.length ∘ Catalog.claims ∘ Prod.fst) hClaimed
  simp [hSame] at hClaims

/-- A registration that fails leaves its claim behind, if it has one. -/
theorem register_eq_self_iff (kind : DeclarationKind) (name tokens : Value)
    (enter : Catalog → String → List String → Catalog × Entry) {fault : StepError}
    (h : (session.register kind name tokens enter).2 = .error fault) :
    (session.register kind name tokens enter).1 = session ↔
      ¬(Unreadable tokens ∧ session.Claimable kind name) := by
  rw [unreadable_iff, claimable_iff]
  have hRegisters := session.registers kind name tokens enter
  generalize session.register kind name tokens enter = outcome at hRegisters h ⊢
  cases hRegisters with
  | refused _ hClaim =>
      refine iff_of_true rfl ?_
      rintro ⟨-, written, hName, claim, hClaimed⟩
      exact hClaim written hName claim hClaimed
  | unread fault hName hClaim hTokens =>
      refine iff_of_false (fun hSame => ne_of_claim hClaim (congrArg Session.catalog hSame)) ?_
      exact not_not_intro ⟨⟨fault, hTokens⟩, _, hName, _, hClaim⟩
  | made => cases h

/-- Granting that fails leaves the approvers behind that were read before. -/
theorem grantTokens_eq_self_iff (tokens : Value) (grant : List String → Approvals)
    (answer : Approvals → Answer) {fault : StepError}
    (h : (session.grantTokens tokens grant answer).2 = .error fault) :
    (session.grantTokens tokens grant answer).1 = session ↔
      ¬(Unreadable tokens ∧ grant (tokensOf tokens).list ≠ session.approvals) := by
  have hUnreadable : Unreadable tokens := by
    dsimp only [grantTokens] at h
    unfold Unreadable
    cases hFault : (tokensOf tokens).fault with
    | none =>
        rw [hFault] at h
        cases h
    | some fault => exact ⟨fault, rfl⟩
  have hSame : (session.grantTokens tokens grant answer).1 = session ↔
      grant (tokensOf tokens).list = session.approvals :=
    ⟨congrArg Session.approvals, congrArg (Session.mk session.catalog session.rules · _ _)⟩
  rw [hSame, not_and_not_right]
  exact ⟨fun hGrant _ => hGrant, fun hGrant => hGrant hUnreadable⟩

theorem grantExitNode_eq_self_iff (tokens : Value) {fault : StepError}
    (h : (session.step (.grantExitNode tokens)).2 = .error fault) :
    (session.step (.grantExitNode tokens)).1 = session ↔
      ¬session.LeavesTrace (.grantExitNode tokens) := by
  have hGrant : session.approvals.grantExitNode (tokensOf tokens).list = session.approvals ↔
      ∀ token ∈ (tokensOf tokens).list, trim token ∈ session.approvals.exitNode.keys := by
    rw [← Approvals.grant_eq_self_iff]
    exact ⟨congrArg Approvals.exitNode, congrArg (Approvals.mk · _)⟩
  refine (grantTokens_eq_self_iff tokens session.approvals.grantExitNode _ h).trans ?_
  rw [LeavesTrace, AddsTo, ne_eq, hGrant]
  simp

theorem grantRoute_eq_self_iff (network tokens : Value) {fault : StepError}
    (h : (session.step (.grantRoute network tokens)).2 = .error fault) :
    (session.step (.grantRoute network tokens)).1 = session ↔
      ¬session.LeavesTrace (.grantRoute network tokens) := by
  change (session.grantRoute network tokens).2 = _ at h
  change (session.grantRoute network tokens).1 = _ ↔ _
  unfold grantRoute at h ⊢
  cases hWritten : textOf network with
  | error cause => simp [LeavesTrace, hWritten]
  | ok written =>
      rw [hWritten] at h
      dsimp only at h ⊢
      cases hFound : Approvals.readNetwork written with
      | error cause => simp [LeavesTrace, hWritten, hFound]
      | ok found =>
          rw [hFound] at h
          rw [grantTokens_eq_self_iff tokens _ _ h, ne_eq, Approvals.grantRouteText_eq_self_iff]
          simp [LeavesTrace, hWritten, hFound, AddsTo]

/-- A step that fails leaves the session as it was exactly if it is none of those that leave
something behind. -/
theorem step_eq_self_iff (next : SessionStep) {fault : StepError}
    (h : (session.step next).2 = .error fault) :
    (session.step next).1 = session ↔ ¬session.LeavesTrace next := by
  cases next with
  | registerTag name owners => exact register_eq_self_iff .tag name owners Catalog.enterTag h
  | registerGroup name members =>
      exact register_eq_self_iff .group name members Catalog.enterGroup h
  | grantExitNode tokens => exact grantExitNode_eq_self_iff tokens h
  | grantRoute network tokens => exact grantRoute_eq_self_iff network tokens h
  | registerHost | addAccess | addShell =>
      refine iff_of_true ?_ not_false
      dsimp only [step] at h ⊢
      split at h
      · cases h
      · rfl
  | declareAll tagOwners groups hosts =>
      refine iff_of_true ?_ not_false
      dsimp only [step] at h ⊢
      cases hCatalog : declareMappings tagOwners groups hosts with
      | ok catalog =>
          rw [hCatalog] at h
          cases h
      | error cause => rfl
  | newCatalog | «seal» | build => cases h
  | _ => exact iff_of_true rfl not_false

/-- A step that fails leaves no trace, neither in the session nor in what any later steps answer,
exactly if it is none of those that claim a name or enter approvers before they fail. -/
theorem traceless_iff (session : Session) (next : SessionStep) {fault : StepError}
    (h : (session.step next).2 = .error fault) :
    ((session.step next).1 = session ∧
      ∀ later, (session.step next).1.run later = session.run later) ↔
        ¬session.LeavesTrace next := by
  rw [← step_eq_self_iff next h]
  exact ⟨And.left, fun hSame => ⟨hSame, fun later => by rw [hSame]⟩⟩

/-- A tag that is declared already is refused before its owners are looked at. -/
theorem traceless_duplicate :
    let session := (empty.step (.registerTag (.text "tag:web") (.texts ["admin"]))).1
    ∃ fault, (session.step (.registerTag (.text " web") .null)).2 = .error fault ∧
      ¬session.LeavesTrace (.registerTag (.text " web") .null) ∧
      (session.step (.registerTag (.text " web") .null)).1 = session ∧
      ∀ later, (session.step (.registerTag (.text " web") .null)).1.run later =
        session.run later := by
  intro session
  have hFault : (session.step (.registerTag (.text " web") .null)).2 =
      .error (.catalog (.duplicate .tag "web")) := rfl
  have hTraceless : ¬session.LeavesTrace (.registerTag (.text " web") .null) := by
    rintro ⟨-, -, written, hWritten, -, hFree⟩
    cases hWritten
    exact hFree (by decide +kernel)
  exact ⟨_, hFault, hTraceless, (traceless_iff session _ hFault).mpr hTraceless⟩

/-- A tag whose owners cannot be read is refused, but its name stays claimed: it cannot be declared
any more, and a document with a rule about it cannot be validated, though it can if the tag was
never tried. Networks are left behind as well. -/
theorem exists_trace_of_failure :
    let failed := empty.step (.registerTag (.text "tag:web") .null)
    let rule : SessionStep := .addAccess (.text "accept") (.texts ["tag:web"]) (.texts ["*:*"])
    let granted := empty.step (.grantRoute (.text "10.0.0.0/8") .null)
    failed.2 = .error .notTokens ∧ failed.1.catalog.claims = [("web", .tag)] ∧
      (failed.1.step (.registerTag (.text "tag:web") (.texts ["admin"]))).2 =
        .error (.catalog (.duplicate .tag "web")) ∧
      ((failed.1.after [rule, .build true true]).step (.validate true)).2 =
        .error (.report (Catalog.unknownTag "web")) ∧
      (∃ validation, ((empty.after [rule, .build true true]).step (.validate true)).2 =
        .ok (.validation validation)) ∧
      granted.2 = .error .notTokens ∧ granted.1.approvals.routes = [("10.0.0.0/8", [])] :=
  ⟨rfl, rfl, rfl, rfl, ⟨_, rfl⟩, rfl, rfl⟩

end Session

end Tailnet
