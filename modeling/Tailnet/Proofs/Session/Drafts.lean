import Tailnet.Proofs.Catalog.Refusal
import Tailnet.Proofs.Session.Sharing

/-!
Catalogs and documents as sessions leave them. A catalog comes about by declarations, by claims to
which no tokens could be read, and by closing. A document is built at some point from the catalog,
the rules and the grants that the session has by then.
-/

namespace Tailnet

namespace Catalog

/-- Catalogs that come about in sessions. Only the claim to a tag or a group can be made without an
entry, since the address of a host is read before its name is claimed. -/
inductive Drafted : Catalog → Prop where
  | empty : Drafted .empty
  | claim {catalog claimed : Catalog} {kind : DeclarationKind} {written bare : String}
      (before : Drafted catalog) (hKind : kind ≠ .host)
      (step : catalog.claim kind written = .ok (claimed, bare)) : Drafted claimed
  | register {catalog next : Catalog} (d : Declaration) (before : Drafted catalog)
      (step : catalog.register d = .ok next) : Drafted next
  | close {catalog : Catalog} (before : Drafted catalog) : Drafted catalog.close

theorem drafted_of_registerAll {declarations : List Declaration} {catalog : Catalog}
    (h : registerAll declarations = .ok catalog) : catalog.Drafted :=
  invariant_of_foldlM (fun _ d _ hState hStep => .register d hState hStep) .empty h

end Catalog

namespace Session

/-- Entering tokens under the name that was claimed for a kind makes a declaration. -/
def Declares (kind : DeclarationKind) (enter : Catalog → String → List String → Catalog × Entry) :
    Prop :=
  ∀ {catalog claimed : Catalog} {written bare : String},
    catalog.claim kind written = .ok (claimed, bare) → ∀ list, ∃ d : Declaration,
      catalog.register d = .ok (enter claimed bare list).1

theorem declares_tag : Declares .tag Catalog.enterTag := fun hClaim list =>
  ⟨.tag _ list, bind_eq_ok_iff.mpr ⟨_, bind_eq_ok_iff.mpr ⟨_, hClaim, rfl⟩, rfl⟩⟩

theorem declares_group : Declares .group Catalog.enterGroup := fun hClaim list =>
  ⟨.group _ list, bind_eq_ok_iff.mpr ⟨_, bind_eq_ok_iff.mpr ⟨_, hClaim, rfl⟩, rfl⟩⟩

variable {kind : DeclarationKind} {enter : Catalog → String → List String → Catalog × Entry}

theorem drafted_enter (hEnter : Declares kind enter) {catalog claimed : Catalog}
    {written bare : String} (h : catalog.Drafted)
    (hClaim : catalog.claim kind written = .ok (claimed, bare)) (list : List String) :
    (enter claimed bare list).1.Drafted := by
  obtain ⟨d, hStep⟩ := hEnter hClaim list
  exact .register d h hStep

theorem drafted_register (hKind : kind ≠ .host) (hEnter : Declares kind enter) {session : Session}
    (h : session.catalog.Drafted) (name tokens : Value) :
    (session.register kind name tokens enter).1.catalog.Drafted := by
  have hRegisters := session.registers kind name tokens enter
  generalize session.register kind name tokens enter = outcome at hRegisters ⊢
  cases hRegisters with
  | refused => exact h
  | unread _ _ hClaim => exact .claim h hKind hClaim
  | made _ hClaim => exact drafted_enter hEnter h hClaim _

theorem drafted_declareHost {catalog : Catalog} (h : catalog.Drafted) {name address : Value}
    {result : Catalog × HostEntry} (hResult : declareHost catalog name address = .ok result) :
    result.1.Drafted := by
  obtain ⟨next, entry⟩ := result
  obtain ⟨written, read, hRegister⟩ := declareHost_eq_ok hResult
  exact .register (.host written read) h (bind_eq_ok_iff.mpr ⟨_, hRegister, rfl⟩)

/-- Each entry of a mapping claims its name and is entered. -/
theorem drafted_enterAll (hEnter : Declares kind enter) {start result : Catalog}
    (h : start.Drafted) {entries : Mapping}
    (hResult : entries.foldlM
      (fun acc entry => do
        let written ← textOf (.scalar entry.1)
        let claim ← (acc.claim kind written).mapError .catalog
        return (enter claim.1 claim.2 (← allTokens entry.2)).1) start = .ok result) :
    result.Drafted := by
  refine invariant_of_foldlM ?_ h hResult
  intro state entry next hState hStep
  obtain ⟨written, -, hStep⟩ := bind_eq_ok_iff.mp hStep
  obtain ⟨⟨claimed, bare⟩, hClaim, hStep⟩ := bind_eq_ok_iff.mp hStep
  obtain ⟨list, -, hStep⟩ := bind_eq_ok_iff.mp hStep
  cases hStep
  exact drafted_enter hEnter hState (mapError_eq_ok_iff.mp hClaim) list

/-- All declarations together are made one by one. -/
theorem drafted_declareMappings {tagOwners groups hosts : Value} {catalog : Catalog}
    (h : declareMappings tagOwners groups hosts = .ok catalog) : catalog.Drafted := by
  obtain ⟨groupEntries, -, h⟩ := bind_eq_ok_iff.mp h
  obtain ⟨withGroups, hGroups, h⟩ := bind_eq_ok_iff.mp h
  obtain ⟨tagEntries, -, h⟩ := bind_eq_ok_iff.mp h
  obtain ⟨withTags, hTags, h⟩ := bind_eq_ok_iff.mp h
  obtain ⟨hostEntries, -, hHosts⟩ := bind_eq_ok_iff.mp h
  have hWithGroups := drafted_enterAll declares_group .empty hGroups
  have hWithTags := drafted_enterAll declares_tag hWithGroups hTags
  refine invariant_of_foldlM ?_ hWithTags hHosts
  intro state entry next hState hStep
  obtain ⟨made, hMade, hStep⟩ := bind_eq_ok_iff.mp hStep
  cases hStep
  exact drafted_declareHost hState hMade

/-- Whatever a step does to a catalog, sessions can do. -/
theorem drafted_step {session : Session} (h : session.catalog.Drafted) (next : SessionStep) :
    (session.step next).1.catalog.Drafted := by
  cases next with
  | registerTag name owners => exact drafted_register (by decide) declares_tag h name owners
  | registerGroup name members => exact drafted_register (by decide) declares_group h name members
  | registerHost name address =>
      dsimp only [step]
      split
      case h_1 hHost => exact drafted_declareHost h hHost
      case h_2 => exact h
  | declareAll tagOwners groups hosts =>
      dsimp only [step]
      cases hCatalog : declareMappings tagOwners groups hosts with
      | ok catalog => exact drafted_declareMappings hCatalog
      | error fault => exact h
  | newCatalog => exact .empty
  | «seal» | build => exact .close h
  | addAccess | addShell =>
      dsimp only [step]
      split <;> exact h
  | grantRoute network tokens =>
      obtain ⟨approvals, answer, hGrant⟩ := session.exists_grantRoute network tokens
      dsimp only [step]
      rw [hGrant]
      exact h
  | _ => exact h

theorem drafted_after {session : Session} (h : session.catalog.Drafted)
    (steps : List SessionStep) : (session.after steps).catalog.Drafted := by
  induction steps generalizing session with
  | nil => exact h
  | cons next rest ih =>
      rw [after_cons]
      exact ih (drafted_step h next)

theorem halves_after {session : Session} (steps : List SessionStep) :
    (session.after steps).halves = session.halves := by
  induction steps generalizing session with
  | nil => rfl
  | cons next rest ih => rw [after_cons, ih, step_halves]

/-- A document is built at some point from what the session has by then. -/
theorem exists_build {halves : Text.Halves} {steps : List SessionStep} {document : Document}
    (h : ((empty halves).after steps).document = some document) :
    ∃ before, ∃ withRules withApprovals : Bool, let session := (empty halves).after before
      document = Document.build session.catalog (if withRules then session.rules else .empty)
        (if withApprovals then session.approvals else .empty) halves := by
  induction steps using List.reverseRecOn with
  | nil => cases h
  | append_singleton before last ih =>
      rw [after_append] at h
      by_cases hLast : ∃ withRules withApprovals, last = .build withRules withApprovals
      · obtain ⟨withRules, withApprovals, rfl⟩ := hLast
        have hBuilt := (Option.some.inj h).symm
        rw [halves_after] at hBuilt
        exact ⟨before, withRules, withApprovals, hBuilt⟩
      · have hKept : (((empty halves).after before).step last).1.document =
            ((empty halves).after before).document :=
          step_document fun withRules withApprovals hBuild =>
            hLast ⟨withRules, withApprovals, hBuild⟩
        exact ih (hKept.symm.trans h)

end Session

end Tailnet
