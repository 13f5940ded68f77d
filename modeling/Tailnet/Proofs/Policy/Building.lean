import Tailnet.Policy.Compilation
import Tailnet.Proofs.Catalog.Registration

/-!
Documents of sources in closed form. Rules are kept one by one in their order, grants are united
network by network, and a document exists exactly if the declarations can stand together and every
granted network can be read.
-/

namespace Tailnet

open Text

namespace RuleSet

theorem foldl_addAccess (rules : RuleSet) (more : List AccessRule) :
    more.foldl addAccess rules =
      { rules with
        access := rules.access ++ more
        references := rules.references ++
          (more.zipIdx rules.access.length).flatMap fun (rule, i) => rule.references i } := by
  induction more generalizing rules with
  | nil => simp
  | cons rule rest ih =>
      rw [List.foldl_cons, ih]
      simp [addAccess]

theorem foldl_addShell (rules : RuleSet) (more : List ShellRule) :
    more.foldl addShell rules =
      { rules with
        shell := rules.shell ++ more
        references := rules.references ++
          (more.zipIdx rules.shell.length).flatMap fun (rule, i) => rule.references i } := by
  induction more generalizing rules with
  | nil => simp
  | cons rule rest ih =>
      rw [List.foldl_cons, ih]
      simp [addShell]

end RuleSet

/-- The access rule that is declared. -/
def AccessSpec.rule (spec : AccessSpec) : AccessRule :=
  .read spec.action spec.sources spec.destinations

/-- The shell rule that is declared. -/
def ShellSpec.rule (spec : ShellSpec) : ShellRule :=
  .read spec.action spec.sources spec.destinations spec.users (.optionalText spec.checkPeriod)

namespace Source

/-- Each declared rule is kept in its place, and its principals are referred to in that order. -/
theorem ruleSet_eq (source : Source) :
    source.ruleSet =
      { access := source.acls.map AccessSpec.rule
        shell := source.ssh.map ShellSpec.rule
        references :=
          ((source.acls.map AccessSpec.rule).zipIdx.flatMap fun (rule, i) => rule.references i) ++
          (source.ssh.map ShellSpec.rule).zipIdx.flatMap fun (rule, i) => rule.references i } := by
  have hAccess := RuleSet.foldl_addAccess .empty (source.acls.map AccessSpec.rule)
  have hShell (rules : RuleSet) := RuleSet.foldl_addShell rules (source.ssh.map ShellSpec.rule)
  rw [List.foldl_map] at hAccess
  simp only [List.foldl_map] at hShell
  unfold ruleSet
  simp only [AccessSpec.rule, ShellSpec.rule] at hAccess hShell ⊢
  rw [hAccess, hShell]
  simp [RuleSet.empty]

end Source

namespace Approvals

theorem grant_tabulate (tokens more : List String) :
    grant (Table.tabulate Principal.ofToken tokens.eraseDups) more =
      Table.tabulate Principal.ofToken (tokens ++ more.map trim).eraseDups := by
  unfold grant
  simp only [Principal.read, Principal.raw_ofToken]
  exact Table.foldl_insertNew_tabulate Principal.ofToken trim tokens more

/-- The tokens of all approvers granted a network with a given text, in the order of the grants. -/
def approversOf (grants : List (Network × List String)) (network : String) : List String :=
  (grants.filter fun g => g.1.text = network).flatMap fun g => g.2.map trim

/-- The approvals of exit nodes and of the granted networks. -/
def granted (exitNode : List String) (grants : List (Network × List String)) : Approvals :=
  { exitNode := Table.tabulate Principal.ofToken (exitNode.map trim).eraseDups
    routes := Table.tabulate
      (fun network => Table.tabulate Principal.ofToken (approversOf grants network).eraseDups)
      (grants.map fun g => g.1.text).eraseDups }

theorem approversOf_append (grants more : List (Network × List String)) (network : String) :
    approversOf (grants ++ more) network =
      approversOf grants network ++ approversOf more network := by
  simp [approversOf]

theorem approversOf_eq_nil {grants : List (Network × List String)} {network : String}
    (h : network ∉ grants.map fun g => g.1.text) : approversOf grants network = [] := by
  have hNone : (grants.filter fun g => g.1.text = network) = [] := by
    rw [List.filter_eq_nil_iff]
    intro g hg hText
    exact h (List.mem_map.mpr ⟨g, hg, by simpa using hText⟩)
  rw [approversOf, hNone, List.flatMap_nil]

theorem getD_get?_routes_granted (exitNode : List String)
    (grants : List (Network × List String)) (network : String) :
    ((granted exitNode grants).routes.get? network).getD [] =
      Table.tabulate Principal.ofToken (approversOf grants network).eraseDups := by
  by_cases hIn : network ∈ grants.map fun g => g.1.text
  · rw [granted, Table.get?_tabulate_of_mem (List.mem_eraseDups.mpr hIn)]
    rfl
  · rw [granted, Table.get?_tabulate_of_notMem (by rwa [List.mem_eraseDups]),
      approversOf_eq_nil hIn]
    rfl

theorem approversOf_singleton (grant : Network × List String) (network : String) :
    approversOf [grant] network = if grant.1.text = network then grant.2.map trim else [] := by
  by_cases hText : grant.1.text = network
  · simp [approversOf, hText]
  · simp [approversOf, hText]

/-- One more grant adds its approvers to those of its network and leaves the other networks as
they are. -/
theorem grantRouteText_granted (exitNode : List String) (grants : List (Network × List String))
    (further : Network × List String) :
    (granted exitNode grants).grantRouteText further.1.text further.2 =
      granted exitNode (grants ++ [further]) := by
  have hApprovers : Function.update
      (fun network => Table.tabulate Principal.ofToken (approversOf grants network).eraseDups)
      further.1.text (Table.tabulate Principal.ofToken
        (approversOf grants further.1.text ++ further.2.map trim).eraseDups) =
      fun network =>
        Table.tabulate Principal.ofToken (approversOf (grants ++ [further]) network).eraseDups := by
    funext network
    rw [approversOf_append, approversOf_singleton]
    by_cases hText : network = further.1.text
    · subst hText
      rw [Function.update_self, if_pos rfl]
    · rw [Function.update_of_ne hText, if_neg (Ne.symm hText), List.append_nil]
  unfold grantRouteText
  dsimp only
  rw [getD_get?_routes_granted, grant_tabulate]
  simp only [granted, Table.insert_tabulate, hApprovers, List.map_append, List.map_singleton]

theorem foldl_grantRouteText (exitNode : List String) (grants more : List (Network × List String)) :
    more.foldl (fun acc g => acc.grantRouteText g.1.text g.2) (granted exitNode grants) =
      granted exitNode (grants ++ more) := by
  induction more generalizing grants with
  | nil => simp
  | cons g rest ih =>
      rw [List.foldl_cons, grantRouteText_granted, ih, List.append_assoc, List.singleton_append]

end Approvals

/-- The network of a grant, read from its text, and the approvers. -/
def RouteSpec.grant? (spec : RouteSpec) : Except RouteError (Network × List String) := do
  return (← Approvals.readNetwork spec.network, spec.approvers)

namespace Approvals

/-- Make one grant after the other. -/
def grantRoutes (approvals : Approvals) (calls : List RouteSpec) : Except RouteError Approvals :=
  calls.foldlM (fun acc call => return (← acc.grantRoute call.network call.approvers).1) approvals

/-- A run of grants succeeds exactly if each is of a network, and it adds them to those before. -/
theorem grantRoutes_granted_eq_ok_iff {exitNode : List String}
    {grants : List (Network × List String)} {calls : List RouteSpec} {approvals : Approvals} :
    (granted exitNode grants).grantRoutes calls = .ok approvals ↔
      ∃ more, calls.mapM RouteSpec.grant? = .ok more ∧
        approvals = granted exitNode (grants ++ more) := by
  have hStep : (fun (acc : Approvals) (call : RouteSpec) => do
        return (← acc.grantRoute call.network call.approvers).1) =
      fun acc call => do
        return (fun acc g => acc.grantRouteText g.1.text g.2 :
          Approvals → Network × List String → Approvals) acc (← call.grant?) := by
    funext acc call
    unfold grantRoute RouteSpec.grant?
    cases readNetwork call.network with
    | error cause => rfl
    | ok network => rfl
  unfold grantRoutes
  rw [hStep, foldlM_eq_ok_iff]
  simp only [foldl_grantRouteText]

end Approvals

namespace Source

theorem approvals_eq_ok_iff {source : Source} {approvals : Approvals} :
    source.approvals = .ok approvals ↔
      ∃ grants, source.routes.mapM RouteSpec.grant? = .ok grants ∧
        approvals = .granted source.exitNode grants := by
  have hStart : Approvals.empty.grantExitNode source.exitNode =
      .granted source.exitNode [] := by
    have hGrant := Approvals.grant_tabulate [] source.exitNode
    simp only [List.eraseDups_nil, List.nil_append] at hGrant
    exact congrArg (Approvals.mk · []) hGrant
  have hRun : source.approvals =
      (Approvals.empty.grantExitNode source.exitNode).grantRoutes source.routes := rfl
  rw [hRun, hStart]
  exact Approvals.grantRoutes_granted_eq_ok_iff

/-- A source has a document exactly if its declarations can stand together and each of its grants
is of a network. -/
theorem document_eq_ok_iff {source : Source} {document : Document} :
    source.document = .ok document ↔
      Catalog.Declarable source.groups source.tagOwners source.hosts ∧
      ∃ grants, source.routes.mapM RouteSpec.grant? = .ok grants ∧
        document = .build (.declared source.groups source.tagOwners source.hosts) source.ruleSet
          (.granted source.exitNode grants) source.halves := by
  simp only [Source.document, bind_eq_ok_iff, mapError_eq_ok_iff, pure_eq_ok_iff,
    Catalog.ofDeclarations_eq_ok_iff, approvals_eq_ok_iff]
  constructor
  · rintro ⟨-, ⟨hDeclarable, rfl⟩, -, ⟨grants, hGrants, rfl⟩, rfl⟩
    exact ⟨hDeclarable, grants, hGrants, rfl⟩
  · rintro ⟨hDeclarable, grants, hGrants, rfl⟩
    exact ⟨_, ⟨hDeclarable, rfl⟩, _, ⟨grants, hGrants, rfl⟩, rfl⟩

/-- A source is compiled to an output exactly if it has a document without violations, and the
output is the document's text. -/
theorem compile_output_iff {source : Source} {lint : Bool} {indent : Option Int}
    {compilation : Compilation} {text : String} :
    source.compile lint indent = .ok compilation ∧ compilation.output = some text ↔
      ∃ document, source.document = .ok document ∧ document.violations = .ok [] ∧
        document.serialize indent = .ok text ∧
        compilation = ⟨source.name, document, ⟨[], if lint then document.unused else []⟩,
          some text⟩ := by
  have hValid (warnings : List Unused) : (Validation.mk [] warnings).isValid = true := rfl
  simp only [compile, Document.validate, bind_eq_ok_iff, mapError_eq_ok_iff, pure_eq_ok_iff]
  constructor
  · rintro ⟨⟨document, hDocument, -, ⟨violations, hViolations, rfl⟩, hRest⟩, hOutput⟩
    cases violations with
    | nil =>
        rw [if_pos (hValid _)] at hRest
        obtain ⟨written, hWritten, hResult⟩ := bind_eq_ok_iff.mp hRest
        cases hResult
        cases hOutput
        exact ⟨document, hDocument, hViolations, mapError_eq_ok_iff.mp hWritten, rfl⟩
    | cons violation rest =>
        have hInvalid (warnings : List Unused) :
            ¬ (Validation.mk (violation :: rest) warnings).isValid = true := Bool.false_ne_true
        rw [if_neg (hInvalid _)] at hRest
        cases hRest
        cases hOutput
  · rintro ⟨document, hDocument, hViolations, hText, rfl⟩
    refine ⟨⟨document, hDocument, _, ⟨[], hViolations, rfl⟩, ?_⟩, rfl⟩
    rw [if_pos (hValid _)]
    exact bind_eq_ok_iff.mpr ⟨text, mapError_eq_ok_iff.mpr hText, rfl⟩

end Source

/-- The options of a tailnet of which nothing is said. -/
def usualOptions : TailnetOptions := {}

/-- A source that uses every section of a policy. -/
def officeSource : Source where
  name := "office"
  groups := [("group:dev", ["alice@example.com", " bob@example.com", "alice@example.com "])]
  tagOwners := [("server", ["group:dev"]), ("tag:router", ["admin", "tag:server"])]
  hosts := [("database", "10.0.0.7")]
  acls := [⟨"accept", ["group:dev", "autogroup:member"], ["tag:server:22,443", "database:5432"]⟩]
  ssh := [⟨"check", ["group:dev"], ["tag:server"], ["root"], some "12h"⟩]
  exitNode := ["tag:router"]
  routes := [⟨"10.0.0.0/8", ["tag:router"]⟩, ⟨"FD00:0::/8", ["group:dev"]⟩,
    ⟨"10.0.0.0/255.0.0.0", ["group:dev"]⟩]
  tailnet := usualOptions

theorem exists_output_officeSource :
    ∃ compilation text, officeSource.compile true (some 2) = .ok compilation ∧
      compilation.output = some text := by
  obtain ⟨compilation, hCompile, hOutput⟩ :=
    exists_ok_of_check (officeSource.compile true (some 2)) (·.output.isSome) (by decide +kernel)
  obtain ⟨text, hText⟩ := Option.isSome_iff_exists.mp hOutput
  exact ⟨compilation, text, hCompile, hText⟩

end Tailnet
