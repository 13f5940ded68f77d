import Mathlib.Data.List.Perm.Basic
import Tailnet.Proofs.Address.Grammar
import Tailnet.Proofs.Policy.Rendering

/-!
Grants of routes as unions over networks. A grant is recorded under its network, in whatever
spelling it was made, and only the first grant of a network and the first mention of an approver
have a place in what is built. So a grant may be repeated, and the order of the grants does not
matter to who approves what.
-/

namespace Tailnet

open Text

/-- The network into which routes are approved when a text is given. White space around the text
does not count, and of the network its first address has to be written. -/
def DenotesNetwork (written : String) (network : Network) : Prop :=
  network.IsSpelled (trim written).toList ∧ network.isCanonical = true

/-- Calls with the networks that they are about. -/
def Grants (calls : List RouteSpec) (grants : List (Network × List String)) : Prop :=
  List.Forall₂ (fun call grant => DenotesNetwork call.network grant.1 ∧ grant.2 = call.approvers)
    calls grants

section Denotation

variable {written : String} {network : Network}

theorem denotesNetwork_iff :
    DenotesNetwork written network ↔ Network.read (trim written) = .ok network := by
  rw [Network.read_eq_ok_iff, Network.readLoose?_eq_some_iff, DenotesNetwork]

theorem readNetwork_eq_ok_iff :
    Approvals.readNetwork written = .ok network ↔ DenotesNetwork written network := by
  rw [Approvals.readNetwork, mapError_eq_ok_iff, denotesNetwork_iff]

theorem DenotesNetwork.unique {n : Network} (h : DenotesNetwork written network)
    (hOther : DenotesNetwork written n) : network = n := by
  rw [denotesNetwork_iff] at h hOther
  exact Except.ok.inj (h.symm.trans hOther)

/-- Denoted networks are told apart by their texts. -/
theorem DenotesNetwork.text_eq_iff {other : String} {n : Network}
    (h : DenotesNetwork written network) (hOther : DenotesNetwork other n) :
    network.text = n.text ↔ network = n :=
  ⟨Network.eq_of_text_eq (denotesNetwork_iff.mp h) (denotesNetwork_iff.mp hOther),
    fun hEq => hEq ▸ rfl⟩

theorem grants_iff {calls : List RouteSpec} {grants : List (Network × List String)} :
    Grants calls grants ↔ calls.mapM RouteSpec.grant? = .ok grants := by
  simp only [Grants, mapM_eq_ok_iff, RouteSpec.grant?_eq_ok_iff, denotesNetwork_iff]

/-- Calls in another order are about the same networks in another order. -/
theorem Grants.perm {calls permuted : List RouteSpec} {grants : List (Network × List String)}
    (h : Grants calls grants) (hPerm : permuted.Perm calls) :
    ∃ others, Grants permuted others ∧ others.Perm grants := by
  obtain ⟨others, hOthers, hSame⟩ := List.perm_comp_forall₂ hPerm h
  exact ⟨others, hOthers, hSame⟩

end Denotation

namespace Approvals

variable {calls : List RouteSpec} {grants others : List (Network × List String)}

/-- What grants of routes amount to, given the networks that they are of. -/
structure Unites (calls : List RouteSpec) (grants : List (Network × List String))
    (approvals : Approvals) : Prop where
  /-- All calls are carried out. -/
  recorded : empty.grantRoutes calls = .ok approvals
  /-- What is built has one entry for each network, in the order of the first grants, with its
  approvers in the order of their first mentions and each of them once. -/
  built : approvals.builtRoutes = (grants.map Prod.fst).eraseDups.map fun network =>
    (network.text, (((grants.filter fun g => g.1 = network).flatMap Prod.snd).map
      trim).eraseDups.map Principal.ofToken)
  /-- An earlier grant may be made again anywhere later, in any spelling. -/
  repeated : ∀ (before after : List RouteSpec) (call again : RouteSpec) (network : Network),
    calls = before ++ after → call ∈ before → DenotesNetwork call.network network →
    DenotesNetwork again.network network → again.approvers.map trim ⊆ call.approvers.map trim →
    empty.grantRoutes (before ++ again :: after) = .ok approvals
  /-- In another order, the same networks are granted to the same approvers. -/
  permuted : ∀ permuted : List RouteSpec, permuted.Perm calls →
    ∃ other, empty.grantRoutes permuted = .ok other ∧
      other.routes.keys.Perm approvals.routes.keys ∧
      ∀ network, Option.Rel List.Perm (other.route? network) (approvals.route? network)

/-- A text is refused exactly if it denotes no network, and else its network is what the grant is
recorded under. -/
theorem grantRoute_eq_ok_iff {approvals : Approvals} {written : String} {tokens : List String}
    {recorded : Approvals × String} :
    approvals.grantRoute written tokens = .ok recorded ↔
      ∃ network, DenotesNetwork written network ∧
        recorded = (approvals.grantRouteText network.text tokens, network.text) := by
  simp only [grantRoute, bind_eq_ok_iff, readNetwork_eq_ok_iff, pure_eq_ok_iff]
  constructor
  · rintro ⟨network, hNetwork, rfl⟩
    exact ⟨network, hNetwork, rfl⟩
  · rintro ⟨network, hNetwork, rfl⟩
    exact ⟨network, hNetwork, rfl⟩

theorem grantRoutes_empty_eq_ok_iff {approvals : Approvals} :
    empty.grantRoutes calls = .ok approvals ↔
      ∃ grants, Grants calls grants ∧ approvals = granted [] grants := by
  have hEmpty : empty = granted [] [] := rfl
  simp only [hEmpty, grantRoutes_granted_eq_ok_iff, grants_iff, List.nil_append]

section Granted

variable {exitNode : List String}

/-- A grant adds nothing if its network and its approvers are already there. -/
theorem granted_append_singleton {grant : Network × List String}
    (hNetwork : grant.1.text ∈ grants.map fun g => g.1.text)
    (hApprovers : grant.2.map trim ⊆ approversOf grants grant.1.text) :
    granted exitNode (grants ++ [grant]) = granted exitNode grants := by
  have hNetworks : ((grants ++ [grant]).map fun g => g.1.text).eraseDups =
      (grants.map fun g => g.1.text).eraseDups := by
    rw [List.map_append, List.map_singleton,
      eraseDups_append_of_subset (List.cons_subset.mpr ⟨hNetwork, List.nil_subset _⟩)]
  have hBound (network : String) : (approversOf (grants ++ [grant]) network).eraseDups =
      (approversOf grants network).eraseDups := by
    have hThere : approversOf [grant] network ⊆ approversOf grants network := by
      rw [approversOf_singleton]
      split
      case isTrue hText => exact hText ▸ hApprovers
      case isFalse => exact List.nil_subset _
    rw [approversOf_append, eraseDups_append_of_subset hThere]
  simp only [granted, hNetworks, hBound]

/-- The approvers of each grant are among those of its network. -/
theorem map_trim_subset_approversOf {grant : Network × List String} (h : grant ∈ grants) :
    grant.2.map trim ⊆ approversOf grants grant.1.text := by
  intro token hToken
  rw [approversOf, List.mem_flatMap]
  exact ⟨grant, List.mem_filter.mpr ⟨h, decide_eq_true rfl⟩, hToken⟩

theorem approversOf_perm (h : grants.Perm others) (network : String) :
    (approversOf grants network).Perm (approversOf others network) :=
  (h.filter _).flatMap_right _

theorem route?_granted (network : String) :
    (granted exitNode grants).route? network =
      if network ∈ grants.map fun g => g.1.text then
        some ((approversOf grants network).eraseDups.map Principal.ofToken)
      else none := by
  rw [route?, granted]
  split
  case isTrue hIn =>
    rw [Table.get?_tabulate_of_mem (List.mem_eraseDups.mpr hIn), Option.map_some,
      Table.values_tabulate]
  case isFalse hOut =>
    rw [Table.get?_tabulate_of_notMem (by rwa [List.mem_eraseDups]), Option.map_none]

theorem keys_granted_perm (h : grants.Perm others) :
    (granted exitNode grants).routes.keys.Perm (granted exitNode others).routes.keys := by
  simp only [granted, Table.keys_tabulate]
  exact eraseDups_perm (h.map _)

/-- Whoever was granted a network is the same in any order of the grants. -/
theorem route?_granted_perm (h : grants.Perm others) (network : String) :
    Option.Rel List.Perm ((granted exitNode grants).route? network)
      ((granted exitNode others).route? network) := by
  have hIn : network ∈ (grants.map fun g => g.1.text) ↔
      network ∈ others.map fun g => g.1.text := (h.map _).mem_iff
  rw [route?_granted, route?_granted]
  by_cases hNetwork : network ∈ grants.map fun g => g.1.text
  · rw [if_pos hNetwork, if_pos (hIn.mp hNetwork)]
    exact .some ((eraseDups_perm (approversOf_perm h network)).map _)
  · rw [if_neg hNetwork, if_neg (mt hIn.mpr hNetwork)]
    exact .none

/-- Of a run of grants, the first may be made before the others. -/
theorem grantRoutes_append (approvals : Approvals) (calls more : List RouteSpec) :
    approvals.grantRoutes (calls ++ more) =
      approvals.grantRoutes calls >>= fun reached => reached.grantRoutes more :=
  List.foldlM_append

/-- What some grants of a run amount to does not change if one of them is made again. -/
theorem grantRoutes_again {call again : RouteSpec} {network : Network} (h : Grants calls grants)
    (hCall : call ∈ calls) (hNetwork : DenotesNetwork call.network network)
    (hAgain : DenotesNetwork again.network network)
    (hApprovers : again.approvers.map trim ⊆ call.approvers.map trim) :
    (granted exitNode grants).grantRoutes [again] = .ok (granted exitNode grants) := by
  obtain ⟨grant, hGrant, hRead⟩ := exists_mem_of_mapM (grants_iff.mp h) hCall
  obtain ⟨hRead, hTokens⟩ := RouteSpec.grant?_eq_ok_iff.mp hRead
  obtain rfl : network = grant.1 := hNetwork.unique (denotesNetwork_iff.mpr hRead)
  have hThere : granted exitNode (grants ++ [(grant.1, again.approvers)]) =
      granted exitNode grants := by
    rw [← hTokens] at hApprovers
    apply granted_append_singleton
    · exact List.mem_map.mpr ⟨grant, hGrant, rfl⟩
    · exact List.Subset.trans hApprovers (map_trim_subset_approversOf hGrant)
  exact grantRoutes_granted_eq_ok_iff.mpr
    ⟨[(grant.1, again.approvers)], grants_iff.mp (.cons ⟨hAgain, rfl⟩ .nil), hThere.symm⟩

end Granted

theorem unites_granted (h : Grants calls grants) : Unites calls grants (granted [] grants) where
  recorded := grantRoutes_empty_eq_ok_iff.mpr ⟨grants, h, rfl⟩
  built := by
    rw [builtRoutes_granted [] (exists_read_of_grants (grants_iff.mp h)), unitedGrants,
      List.map_map]
    rfl
  repeated := by
    rintro before after call again network rfl hIn hCall hAgain hApprovers
    have hAll := grantRoutes_empty_eq_ok_iff.mpr ⟨grants, h, rfl⟩
    rw [grantRoutes_append, bind_eq_ok_iff] at hAll
    obtain ⟨reached, hRun, hRest⟩ := hAll
    obtain ⟨first, hFirst, rfl⟩ := grantRoutes_empty_eq_ok_iff.mp hRun
    rw [grantRoutes_append, hRun, ok_bind, ← List.singleton_append, grantRoutes_append,
      grantRoutes_again hFirst hIn hCall hAgain hApprovers, ok_bind, hRest]
  permuted := by
    intro permuted hPerm
    obtain ⟨others, hOthers, hSame⟩ := h.perm hPerm
    exact ⟨granted [] others, grantRoutes_empty_eq_ok_iff.mpr ⟨others, hOthers, rfl⟩,
      keys_granted_perm hSame, route?_granted_perm hSame⟩

/-- **Grants of routes are unions over networks.** A grant is carried out exactly if its text
denotes a network, two grants are recorded under the same text exactly if they are of the same
network (that is, of the same family, first address, length and zone), and a run of grants is built
network by network, whatever is repeated and in whatever order the grants are made. -/
theorem grantRoutes_unite (h : Grants calls grants) :
    (∀ (approvals : Approvals) (written : String) (tokens : List String),
      (∃ recorded, approvals.grantRoute written tokens = .ok recorded) ↔
        ∃ network, DenotesNetwork written network) ∧
    (∀ (approvals other : Approvals) (first second : String) (tokens more : List String)
      (n m : Network), DenotesNetwork first n → DenotesNetwork second m →
      ∃ key otherKey,
        approvals.grantRoute first tokens = .ok (approvals.grantRouteText key tokens, key) ∧
        other.grantRoute second more = .ok (other.grantRouteText otherKey more, otherKey) ∧
        (key = otherKey ↔ n = m)) ∧
    ∃ approvals, Unites calls grants approvals := by
  refine ⟨?_, ?_, _, unites_granted h⟩
  · intro approvals written tokens
    constructor
    · rintro ⟨recorded, hRecorded⟩
      obtain ⟨network, hNetwork, -⟩ := grantRoute_eq_ok_iff.mp hRecorded
      exact ⟨network, hNetwork⟩
    · rintro ⟨network, hNetwork⟩
      exact ⟨_, grantRoute_eq_ok_iff.mpr ⟨network, hNetwork, rfl⟩⟩
  · intro approvals other first second tokens more n m hFirst hSecond
    exact ⟨n.text, m.text, grantRoute_eq_ok_iff.mpr ⟨n, hFirst, rfl⟩,
      grantRoute_eq_ok_iff.mpr ⟨m, hSecond, rfl⟩, hFirst.text_eq_iff hSecond⟩

/-- Grants of three networks, two of them in several spellings. -/
def respelledRoutes : List RouteSpec :=
  [ ⟨"10.0.0.0/8", ["tag:router", "tag:exit"]⟩,
    ⟨"FD00:0::/8", ["group:dev"]⟩,
    ⟨" 10.0.0.0/255.0.0.0", [" tag:exit", "group:dev"]⟩,
    ⟨"fe80::1%eth0", ["tag:router"]⟩,
    ⟨"10.0.0.0/0.255.255.255\n", ["tag:router"]⟩,
    ⟨"fd00:0:0:0:0:0:0.0.0.0/08", ["admin"]⟩ ]

/-- The grants that are meant. -/
def respelledGrants : List (Network × List String) :=
  let private4 : Network := ⟨⟨.v4, 0x0A000000, none, by decide⟩, 8, by decide⟩
  let private6 : Network :=
    ⟨⟨.v6, 0xFD000000000000000000000000000000, none, by decide⟩, 8, by decide⟩
  let link : Network :=
    ⟨⟨.v6, 0xFE800000000000000000000000000001, some "eth0", by decide⟩, 128, by decide⟩
  [ (private4, ["tag:router", "tag:exit"]), (private6, ["group:dev"]),
    (private4, [" tag:exit", "group:dev"]), (link, ["tag:router"]), (private4, ["tag:router"]),
    (private6, ["admin"]) ]

theorem grantRoutes_unite_respelledRoutes :
    Grants respelledRoutes respelledGrants ∧
      ∃ approvals, Unites respelledRoutes respelledGrants approvals ∧
        approvals.builtRoutes.map (fun route => (route.1, route.2.map Principal.raw)) =
          [ ("10.0.0.0/8", ["tag:router", "tag:exit", "group:dev"]),
            ("fd00::/8", ["group:dev", "admin"]), ("fe80::1%eth0/128", ["tag:router"]) ] := by
  have hRead : (respelledRoutes.mapM RouteSpec.grant?).toOption = some respelledGrants := by
    decide +kernel
  have hGrants : Grants respelledRoutes respelledGrants :=
    grants_iff.mpr (toOption_eq_some_iff.mp hRead)
  obtain ⟨approvals, hUnite⟩ := (grantRoutes_unite hGrants).2.2
  refine ⟨hGrants, approvals, hUnite, ?_⟩
  rw [hUnite.built]
  decide +kernel

end Approvals

end Tailnet
