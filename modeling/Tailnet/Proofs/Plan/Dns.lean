import Tailnet.Plan.Dns
import Tailnet.Proofs.Address.Grammar
import Tailnet.Proofs.Success

/-!
Which name service options can be planned, and what the plan holds. Every server must have the form
of an address, but a network passes for one too: the servers are read as addresses of hosts and
destinations are, and these may be networks.
-/

namespace Tailnet

open Text

/-- Whether a text spells an address of either family. White space around it does not count. -/
def IsAddress (s : String) : Prop := ∃ address : Address, address.IsSpelled (trim s).toList

/-- Whether a text spells a network with its length behind a slash. -/
def IsPrefix (s : String) : Prop :=
  '/' ∈ (trim s).toList ∧ ∃ network : Network, network.IsSpelled (trim s).toList

theorem IsAddress.not_isPrefix {s : String} (h : IsAddress s) : ¬ IsPrefix s := by
  obtain ⟨address, hSpelled⟩ := h
  exact fun hPrefix => hSpelled.slash_notMem hPrefix.1

theorem AddressRange.isSome_read?_iff {s : String} :
    (read? s).isSome = true ↔ IsAddress s ∨ IsPrefix s := by
  have hMentions : mentions '/' (trim s) = true ↔ '/' ∈ (trim s).toList := List.contains_iff_mem
  by_cases hSlash : '/' ∈ (trim s).toList
  · rw [read?, if_pos (hMentions.mpr hSlash), Option.isSome_map, Option.isSome_iff_exists]
    simp only [Network.readLoose?_eq_some_iff]
    constructor
    · exact fun h => .inr ⟨hSlash, h⟩
    · rintro (⟨address, hSpelled⟩ | ⟨-, h⟩)
      · exact absurd hSlash hSpelled.slash_notMem
      · exact h
  · rw [read?, if_neg (mt hMentions.mp hSlash), Option.isSome_map, Option.isSome_iff_exists]
    simp only [Address.read?_eq_some_iff hSlash]
    exact ⟨.inl, fun h => h.resolve_right fun hPrefix => hSlash hPrefix.1⟩

section Checks

theorem checkServers_eq_ok_iff {location : Path} {servers : List String} :
    checkServers location servers = .ok () ↔
      ∀ server ∈ servers, IsAddress server ∨ IsPrefix server := by
  simp only [← AddressRange.isSome_read?_iff]
  rw [checkServers]
  split
  case h_1 server hFound =>
    refine iff_of_false nofun fun hAll => ?_
    have hNone := List.find?_some hFound
    rw [Option.isNone_iff_eq_none] at hNone
    have hSome := hAll server (List.mem_of_find?_eq_some hFound)
    rw [hNone] at hSome
    cases hSome
  case h_2 hNone =>
    refine iff_of_true rfl fun server hServer => ?_
    have hSome := List.find?_eq_none.mp hNone server hServer
    rwa [Option.isNone_iff_eq_none, ← Ne, ← Option.isSome_iff_ne_none] at hSome

theorem checkDomain_eq_ok_iff {domain : String} {servers : List String} :
    checkDomain domain servers = .ok () ↔
      trim domain ≠ "" ∧ servers ≠ [] ∧ ∀ server ∈ servers, IsAddress server ∨ IsPrefix server := by
  rw [checkDomain]
  split
  case isTrue hBlank => exact iff_of_false nofun fun h => h.1 hBlank
  case isFalse hDomain =>
    split
    case isTrue hEmpty => exact iff_of_false nofun fun h => h.2.1 (List.isEmpty_iff.mp hEmpty)
    case isFalse hServed =>
      rw [checkServers_eq_ok_iff, and_iff_right hDomain,
        and_iff_right (mt List.isEmpty_iff.mpr hServed)]

/-- A loop of checks goes through exactly if each of them does. -/
theorem forIn_eq_ok_iff {α ε : Type} {check : α → Except ε Unit} {items : List α} :
    (forIn items PUnit.unit fun item _ => do
      check item
      pure (ForInStep.yield PUnit.unit)) = Except.ok PUnit.unit ↔
      ∀ item ∈ items, check item = .ok () := by
  induction items with
  | nil => exact iff_of_true rfl (List.forall_mem_nil _)
  | cons item rest ih =>
      rw [List.forIn_cons, List.forall_mem_cons]
      cases hCheck : check item with
      | error cause => exact iff_of_false nofun fun h => nomatch h.1
      | ok => exact ih.trans (and_iff_right rfl).symm

end Checks

/-- What makes name service options fit for a plan, if the servers are. -/
structure DnsOptions.Admissible (options : DnsOptions) (fits : String → Prop) : Prop where
  nameservers : ∀ server ∈ options.nameservers, fits server
  splitServers : ∀ entry ∈ options.splitDns, ∀ server ∈ entry.2, fits server
  domains : ∀ entry ∈ options.splitDns, trim entry.1 ≠ ""
  served : ∀ entry ∈ options.splitDns, entry.2 ≠ []

/-- The changes that options ask for: the preference and, in this order, those of which there is
something to set, each with all values of its option. -/
structure DnsOptions.Carries (options : DnsOptions) (changes : List DnsChange) : Prop where
  order : (changes.map DnsChange.kind).Sublist
    ["preferences", "search_paths", "nameservers", "split_dns"]
  preferences : ∀ magicDns, .preferences magicDns ∈ changes ↔ magicDns = options.magicDns
  searchPaths : ∀ paths, .searchPaths paths ∈ changes ↔ paths = options.searchPaths ∧ paths ≠ []
  nameservers : ∀ servers, .nameservers servers ∈ changes ↔
    servers = options.nameservers ∧ servers ≠ []
  splitDns : ∀ routes, .splitDns routes ∈ changes ↔ routes = options.splitDns ∧ routes ≠ []

namespace DnsOptions

variable {options : DnsOptions}

/-- Options ask for one list of changes only. -/
theorem Carries.unique {changes others : List DnsChange} (h : options.Carries changes)
    (hOthers : options.Carries others) : changes = others := by
  let rank (kind : String) : Nat :=
    ["preferences", "search_paths", "nameservers", "split_dns"].idxOf kind
  have hRanks : ["preferences", "search_paths", "nameservers", "split_dns"].Pairwise fun a b =>
      rank a < rank b := by decide
  have hRanked {changes : List DnsChange} (h : options.Carries changes) :
      changes.Pairwise fun a b => rank a.kind < rank b.kind := by
    have hKinds := hRanks.sublist h.order
    rwa [List.pairwise_map] at hKinds
  have hNodup {changes : List DnsChange} (h : options.Carries changes) : changes.Nodup :=
    (hRanked h).imp fun hLess hEq => absurd (hEq ▸ hLess) (Nat.lt_irrefl _)
  have hSame (change : DnsChange) : change ∈ changes ↔ change ∈ others := by
    cases change with
    | preferences magicDns => rw [h.preferences, hOthers.preferences]
    | searchPaths paths => rw [h.searchPaths, hOthers.searchPaths]
    | nameservers servers => rw [h.nameservers, hOthers.nameservers]
    | splitDns routes => rw [h.splitDns, hOthers.splitDns]
  have hPerm := (List.perm_ext_iff_of_nodup (hNodup h) (hNodup hOthers)).mpr hSame
  exact hPerm.eq_of_pairwise (fun _ _ _ _ hLess hMore => absurd (Nat.lt_trans hLess hMore)
    (Nat.lt_irrefl _)) (hRanked h) (hRanked hOthers)

/-- The changes in the order in which they are planned. -/
def changes (options : DnsOptions) : List DnsChange :=
  .preferences options.magicDns ::
    (if options.searchPaths.isEmpty then [] else [.searchPaths options.searchPaths]) ++
    (if options.nameservers.isEmpty then [] else [.nameservers options.nameservers]) ++
    (if options.splitDns.isEmpty then [] else [.splitDns options.splitDns])

theorem carries_changes (options : DnsOptions) : options.Carries options.changes := by
  have hPart (nothing : Bool) (change : DnsChange) :
      ((if nothing then [] else [change]).map DnsChange.kind).Sublist [change.kind] := by
    cases nothing
    · exact List.Sublist.refl _
    · exact List.nil_sublist _
  have hSet {α : Type} (asked given : List α) : ¬ given = [] ∧ asked = given ↔
      asked = given ∧ asked ≠ [] := by
    rw [and_comm]
    exact and_congr_right fun hSame => by rw [hSame]
  refine ⟨?_, fun _ => ?_, fun paths => ?_, fun servers => ?_, fun routes => ?_⟩
  · simp only [changes, List.map_append, List.map_cons, List.cons_append]
    exact ((((hPart _ _).append (hPart _ _)).append (hPart _ _)).cons_cons "preferences")
  · simp [changes]
  · simpa [changes] using hSet paths options.searchPaths
  · simpa [changes] using hSet servers options.nameservers
  · simpa [changes] using hSet routes options.splitDns

theorem plan_eq_ok_iff_changes {changes : List DnsChange} :
    options.plan = .ok changes ↔
      (options.Admissible fun s => IsAddress s ∨ IsPrefix s) ∧ options.changes = changes := by
  have hPlan : options.plan =
      (do
        checkServers [.field "tailnet", .field "dns", .field "nameservers"] options.nameservers
        forIn options.splitDns PUnit.unit fun entry _ => do
          checkDomain entry.1 entry.2
          pure (ForInStep.yield PUnit.unit)
        pure options.changes) := rfl
  rw [hPlan]
  simp only [bind_eq_ok_iff, pure_eq_ok_iff]
  constructor
  · rintro ⟨⟨⟩, hServers, ⟨⟩, hDomains, rfl⟩
    have hAll := forIn_eq_ok_iff.mp hDomains
    simp only [checkDomain_eq_ok_iff] at hAll
    exact ⟨⟨checkServers_eq_ok_iff.mp hServers, fun entry hEntry => (hAll entry hEntry).2.2,
      fun entry hEntry => (hAll entry hEntry).1, fun entry hEntry => (hAll entry hEntry).2.1⟩, rfl⟩
  · rintro ⟨h, rfl⟩
    refine ⟨(), checkServers_eq_ok_iff.mpr h.nameservers, (), ?_, rfl⟩
    refine forIn_eq_ok_iff.mpr fun entry hEntry => checkDomain_eq_ok_iff.mpr ?_
    exact ⟨h.domains entry hEntry, h.served entry hEntry, h.splitServers entry hEntry⟩

/-- All servers that options name. -/
def servers (options : DnsOptions) : List String :=
  options.nameservers ++ options.splitDns.flatMap Prod.snd

theorem admissible_iff {fits : String → Prop} :
    options.Admissible fits ↔
      (∀ server ∈ options.servers, fits server) ∧
        ∀ entry ∈ options.splitDns, trim entry.1 ≠ "" ∧ entry.2 ≠ [] := by
  simp only [servers, List.forall_mem_append, List.forall_mem_flatMap]
  constructor
  · intro h
    exact ⟨⟨h.nameservers, h.splitServers⟩, fun entry hEntry =>
      ⟨h.domains entry hEntry, h.served entry hEntry⟩⟩
  · rintro ⟨⟨hNameservers, hSplit⟩, hDomains⟩
    exact ⟨hNameservers, hSplit, fun entry hEntry => (hDomains entry hEntry).1,
      fun entry hEntry => (hDomains entry hEntry).2⟩

/-- **Name service options are planned exactly if they are admissible, and to the changes that they
ask for.** Servers may be networks; they are all addresses exactly if, moreover, none of them is
a network. -/
theorem plan_admits (options : DnsOptions) :
    ((∃ changes, options.plan = .ok changes) ↔
      options.Admissible fun server => IsAddress server ∨ IsPrefix server) ∧
    (∀ changes, options.plan = .ok changes ↔
      (options.Admissible fun server => IsAddress server ∨ IsPrefix server) ∧
        options.Carries changes) ∧
    (options.Admissible IsAddress ↔
      (∃ changes, options.plan = .ok changes) ∧ ∀ server ∈ options.servers, ¬ IsPrefix server) := by
  have hCarries (changes : List DnsChange) :
      options.Carries changes ↔ options.changes = changes :=
    ⟨options.carries_changes.unique, fun hSame => hSame ▸ options.carries_changes⟩
  have hPlanned : (∃ changes, options.plan = .ok changes) ↔
      options.Admissible fun server => IsAddress server ∨ IsPrefix server := by
    simp only [plan_eq_ok_iff_changes]
    exact ⟨fun ⟨_, h, _⟩ => h, fun h => ⟨_, h, rfl⟩⟩
  refine ⟨hPlanned, fun changes => ?_, ?_⟩
  · rw [plan_eq_ok_iff_changes, hCarries]
  · rw [hPlanned, admissible_iff, admissible_iff]
    constructor
    · rintro ⟨hServers, hDomains⟩
      exact ⟨⟨fun server hServer => .inl (hServers server hServer), hDomains⟩,
        fun server hServer => (hServers server hServer).not_isPrefix⟩
    · rintro ⟨⟨hServers, hDomains⟩, hNone⟩
      exact ⟨fun server hServer => (hServers server hServer).resolve_right (hNone server hServer),
        hDomains⟩

/-- A network of sixteen million addresses is planned as a server. -/
theorem exists_prefix_planned :
    ∃ (options : DnsOptions) (changes : List DnsChange), options.plan = .ok changes ∧
      .nameservers ["10.0.0.0/8"] ∈ changes ∧ ¬ options.Admissible IsAddress := by
  refine ⟨{ nameservers := ["10.0.0.0/8"] },
    [.preferences true, .nameservers ["10.0.0.0/8"]], by rfl, by simp, fun h => ?_⟩
  obtain ⟨address, hSpelled⟩ := h.nameservers "10.0.0.0/8" (List.mem_singleton_self _)
  exact hSpelled.slash_notMem (by decide)

end DnsOptions

end Tailnet
