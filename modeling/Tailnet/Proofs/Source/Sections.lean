import Tailnet.Proofs.Success
import Tailnet.Source.Reader

/-!
Sources by their sections. Data is read as a source exactly if each of its sections is, and every
part of the source comes from one section alone.
-/

namespace Tailnet.Source

/-- The name in data, or else the given one. -/
def nameIn (data : Mapping) (name : String) : Except SourceError String :=
  match field? data "name" with
  | some value => if value.isTruthy then textOf value else pure name
  | none => pure name

/-- The rules of a section, each read with its position. -/
def rulesIn {α : Type} (data : Mapping) (name : String)
    (read : Value → Nat → Except SourceError α) : Except SourceError (List α) := do
  (← items data name).zipIdx.mapM fun (rule, i) => read rule i

/-- The approvers of exit nodes. -/
def exitNodeIn (data : Mapping) : Except SourceError (List String) := do
  texts "autoApprovers.exitNode" (field? (← mapping data "autoApprovers") "exitNode")

/-- The grants of networks. -/
def routesIn (data : Mapping) : Except SourceError (List RouteSpec) := do
  routeSpecs (field? (← mapping data "autoApprovers") "routes")

/-- A source each of whose parts is read from its section. -/
structure ReadFrom (data : Mapping) (name : String) (environment : Option String)
    (halves : Text.Halves) (source : Source) : Prop where
  name : nameIn data name = .ok source.name
  named : source.name ≠ ""
  groups : mapping data "groups" >>= textLists "groups" = .ok source.groups
  tagOwners : mapping data "tagOwners" >>= textLists "tagOwners" = .ok source.tagOwners
  hosts : mapping data "hosts" >>= textTable = .ok source.hosts
  acls : rulesIn data "acls" accessSpec = .ok source.acls
  ssh : rulesIn data "ssh" shellSpec = .ok source.ssh
  exitNode : exitNodeIn data = .ok source.exitNode
  routes : routesIn data = .ok source.routes
  tailnet : mapping data "tailnet" >>= tailnetOptions = .ok source.tailnet
  environment : source.environment = environment
  halves : source.halves = halves

variable {data : Mapping} {name : String} {environment : Option String} {halves : Text.Halves}
  {source : Source}

theorem read_eq (data : Mapping) (name : String) (environment : Option String)
    (halves : Text.Halves) :
    read data name environment halves = (do
      let approvers ← mapping data "autoApprovers"
      let name ← nameIn data name
      let groups ← mapping data "groups" >>= textLists "groups"
      let tagOwners ← mapping data "tagOwners" >>= textLists "tagOwners"
      let hosts ← mapping data "hosts" >>= textTable
      let acls ← rulesIn data "acls" accessSpec
      let ssh ← rulesIn data "ssh" shellSpec
      let exitNode ← texts "autoApprovers.exitNode" (field? approvers "exitNode")
      let routes ← routeSpecs (field? approvers "routes")
      let tailnet ← mapping data "tailnet" >>= tailnetOptions
      if name = "" then throw .nameMissing
      return {
        name, groups, tagOwners, hosts, acls, ssh, exitNode, routes, tailnet, environment,
        halves }) := by
  unfold read nameIn rulesIn
  simp only [bind_assoc]
  congr 1
  funext approvers
  cases field? data "name" with
  | none => rfl
  | some value =>
      by_cases hTruthy : value.isTruthy = true
      · simp only [if_pos hTruthy]
      · simp only [if_neg hTruthy]

/-- Data is read as a source exactly if each part of the source is read from its section. -/
theorem read_eq_ok_iff :
    read data name environment halves = .ok source ↔
      ReadFrom data name environment halves source := by
  rw [read_eq]
  constructor
  · intro h
    obtain ⟨approvers, hApprovers, h⟩ := bind_eq_ok_iff.mp h
    obtain ⟨named, hName, h⟩ := bind_eq_ok_iff.mp h
    obtain ⟨groups, hGroups, h⟩ := bind_eq_ok_iff.mp h
    obtain ⟨tagOwners, hOwners, h⟩ := bind_eq_ok_iff.mp h
    obtain ⟨hosts, hHosts, h⟩ := bind_eq_ok_iff.mp h
    obtain ⟨acls, hAcls, h⟩ := bind_eq_ok_iff.mp h
    obtain ⟨ssh, hSsh, h⟩ := bind_eq_ok_iff.mp h
    obtain ⟨exitNode, hExitNode, h⟩ := bind_eq_ok_iff.mp h
    obtain ⟨routes, hRoutes, h⟩ := bind_eq_ok_iff.mp h
    obtain ⟨tailnet, hTailnet, h⟩ := bind_eq_ok_iff.mp h
    split at h
    case isTrue => cases h
    case isFalse hNamed =>
      obtain rfl := pure_eq_ok_iff.mp h
      exact ⟨hName, hNamed, hGroups, hOwners, hHosts, hAcls, hSsh,
        by rw [exitNodeIn, hApprovers, ok_bind, hExitNode],
        by rw [routesIn, hApprovers, ok_bind, hRoutes], hTailnet, rfl, rfl⟩
  · intro h
    obtain ⟨approvers, hApprovers, hExitNode⟩ := bind_eq_ok_iff.mp h.exitNode
    have hRoutes := h.routes
    rw [routesIn, hApprovers, ok_bind] at hRoutes
    simp only [hApprovers, h.name, h.groups, h.tagOwners, h.hosts, h.acls, h.ssh, hExitNode,
      hRoutes, h.tailnet, ok_bind, if_neg h.named, ← h.environment, ← h.halves]
    rfl

theorem exists_dnsOptions_iff :
    (∃ dns, dnsOptions data = .ok dns) ↔
      (∃ split, mapping data "splitDns" = .ok split ∧
        ∃ table, textLists "tailnet.dns.splitDns" split = .ok table) ∧
      (∃ ss, texts "tailnet.dns.searchPaths" (field? data "searchPaths") = .ok ss) ∧
      ∃ ss, texts "tailnet.dns.nameservers" (field? data "nameservers") = .ok ss := by
  simp only [dnsOptions, exists_bind_eq_ok_iff, pure_eq_ok_iff, exists_eq', and_true]
  constructor
  · rintro ⟨split, hSplit, paths, hPaths, servers, hServers, table, hTable⟩
    exact ⟨⟨split, hSplit, table, hTable⟩, ⟨paths, hPaths⟩, servers, hServers⟩
  · rintro ⟨⟨split, hSplit, table, hTable⟩, ⟨paths, hPaths⟩, servers, hServers⟩
    exact ⟨split, hSplit, paths, hPaths, servers, hServers, table, hTable⟩

theorem exists_keyOptions_iff :
    (∃ keys, keyOptions data = .ok keys) ↔
      (∃ found, feature "tailnet.keys.ephemeralKey" (field? data "ephemeralKey") = .ok found) ∧
      (∃ found, feature "tailnet.keys.infraKey" (field? data "infraKey") = .ok found) ∧
      (∃ days, ((field? data "keyExpiryDays").getD (.int 90)).toInteger = .ok days ∧ 0 < days) ∧
      ∃ ss, texts "tailnet.keys.tags" (field? data "tags") = .ok ss := by
  simp only [keyOptions, exists_bind_eq_ok_iff, mapError_eq_ok_iff]
  constructor
  · rintro ⟨first, hFirst, second, hSecond, days, hDays, tags, hTags, hKeys⟩
    refine ⟨⟨first, hFirst⟩, ⟨second, hSecond⟩, ⟨days, hDays, ?_⟩, tags, hTags⟩
    by_contra hPos
    rw [dif_neg hPos] at hKeys
    obtain ⟨_, hKeys⟩ := hKeys
    cases hKeys
  · rintro ⟨⟨first, hFirst⟩, ⟨second, hSecond⟩, ⟨days, hDays, hPos⟩, tags, hTags⟩
    refine ⟨first, hFirst, second, hSecond, days, hDays, tags, hTags, ?_⟩
    rw [dif_pos hPos]
    exact ⟨_, rfl⟩

/-- No contact is unknown exactly if all are of types that there are. -/
theorem unknownContacts_eq_nil_iff {contacts : Table String String} :
    unknownContacts contacts = [] ↔ ∀ kind ∈ contacts.keys, kind ∈ contactTypes := by
  have hSorted : unknownContacts contacts = [] ↔
      (contacts.keys.filter fun kind => !contactTypes.contains kind) = [] := by
    rw [← List.length_eq_zero_iff, ← List.length_eq_zero_iff, unknownContacts,
      List.length_mergeSort]
  rw [hSorted, List.filter_eq_nil_iff]
  simp

/-- Options are read exactly if each part is, and if all contacts are of types that there are. -/
theorem exists_tailnetOptions_iff :
    (∃ options, tailnetOptions data = .ok options) ↔
      (∃ dns, mapping data "dns" = .ok dns ∧ ∃ options, dnsOptions dns = .ok options) ∧
      (∃ keys, mapping data "keys" = .ok keys ∧ ∃ options, keyOptions keys = .ok options) ∧
      (∃ settings, mapping data "settings" = .ok settings) ∧
      ∃ contacts, mapping data "contacts" = .ok contacts ∧
        ∃ table, textTable contacts = .ok table ∧ ∀ kind ∈ table.keys, kind ∈ contactTypes := by
  simp only [tailnetOptions, exists_bind_eq_ok_iff]
  constructor
  · rintro ⟨dns, hDns, dnsRead, hDnsRead, keys, hKeys, keysRead, hKeysRead, settings, hSettings,
      contacts, hContacts, table, hTable, options, h⟩
    refine ⟨⟨dns, hDns, dnsRead, hDnsRead⟩, ⟨keys, hKeys, keysRead, hKeysRead⟩,
      ⟨settings, hSettings⟩, contacts, hContacts, table, hTable, ?_⟩
    split at h
    case h_1 hNone => exact unknownContacts_eq_nil_iff.mp hNone
    case h_2 => cases h
  · rintro ⟨⟨dns, hDns, dnsRead, hDnsRead⟩, ⟨keys, hKeys, keysRead, hKeysRead⟩,
      ⟨settings, hSettings⟩, contacts, hContacts, table, hTable, hKinds⟩
    refine ⟨dns, hDns, dnsRead, hDnsRead, keys, hKeys, keysRead, hKeysRead, settings, hSettings,
      contacts, hContacts, table, hTable, ?_⟩
    rw [unknownContacts_eq_nil_iff.mpr hKinds]
    exact ⟨_, rfl⟩

/-- All contacts of a tailnet are of types that there are. -/
theorem contacts_of_tailnetOptions {options : TailnetOptions}
    (h : tailnetOptions data = .ok options) :
    ∀ contact ∈ options.contacts, contact.1 ∈ contactTypes := by
  simp only [tailnetOptions, bind_eq_ok_iff] at h
  obtain ⟨_, -, _, -, _, -, _, -, _, -, _, -, contacts, -, h⟩ := h
  split at h
  case h_2 => cases h
  case h_1 hNone =>
    obtain rfl := pure_eq_ok_iff.mp h
    exact fun contact hIn =>
      unknownContacts_eq_nil_iff.mp hNone contact.1 (List.mem_map_of_mem hIn)

end Tailnet.Source
