import Tailnet.Proofs.Display
import Tailnet.Proofs.Source.Sections

/-!
The shape of data that is a policy source, said of the data alone. Data is read exactly if it has
that shape.
-/

namespace Tailnet.Source

/-- Nothing, null, or something of a shape. -/
def Optionally (shape : Value → Prop) : Option Value → Prop
  | none => True
  | some value => value.isNull = true ∨ shape value

/-- A mapping with entries of a shape. -/
def MapOf (shape : Mapping → Prop) (value : Value) : Prop :=
  ∃ entries, value = .map entries ∧ shape (Value.entriesAlone entries)

/-- A list whose items are of a shape. -/
def ListOf (shape : Value → Prop) (value : Value) : Prop :=
  ∃ items, value = .list items ∧ ∀ item ∈ Value.itemsAlone items, shape item

/-- Something that has a text, or nothing at all. -/
def Shown (found : Option Value) : Prop := ∀ value, found = some value → value.isShort = true

/-- A list of tokens. They may be of any kind, and count by their texts. -/
def Tokens : Value → Prop := ListOf fun item => item.isShort = true

/-- Lists of tokens under names. -/
def TokenLists (data : Mapping) : Prop :=
  ∀ entry ∈ data, entry.1.isShort = true ∧ Optionally Tokens (some entry.2)

/-- Addresses under names. -/
def HostsShape (data : Mapping) : Prop :=
  ∀ entry ∈ data, entry.1.isShort = true ∧ entry.2.isShort = true

/-- An access rule. -/
structure AccessShape (rule : Mapping) : Prop where
  action : Shown (field? rule "action")
  sources : Optionally Tokens (field? rule "src")
  destinations : Optionally Tokens (field? rule "dst")

/-- A shell rule. -/
structure ShellShape (rule : Mapping) : Prop extends AccessShape rule where
  users : Optionally Tokens (field? rule "users")
  checkPeriod : Shown (field? rule "checkPeriod")

/-- An entry of a list of grants. Its network must be there. -/
structure RouteShape (entry : Mapping) : Prop where
  network : ∃ network, field? entry "cidr" = some network ∧ network.isShort = true
  approvers : Optionally Tokens (field? entry "approvers")

/-- Grants of networks, by network or one after the other. -/
def RoutesShape (value : Value) : Prop := MapOf TokenLists value ∨ ListOf (MapOf RouteShape) value

/-- The approvers of exit nodes and networks. -/
structure ApproversShape (data : Mapping) : Prop where
  exitNode : Optionally Tokens (field? data "exitNode")
  routes : Optionally RoutesShape (field? data "routes")

/-- A feature that is on or off, or that has tags. -/
def FeatureShape (value : Value) : Prop :=
  (∃ enabled, value = .bool enabled) ∨
    MapOf (fun entries => Optionally Tokens (field? entries "tags")) value

/-- The features of keys. -/
structure FeaturesShape (data : Mapping) : Prop where
  ephemeral : Optionally FeatureShape (field? data "ephemeralKey")
  infra : Optionally FeatureShape (field? data "infraKey")

/-- The options of keys. Their days, if said, are a positive number. -/
structure KeysShape (data : Mapping) : Prop extends FeaturesShape data where
  days : ∀ value, field? data "keyExpiryDays" = some value →
    ∃ days, value.toInteger = .ok days ∧ 0 < days
  tags : Optionally Tokens (field? data "tags")

/-- The options of the name service. -/
structure DnsShape (data : Mapping) : Prop where
  searchPaths : Optionally Tokens (field? data "searchPaths")
  nameservers : Optionally Tokens (field? data "nameservers")
  splitDns : Optionally (MapOf TokenLists) (field? data "splitDns")

/-- Contacts under the types that there are. -/
def ContactsShape (data : Mapping) : Prop :=
  ∀ entry ∈ data, (∃ kind ∈ contactTypes, (Value.scalar entry.1).display = .ok kind) ∧
    entry.2.isShort = true

/-- The options of a tailnet. Settings may be anything that is a mapping. -/
structure TailnetShape (data : Mapping) : Prop where
  dns : Optionally (MapOf DnsShape) (field? data "dns")
  keys : Optionally (MapOf KeysShape) (field? data "keys")
  settings : Optionally (MapOf fun _ => True) (field? data "settings")
  contacts : Optionally (MapOf ContactsShape) (field? data "contacts")

/-- What is said of the policy itself. -/
structure PolicyShape (data : Mapping) : Prop where
  groups : Optionally (MapOf TokenLists) (field? data "groups")
  tagOwners : Optionally (MapOf TokenLists) (field? data "tagOwners")
  hosts : Optionally (MapOf HostsShape) (field? data "hosts")
  acls : Optionally (ListOf (MapOf AccessShape)) (field? data "acls")
  ssh : Optionally (ListOf (MapOf ShellShape)) (field? data "ssh")
  approvers : Optionally (MapOf ApproversShape) (field? data "autoApprovers")

/-- What gives a source its name: that in the data, or the given one if that counts as absent. -/
def nameValue (data : Mapping) (name : String) : Value :=
  ((field? data "name").filter Value.isTruthy).getD (.text name)

/-- Data of the shape of a source. -/
structure WellShaped (data : Mapping) (name : String) : Prop extends PolicyShape data where
  name : ∃ text, (nameValue data name).display = .ok text ∧ text ≠ ""
  tailnet : Optionally (MapOf TailnetShape) (field? data "tailnet")

section Reading

variable {α : Type} {data : Mapping}

theorem not_optionally {shape : Value → Prop} {value : Value}
    (hNull : value = .scalar .null → False) (hShape : ¬shape value) :
    ¬Optionally shape (some value) := by
  rintro (h | h)
  · unfold Value.isNull at h
    split at h
    · exact hNull rfl
    · cases h
  · exact hShape h

theorem not_mapOf {shape : Mapping → Prop} {value : Value}
    (hMap : ∀ entries, value = .map entries → False) : ¬MapOf shape value := by
  rintro ⟨entries, hEq, -⟩
  exact hMap entries hEq

theorem not_listOf {shape : Value → Prop} {value : Value}
    (hList : ∀ items, value = .list items → False) : ¬ListOf shape value := by
  rintro ⟨items, hEq, -⟩
  exact hList items hEq

theorem exists_textOf_iff {value : Value} :
    (∃ s, textOf value = .ok s) ↔ value.isShort = true := by
  simp only [textOf, mapError_eq_ok_iff]
  exact Value.exists_display_iff

/-- A section that is a mapping is read as its entries, and as none if it is not there. -/
theorem exists_mapping_iff {shape : Mapping → Prop} (hNone : shape []) (name : String) :
    (∃ entries, mapping data name = .ok entries ∧ shape entries) ↔
      Optionally (MapOf shape) (field? data name) := by
  unfold mapping
  split
  case h_1 hFound => simp [hFound, hNone, Optionally]
  case h_2 hFound => simp [hFound, hNone, Optionally, Value.isNull]
  case h_3 entries hFound => simp [hFound, Optionally, Value.isNull, MapOf]
  case h_4 value hNull hMap hFound =>
    rw [hFound]
    refine iff_of_false ?_ (not_optionally hNull (not_mapOf hMap))
    rintro ⟨_, hRead, -⟩
    cases hRead

theorem exists_mappingAt_iff {f : Mapping → Except SourceError α} {shape : Mapping → Prop}
    (h : ∀ entries, (∃ a, f entries = .ok a) ↔ shape entries) (place : String) (value : Value) :
    (∃ a, mappingAt place value >>= f = .ok a) ↔ MapOf shape value := by
  cases value with
  | map entries => simp [mappingAt, ok_bind, h, MapOf]
  | _ => exact iff_of_false not_exists_ok (not_mapOf (by simp))

/-- Items are read with their positions, of which it does not depend whether they can be. -/
theorem exists_mapM_zipIdx_iff {read : Value → Nat → Except SourceError α} {shape : Value → Prop}
    (h : ∀ item i, (∃ a, read item i = .ok a) ↔ shape item) (items : List Value) :
    (∃ results, items.zipIdx.mapM (fun (item, i) => read item i) = .ok results) ↔
      ∀ item ∈ items, shape item := by
  have hItems : (∀ pair ∈ items.zipIdx, shape pair.1) ↔
      ∀ item ∈ items.zipIdx.map Prod.fst, shape item := List.forall_mem_map.symm
  rw [List.zipIdx_map_fst] at hItems
  rw [exists_mapM_eq_ok_iff, ← hItems]
  simp only [h]

/-- The rules of a section are read if the section is a list of them. -/
theorem exists_rulesIn_iff {read : Value → Nat → Except SourceError α} {shape : Value → Prop}
    (h : ∀ rule i, (∃ a, read rule i = .ok a) ↔ shape rule) (name : String) :
    (∃ rules, rulesIn data name read = .ok rules) ↔
      Optionally (ListOf shape) (field? data name) := by
  unfold rulesIn items
  split
  case h_1 hFound => simp [hFound, ok_bind, Optionally, pure_eq_ok_iff]
  case h_2 hFound => simp [hFound, ok_bind, Optionally, Value.isNull, pure_eq_ok_iff]
  case h_3 items hFound =>
    rw [hFound, ok_bind, exists_mapM_zipIdx_iff h]
    simp [Optionally, Value.isNull, ListOf]
  case h_4 value hNull hList hFound =>
    rw [hFound]
    exact iff_of_false not_exists_ok (not_optionally hNull (not_listOf hList))

theorem exists_texts_iff {place : String} {found : Option Value} :
    (∃ ss, texts place found = .ok ss) ↔ Optionally Tokens found := by
  unfold texts
  split
  case h_1 => simp [Optionally]
  case h_2 => simp [Optionally, Value.isNull]
  case h_3 =>
    exact iff_of_false not_exists_ok (not_optionally (by simp) (not_listOf (by simp)))
  case h_4 items =>
    rw [exists_mapM_eq_ok_iff]
    simp [exists_textOf_iff, Optionally, Value.isNull, Tokens, ListOf]
  case h_5 value hNull _ hList =>
    exact iff_of_false not_exists_ok (not_optionally hNull (not_listOf hList))

theorem exists_textLists_iff {place : String} :
    (∃ table, textLists place data = .ok table) ↔ TokenLists data := by
  simp only [textLists, exists_bind_eq_ok_iff, pure_eq_ok_iff, exists_eq', and_true,
    exists_mapM_eq_ok_iff]
  refine forall₂_congr fun entry _ => ?_
  simp only [exists_texts_iff, exists_and_right]
  exact and_congr_left' exists_textOf_iff

theorem exists_textTable_iff : (∃ table, textTable data = .ok table) ↔ HostsShape data := by
  simp only [textTable, exists_bind_eq_ok_iff, pure_eq_ok_iff, exists_eq', and_true,
    exists_mapM_eq_ok_iff]
  refine forall₂_congr fun entry _ => ?_
  simp only [exists_textOf_iff, exists_and_right]
  rfl

theorem exists_actionOf_iff : (∃ s, actionOf data = .ok s) ↔ Shown (field? data "action") := by
  rw [actionOf, exists_textOf_iff, Shown]
  cases field? data "action" with
  | none => simp [Value.text, Value.isShort, Scalar.isShort]
  | some value => simp

theorem exists_optionalText_iff {found : Option Value} :
    (∃ s, optionalText found = .ok s) ↔ Shown found := by
  unfold optionalText Shown
  split
  case h_1 => simp
  case h_2 => simp [Value.isShort, Scalar.isShort]
  case h_3 value _ =>
    simp only [Option.some.injEq, forall_eq']
    rw [← exists_textOf_iff]
    cases textOf value with
    | error cause => simp [Except.map]
    | ok s => simp [Except.map]

theorem exists_accessSpec_iff (rule : Value) (index : Nat) :
    (∃ spec, accessSpec rule index = .ok spec) ↔ MapOf AccessShape rule := by
  refine exists_mappingAt_iff (fun entries => ?_) _ rule
  simp only [exists_bind_eq_ok_iff, pure_eq_ok_iff, exists_eq', and_true, exists_texts_iff,
    exists_and_right, exists_actionOf_iff]
  constructor
  · rintro ⟨hAction, hSources, hDestinations⟩
    exact ⟨hAction, hSources, hDestinations⟩
  · intro h
    exact ⟨h.action, h.sources, h.destinations⟩

theorem exists_shellSpec_iff (rule : Value) (index : Nat) :
    (∃ spec, shellSpec rule index = .ok spec) ↔ MapOf ShellShape rule := by
  refine exists_mappingAt_iff (fun entries => ?_) _ rule
  simp only [exists_bind_eq_ok_iff, pure_eq_ok_iff, exists_eq', and_true, exists_texts_iff,
    exists_and_right, exists_actionOf_iff, exists_optionalText_iff]
  constructor
  · rintro ⟨hAction, hSources, hDestinations, hUsers, hPeriod⟩
    exact ⟨⟨hAction, hSources, hDestinations⟩, hUsers, hPeriod⟩
  · intro h
    exact ⟨h.action, h.sources, h.destinations, h.users, h.checkPeriod⟩

theorem exists_listedRoute_iff (entry : Value) (index : Nat) :
    (∃ spec, listedRoute entry index = .ok spec) ↔ MapOf RouteShape entry := by
  refine exists_mappingAt_iff (fun fields => ?_) _ entry
  cases hNetwork : field? fields "cidr" with
  | none =>
      refine iff_of_false not_exists_ok fun h => ?_
      obtain ⟨_, hFound, -⟩ := h.network
      rw [hNetwork] at hFound
      cases hFound
  | some network =>
      simp only [exists_bind_eq_ok_iff, pure_eq_ok_iff, exists_eq', and_true, exists_texts_iff,
        exists_and_right, exists_textOf_iff]
      constructor
      · rintro ⟨hShort, hApprovers⟩
        exact ⟨⟨network, hNetwork, hShort⟩, hApprovers⟩
      · intro h
        obtain ⟨_, hFound, hShort⟩ := h.network
        obtain rfl := Option.some.inj (hNetwork.symm.trans hFound)
        exact ⟨hShort, h.approvers⟩

theorem exists_routeSpecs_iff {found : Option Value} :
    (∃ routes, routeSpecs found = .ok routes) ↔ Optionally RoutesShape found := by
  unfold routeSpecs
  split
  case h_1 => simp [Optionally]
  case h_2 => simp [Optionally, Value.isNull]
  case h_3 entries =>
    have hEntries : (∀ entry ∈ Value.entriesAlone entries,
        (Value.scalar entry.1).isShort = true ∧ Optionally Tokens (some entry.2)) ↔
          Optionally RoutesShape (some (.map entries)) := by
      simp only [Optionally, Value.isNull, RoutesShape, MapOf, ListOf, Value.map.injEq,
        exists_eq_left', reduceCtorEq, false_and, exists_false, or_false, Bool.false_eq_true,
        false_or]
      rfl
    rw [exists_mapM_eq_ok_iff, ← hEntries]
    refine forall₂_congr fun entry _ => ?_
    simp only [exists_bind_eq_ok_iff, pure_eq_ok_iff, exists_eq', and_true, exists_texts_iff,
      exists_and_right, exists_textOf_iff]
  case h_4 entries =>
    rw [exists_mapM_zipIdx_iff exists_listedRoute_iff]
    simp [Optionally, Value.isNull, RoutesShape, MapOf, ListOf]
  case h_5 value hNull hMap hList =>
    refine iff_of_false not_exists_ok (not_optionally hNull ?_)
    rintro (⟨entries, hEq, -⟩ | ⟨items, hEq, -⟩)
    · exact hMap entries hEq
    · exact hList items hEq

theorem exists_feature_iff {place : String} {found : Option Value} :
    (∃ enabled, feature place found = .ok enabled) ↔ Optionally FeatureShape found := by
  unfold feature
  split
  case h_1 => simp [Optionally]
  case h_2 => simp [Optionally, Value.isNull]
  case h_3 enabled => simp [Optionally, FeatureShape, Value.bool]
  case h_4 entries =>
    simp only [exists_bind_eq_ok_iff, pure_eq_ok_iff, exists_eq', and_true, exists_texts_iff]
    simp [Optionally, Value.isNull, FeatureShape, Value.bool, MapOf]
  case h_5 value hNull hBool hMap =>
    refine iff_of_false not_exists_ok (not_optionally hNull ?_)
    rintro (⟨enabled, hEq⟩ | ⟨entries, hEq, -⟩)
    · exact hBool enabled hEq
    · exact hMap entries hEq

theorem tokenLists_nil : TokenLists [] := List.forall_mem_nil _

theorem exists_dnsOptions_iff_shape :
    (∃ dns, dnsOptions data = .ok dns) ↔ DnsShape data := by
  simp only [exists_dnsOptions_iff, exists_textLists_iff, exists_texts_iff]
  rw [exists_mapping_iff tokenLists_nil]
  constructor
  · rintro ⟨hSplit, hPaths, hServers⟩
    exact ⟨hPaths, hServers, hSplit⟩
  · intro h
    exact ⟨h.splitDns, h.searchPaths, h.nameservers⟩

theorem exists_keyOptions_iff_shape :
    (∃ keys, keyOptions data = .ok keys) ↔ KeysShape data := by
  have hDays : (∃ days, ((field? data "keyExpiryDays").getD (.int 90)).toInteger = .ok days ∧
      0 < days) ↔ ∀ value, field? data "keyExpiryDays" = some value →
        ∃ days, value.toInteger = .ok days ∧ 0 < days := by
    cases field? data "keyExpiryDays" with
    | none => exact iff_of_true ⟨90, rfl, by decide⟩ (by simp)
    | some value => simp
  rw [exists_keyOptions_iff, hDays, exists_feature_iff, exists_feature_iff, exists_texts_iff]
  constructor
  · rintro ⟨hEphemeral, hInfra, hDays, hTags⟩
    exact ⟨⟨hEphemeral, hInfra⟩, hDays, hTags⟩
  · intro h
    exact ⟨h.ephemeral, h.infra, h.days, h.tags⟩

/-- A table of contacts is read with types that there are exactly if its keys show such. -/
theorem exists_contacts_iff :
    (∃ table, textTable data = .ok table ∧ ∀ kind ∈ table.keys, kind ∈ contactTypes) ↔
      ContactsShape data := by
  simp only [textTable, bind_eq_ok_iff, pure_eq_ok_iff]
  constructor
  · rintro ⟨_, ⟨pairs, hPairs, rfl⟩, hKinds⟩ entry hEntry
    obtain ⟨pair, hPair, hRead⟩ := exists_mem_of_mapM hPairs hEntry
    simp only [bind_eq_ok_iff, pure_eq_ok_iff] at hRead
    obtain ⟨kind, hKind, value, hValue, rfl⟩ := hRead
    refine ⟨⟨kind, hKinds kind ?_, mapError_eq_ok_iff.mp hKind⟩,
      exists_textOf_iff.mp ⟨value, hValue⟩⟩
    exact Table.mem_keys_ofPairs.mpr (List.mem_map_of_mem hPair)
  · intro h
    have hTable : HostsShape data := by
      intro entry hEntry
      obtain ⟨⟨kind, -, hShown⟩, hShort⟩ := h entry hEntry
      exact ⟨Value.exists_display_iff.mp ⟨kind, hShown⟩, hShort⟩
    obtain ⟨table, hRead⟩ := exists_textTable_iff.mpr hTable
    simp only [textTable, bind_eq_ok_iff, pure_eq_ok_iff] at hRead
    obtain ⟨pairs, hPairs, rfl⟩ := hRead
    refine ⟨_, ⟨pairs, hPairs, rfl⟩, fun kind hKind => ?_⟩
    obtain ⟨pair, hPair, rfl⟩ := List.mem_map.mp (Table.mem_keys_ofPairs.mp hKind)
    obtain ⟨entry, hEntry, hRead⟩ := exists_mem_of_mem_results hPairs hPair
    simp only [bind_eq_ok_iff, pure_eq_ok_iff] at hRead
    obtain ⟨name, hName, value, -, rfl⟩ := hRead
    obtain ⟨⟨kind, hType, hShown⟩, -⟩ := h entry hEntry
    obtain rfl := Except.ok.inj (hShown.symm.trans (mapError_eq_ok_iff.mp hName))
    exact hType

theorem dnsShape_nil : DnsShape [] := ⟨trivial, trivial, trivial⟩

theorem keysShape_nil : KeysShape [] := ⟨⟨trivial, trivial⟩, by simp [field?, Table.get?], trivial⟩

theorem exists_tailnetOptions_iff_shape :
    (∃ options, tailnetOptions data = .ok options) ↔ TailnetShape data := by
  simp only [exists_tailnetOptions_iff, exists_dnsOptions_iff_shape, exists_keyOptions_iff_shape,
    exists_contacts_iff]
  have hSettings : (∃ settings, mapping data "settings" = .ok settings) ↔
      Optionally (MapOf fun _ => True) (field? data "settings") := by
    rw [← exists_mapping_iff trivial]
    simp only [and_true]
  rw [exists_mapping_iff dnsShape_nil, exists_mapping_iff keysShape_nil, hSettings,
    exists_mapping_iff (List.forall_mem_nil _)]
  constructor
  · rintro ⟨hDns, hKeys, hSettings, hContacts⟩
    exact ⟨hDns, hKeys, hSettings, hContacts⟩
  · intro h
    exact ⟨h.dns, h.keys, h.settings, h.contacts⟩

theorem nameIn_eq (data : Mapping) (name : String) :
    nameIn data name = textOf (nameValue data name) := by
  unfold nameIn nameValue
  cases field? data "name" with
  | none => rfl
  | some value =>
      dsimp only
      rw [Option.filter_some]
      by_cases hTruthy : value.isTruthy = true
      · rw [if_pos hTruthy, if_pos hTruthy]
        rfl
      · rw [if_neg hTruthy, if_neg hTruthy]
        rfl

theorem approversShape_nil : ApproversShape [] := ⟨trivial, trivial⟩

theorem exists_approvers_iff :
    ((∃ ss, exitNodeIn data = .ok ss) ∧ ∃ routes, routesIn data = .ok routes) ↔
      Optionally (MapOf ApproversShape) (field? data "autoApprovers") := by
  rw [← exists_mapping_iff approversShape_nil]
  simp only [exitNodeIn, routesIn, exists_bind_eq_ok_iff, exists_texts_iff, exists_routeSpecs_iff]
  constructor
  · rintro ⟨⟨approvers, hApprovers, hExitNode⟩, again, hAgain, hRoutes⟩
    obtain rfl := Except.ok.inj (hApprovers.symm.trans hAgain)
    exact ⟨approvers, hApprovers, hExitNode, hRoutes⟩
  · rintro ⟨approvers, hApprovers, h⟩
    exact ⟨⟨approvers, hApprovers, h.exitNode⟩, approvers, hApprovers, h.routes⟩

theorem exists_policy_iff :
    ((∃ groups, mapping data "groups" >>= textLists "groups" = .ok groups) ∧
      (∃ owners, mapping data "tagOwners" >>= textLists "tagOwners" = .ok owners) ∧
      (∃ hosts, mapping data "hosts" >>= textTable = .ok hosts) ∧
      (∃ acls, rulesIn data "acls" accessSpec = .ok acls) ∧
      (∃ ssh, rulesIn data "ssh" shellSpec = .ok ssh) ∧
      (∃ ss, exitNodeIn data = .ok ss) ∧ ∃ routes, routesIn data = .ok routes) ↔
      PolicyShape data := by
  simp only [exists_bind_eq_ok_iff, exists_textLists_iff, exists_textTable_iff]
  rw [exists_mapping_iff tokenLists_nil, exists_mapping_iff tokenLists_nil,
    exists_mapping_iff (List.forall_mem_nil _), exists_rulesIn_iff exists_accessSpec_iff,
    exists_rulesIn_iff exists_shellSpec_iff, exists_approvers_iff]
  constructor
  · rintro ⟨hGroups, hOwners, hHosts, hAcls, hSsh, hApprovers⟩
    exact ⟨hGroups, hOwners, hHosts, hAcls, hSsh, hApprovers⟩
  · intro h
    exact ⟨h.groups, h.tagOwners, h.hosts, h.acls, h.ssh, h.approvers⟩

theorem tailnetShape_nil : TailnetShape [] := ⟨trivial, trivial, trivial, trivial⟩

theorem exists_tailnet_iff :
    (∃ options, mapping data "tailnet" >>= tailnetOptions = .ok options) ↔
      Optionally (MapOf TailnetShape) (field? data "tailnet") := by
  rw [exists_bind_eq_ok_iff, ← exists_mapping_iff tailnetShape_nil]
  simp only [exists_tailnetOptions_iff_shape]

/-- Data is read exactly if it has the shape of a source. -/
theorem exists_read_iff {name : String} {environment : Option String} {halves : Text.Halves} :
    (∃ source, read data name environment halves = .ok source) ↔ WellShaped data name := by
  simp only [read_eq_ok_iff]
  constructor
  · rintro ⟨source, h⟩
    have hName := h.name
    rw [nameIn_eq] at hName
    exact {
      toPolicyShape := exists_policy_iff.mp ⟨⟨_, h.groups⟩, ⟨_, h.tagOwners⟩, ⟨_, h.hosts⟩,
        ⟨_, h.acls⟩, ⟨_, h.ssh⟩, ⟨_, h.exitNode⟩, ⟨_, h.routes⟩⟩
      name := ⟨source.name, mapError_eq_ok_iff.mp hName, h.named⟩
      tailnet := exists_tailnet_iff.mp ⟨_, h.tailnet⟩ }
  · intro h
    obtain ⟨⟨groups, hGroups⟩, ⟨tagOwners, hOwners⟩, ⟨hosts, hHosts⟩, ⟨acls, hAcls⟩, ⟨ssh, hSsh⟩,
      ⟨exitNode, hExitNode⟩, routes, hRoutes⟩ := exists_policy_iff.mpr h.toPolicyShape
    obtain ⟨tailnet, hTailnet⟩ := exists_tailnet_iff.mpr h.tailnet
    obtain ⟨named, hText, hNamed⟩ := h.name
    have hName : nameIn data name = .ok named := by
      rw [nameIn_eq, textOf, hText, Except.mapError]
    exact ⟨
      ⟨named, groups, tagOwners, hosts, acls, ssh, exitNode, routes, tailnet, environment, halves⟩,
      hName, hNamed, hGroups, hOwners, hHosts, hAcls, hSsh, hExitNode, hRoutes, hTailnet, rfl, rfl⟩

end Reading

end Tailnet.Source
