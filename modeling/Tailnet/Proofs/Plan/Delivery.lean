import Tailnet.Proofs.Http.Client
import Tailnet.Proofs.Plan.Preview
import Tailnet.Proofs.Source.Sections

/-!
What can keep a plan from being applied in full when the network does all that it is asked for: a
key whose time until it expires has too many digits to be written, settings without a JSON text, and
surrogates in what is sent for the name service, the keys, the settings or a contact. None of it is
found out before the policy is published.
-/

namespace Tailnet

/-- Options of a tailnet that can all be sent. -/
structure TailnetOptions.Sendable (options : TailnetOptions) (halves : Text.Halves) : Prop where
  searchPaths : Http.Client.areWhole halves options.dns.searchPaths = true
  nameservers : Http.Client.areWhole halves options.dns.nameservers = true
  splitDns : ∀ route ∈ options.dns.splitDns,
    Http.Client.areWhole halves (route.1 :: route.2) = true
  expiry : options.keys.plan = [] ∨ Integer.isWritable options.keys.expirySeconds = true
  tags : ∀ request ∈ options.keys.plan, Http.Client.areWhole halves request.tags = true
  written : (Value.map options.settings).isSendable = true
  settings : (Value.map options.settings).isEncodable halves = true
  contacts : ∀ contact ∈ options.contacts, halves.areAbsent contact.2.toList = true

namespace Plan

open Http

variable {plan : Plan} {document : String}

/-- Every call of a plan is about something that has a place of its own, if its contacts are of
types that a tailnet has. -/
theorem suffix_mem (h : ∀ contact ∈ plan.contacts, contact.1 ∈ contactTypes) (document : String) :
    ∀ call ∈ plan.calls document, call.suffix ∈ Client.suffixes := by
  have hContact : ∀ type ∈ contactTypes, "contacts/" ++ type ∈ Client.suffixes := by decide
  simp only [calls, settingsCalls, List.forall_mem_cons, List.forall_mem_append,
    List.forall_mem_map]
  refine ⟨?_, ⟨?_, ?_⟩, ?_, fun contact hIn => hContact _ (h contact hIn)⟩
  · simp [Call.suffix, Client.suffixes]
  · intro change _
    cases change <;> simp [DnsChange.call, Call.suffix, Client.suffixes]
  · simp [Call.suffix, Client.suffixes]
  · simp [Call.suffix, Client.suffixes]

/-- What becomes of a plan that is sent through a client: every call returns, or those before the
first that cannot be sent. That one fails because its body has no text or no bytes, and nothing more
is attempted. -/
inductive Delivered (plan : Plan) (client : Client) (document : String) :
    List Attempt → Outcome → Prop where
  | whole {outcome : Outcome}
      (hCalls : ∀ call ∈ plan.calls document, Client.isSendable client.halves call = true)
      (hAccounts : plan.Accounts document
        ⟨false, (plan.calls document).map fun call => ⟨call, none⟩, outcome⟩ none) :
      Delivered plan client document ((plan.calls document).map fun call => ⟨call, none⟩) outcome
  | part {front rest : List Call} {call : Call} {cause : SendError} {outcome : Outcome}
      (hCalls : plan.calls document = front ++ call :: rest)
      (hFront : ∀ other ∈ front, Client.isSendable client.halves other = true)
      (hCall : Client.isSendable client.halves call = false)
      (hBody : client.bodyText (client.order call).body = .error cause)
      (hAccounts : plan.Accounts document
        ⟨false, front.map (fun call => ⟨call, none⟩) ++ [⟨call, some cause.message⟩], outcome⟩
        (some cause.message)) :
      Delivered plan client document
        (front.map (fun call => ⟨call, none⟩) ++ [⟨call, some cause.message⟩]) outcome

variable {client : Client} {wire : Wire}

namespace Delivered

variable {attempts : List Attempt} {outcome : Outcome}

/-- What was delivered shows no error exactly if all of it could be sent. -/
theorem errors_eq_nil_iff (h : plan.Delivered client document attempts outcome) :
    outcome.errors = [] ↔
      ∀ call ∈ plan.calls document, Client.isSendable client.halves call = true := by
  cases h with
  | whole hCalls hAccounts => exact iff_of_true (hAccounts.errors_of_none rfl) hCalls
  | @part front rest call cause _ hCalls hFront hCall hBody hAccounts =>
      obtain ⟨stage, -, hErrors⟩ := hAccounts.errors_of_some _ rfl
      refine iff_of_false (fun hNone => ?_) fun hAll => ?_
      · rw [hNone] at hErrors
        cases hErrors
      · rw [hAll call (hCalls ▸ List.mem_append_right front List.mem_cons_self)] at hCall
        cases hCall

/-- The policy is published if it can be sent. -/
theorem acl_mem (h : plan.Delivered client document attempts outcome)
    (hDocument : Client.isSendable client.halves (.setAcl document) = true) :
    Stage.acl.name ∈ outcome.applied.keys := by
  have hReached {returned : Nat} (hReturned : 1 ≤ returned) :
      Stage.acl.name ∈ (completed (plan.stageCalls document) Stage.inOrder returned).keys := by
    have hAcl : (plan.stageCalls document .acl).length ≤ returned := hReturned
    rw [Stage.inOrder, completed, if_pos hAcl]
    exact List.mem_cons_self
  cases h with
  | whole hCalls hAccounts =>
      rw [hAccounts.applied, hAccounts.follows.returnedCount_of_none]
      exact hReached (Nat.le_add_left _ _)
  | @part front rest call cause _ hCalls hFront hCall hBody hAccounts =>
      rw [hAccounts.applied, returnedCount_stopped]
      cases front with
      | nil =>
          obtain ⟨rfl, -⟩ := List.cons.inj hCalls
          rw [hDocument] at hCall
          cases hCall
      | cons first others => exact hReached (Nat.le_add_left _ _)

end Delivered

/-- Calls that can be sent return one after the other. -/
theorem exists_performAll_of_isSendable (hClient : client.Ready) (hWire : wire.Obliging)
    {calls : List Call} (hPaths : ∀ call ∈ calls, call.suffix ∈ Client.suffixes)
    (hSendable : ∀ call ∈ calls, Client.isSendable client.halves call = true) :
    ∃ next, client.controlPlane.performAll wire calls = (next, none) ∧ next.Obliging := by
  refine ControlPlane.performAll_of_serves (fun call hCall => ?_) hWire
  obtain ⟨body, hBody⟩ := (client.exists_bodyText_iff call).mpr (hSendable call hCall)
  exact hClient.serves (hPaths call hCall) hBody

section Applying

variable (hContacts : ∀ contact ∈ plan.contacts, contact.1 ∈ contactTypes)
  (hErrors : plan.errors = []) (hDocument : plan.document = some document)
  (hClient : client.Ready) (hWire : wire.Obliging)

include hContacts hErrors hDocument hClient hWire

/-- If all calls before one can be sent and that one cannot, they return, and it fails because its
body has no text or no bytes. -/
theorem exists_accounts_of_front {front rest : List Call} {call : Call}
    (hCalls : plan.calls document = front ++ call :: rest)
    (hFront : ∀ other ∈ front, Client.isSendable client.halves other = true)
    (hCall : Client.isSendable client.halves call = false) :
    ∃ next cause attempts outcome,
      client.bodyText (client.order call).body = .error cause ∧
      attempts = front.map (fun call => ⟨call, none⟩) ++ [⟨call, some cause.message⟩] ∧
      plan.apply client.controlPlane wire false = (next, outcome) ∧
      plan.apply client.controlPlane.watched (wire, []) false = ((next, attempts), outcome) ∧
      plan.Accounts document ⟨false, attempts, outcome⟩ (some cause.message) := by
  have hPaths := suffix_mem hContacts document
  rw [hCalls, List.forall_mem_append, List.forall_mem_cons] at hPaths
  obtain ⟨hFrontPaths, hPath, -⟩ := hPaths
  obtain ⟨between, hReturned, hBetween⟩ :=
    exists_performAll_of_isSendable hClient hWire hFrontPaths hFront
  obtain ⟨cause, hBody⟩ : ∃ cause, client.bodyText (client.order call).body = .error cause := by
    cases hText : client.bodyText (client.order call).body with
    | error cause => exact ⟨cause, rfl⟩
    | ok text =>
        rw [(client.exists_bodyText_iff call).mp ⟨text, hText⟩] at hCall
        cases hCall
  obtain ⟨last, hFails⟩ := hClient.fails hPath hBody hBetween
  have hWatched := ControlPlane.performAll_watched_of_fails hReturned hFails rest []
  rw [← hCalls, List.nil_append] at hWatched
  obtain ⟨outcome, hApplied⟩ :=
    exists_accounts_of_watched client.controlPlane wire hErrors hDocument hWatched
  exact ⟨last, cause, _, outcome, hBody, rfl, hApplied⟩

/-- A plan without errors is delivered over a network that does all that it is asked for. -/
theorem exists_delivered :
    ∃ next attempts outcome,
      plan.apply client.controlPlane wire false = (next, outcome) ∧
      plan.apply client.controlPlane.watched (wire, []) false = ((next, attempts), outcome) ∧
      plan.Delivered client document attempts outcome := by
  cases hStuck :
      (plan.calls document).find? (fun call => !Client.isSendable client.halves call) with
  | none =>
      have hCalls : ∀ call ∈ plan.calls document, Client.isSendable client.halves call = true := by
        simpa using hStuck
      obtain ⟨next, hReturned, -⟩ := exists_performAll_of_isSendable hClient hWire
        (suffix_mem hContacts document) hCalls
      obtain ⟨outcome, hPlain, hWatched, hAccounts⟩ :=
        exists_accounts_of_watched client.controlPlane wire hErrors hDocument
          (ControlPlane.performAll_watched_of_none hReturned [])
      exact ⟨next, _, outcome, hPlain, hWatched, .whole hCalls hAccounts⟩
  | some call =>
      obtain ⟨hCall, front, rest, hCalls, hFront⟩ := List.find?_eq_some_iff_append.mp hStuck
      simp only [Bool.not_eq_true', Bool.not_not] at hCall hFront
      obtain ⟨next, cause, _, outcome, hBody, rfl, hPlain, hWatched, hAccounts⟩ :=
        exists_accounts_of_front hContacts hErrors hDocument hClient hWire hCalls hFront hCall
      exact ⟨next, _, outcome, hPlain, hWatched, .part hCalls hFront hCall hBody hAccounts⟩

end Applying

end Plan

namespace Source

open Http

variable {data : Mapping} {name tailnet : String} {environment : Option String}
  {halves : Text.Halves} {source : Source} {lint : Bool} {plan : Plan}

theorem expirySeconds_of_mem_plan (options : KeyOptions) :
    ∀ request ∈ options.plan, request.expirySeconds = options.expirySeconds := by
  simp only [KeyOptions.plan, List.forall_mem_append]
  refine ⟨⟨?_, ?_⟩, ?_⟩
  all_goals
    split
    · exact List.forall_mem_singleton.mpr rfl
    · exact List.forall_mem_nil _

/-- The descriptions of keys are of ASCII characters. -/
theorem ascii_description_of_mem_plan (options : KeyOptions) :
    ∀ request ∈ options.plan, Text.Ascii request.description.toList := by
  simp only [KeyOptions.plan, List.forall_mem_append]
  refine ⟨⟨?_, ?_⟩, ?_⟩
  all_goals
    split
    · rw [List.forall_mem_singleton]
      dsimp only
      decide
    · exact List.forall_mem_nil _

/-- What is planned for the name service can be sent if the options can. -/
theorem isSendable_changes_iff {options : DnsOptions} {changes : List DnsChange}
    (h : options.plan = .ok changes) :
    (∀ change ∈ changes, Client.isSendable halves change.call = true) ↔
      Client.areWhole halves options.searchPaths = true ∧
        Client.areWhole halves options.nameservers = true ∧
        ∀ route ∈ options.splitDns, Client.areWhole halves (route.1 :: route.2) = true := by
  have hUnlessEmpty {α : Type} (planned : List α) (change : List α → DnsChange)
      (hEmpty : Client.isSendable halves (change []).call = true) :
      (∀ other ∈ (if planned.isEmpty then [] else [change planned]),
        Client.isSendable halves other.call = true) ↔
          Client.isSendable halves (change planned).call = true := by
    cases planned with
    | nil => exact iff_of_true (List.forall_mem_nil _) hEmpty
    | cons first rest => exact List.forall_mem_singleton
  rw [DnsOptions.eq_of_plan h]
  simp only [List.cons_append, List.forall_mem_cons, List.forall_mem_append,
    hUnlessEmpty _ .searchPaths rfl, hUnlessEmpty _ .nameservers rfl, hUnlessEmpty _ .splitDns rfl]
  simp only [DnsChange.call, Client.isSendable, List.all_eq_true, and_assoc, true_and]

/-- The keys that are planned can be asked for if their time until they expire can be written and
their tags can be sent. -/
theorem isSendable_keys_iff (options : KeyOptions) :
    (∀ request ∈ options.plan, Client.isSendable halves (.createKey request) = true) ↔
      (options.plan = [] ∨ Integer.isWritable options.expirySeconds = true) ∧
        ∀ request ∈ options.plan, Client.areWhole halves request.tags = true := by
  have hEach (request : KeyRequest) (hRequest : request ∈ options.plan) :
      Client.isSendable halves (.createKey request) = true ↔
        Integer.isWritable options.expirySeconds = true ∧
          Client.areWhole halves request.tags = true := by
    have hDescription := halves.areAbsent_of_ascii (ascii_description_of_mem_plan _ _ hRequest)
    rw [Client.isSendable, Bool.and_eq_true, expirySeconds_of_mem_plan _ _ hRequest,
      Client.areWhole, List.all_cons, hDescription, Bool.true_and, ← Client.areWhole]
  have hSame : (∀ request ∈ options.plan, Integer.isWritable options.expirySeconds = true) ↔
      options.plan = [] ∨ Integer.isWritable options.expirySeconds = true := by
    cases options.plan with
    | nil => simp
    | cons first rest =>
        have hSome : first :: rest ≠ [] := List.cons_ne_nil first rest
        rw [or_iff_right hSome]
        exact ⟨fun hAll => hAll first List.mem_cons_self, fun h _ _ => h⟩
  rw [forall₂_congr hEach, forall₂_and, hSame]

/-- All calls of a plan can be sent exactly if the options can that it was made from. -/
theorem isSendable_calls_iff {document : String} (hPublishes : source.Publishes lint document)
    (hErrors : (source.draft tailnet lint).errors = []) :
    (∀ call ∈ (source.draft tailnet lint).calls document,
        Client.isSendable source.halves call = true) ↔ source.tailnet.Sendable source.halves := by
  obtain ⟨changes, hChanges, hDns⟩ := dns_of_draft hErrors
  have hPlanned : (source.draft tailnet lint).changes = changes := by
    rw [Plan.changes, hDns, Option.getD_some]
  rw [Plan.calls, Plan.settingsCalls, List.forall_mem_cons, List.forall_mem_append,
    List.forall_mem_append, List.forall_mem_map, List.forall_mem_map, List.forall_mem_cons,
    List.forall_mem_map, hPlanned, isSendable_changes_iff hChanges]
  constructor
  · rintro ⟨-, ⟨⟨hPaths, hServers, hRoutes⟩, hKeys⟩, hSettings, hContacts⟩
    obtain ⟨hExpiry, hTags⟩ := (isSendable_keys_iff _).mp hKeys
    obtain ⟨hWritten, hWhole⟩ := Bool.and_eq_true_iff.mp hSettings
    exact ⟨hPaths, hServers, hRoutes, hExpiry, hTags, hWritten, hWhole, hContacts⟩
  · intro h
    have hKeys := (isSendable_keys_iff _).mpr ⟨h.expiry, h.tags⟩
    have hSettings := Bool.and_eq_true_iff.mpr ⟨h.written, h.settings⟩
    exact ⟨hPublishes.areAbsent,
      ⟨⟨h.searchPaths, h.nameservers, h.splitDns⟩, hKeys⟩, hSettings, h.contacts⟩

/-- A source that was read and whose plan has no errors is applied through a client, over a network
that does all it is asked for, up to the first call that cannot be sent. The policy is always
published, and the application succeeds exactly if the options of the tailnet can all be sent. -/
theorem delivered_iff {client : Client} {wire : Wire}
    (hRead : read data name environment halves = .ok source)
    (hPlan : source.plan tailnet lint = .ok plan) (hErrors : plan.errors = [])
    (hClient : client.Ready) (hHalves : client.halves = halves) (hWire : wire.Obliging) :
    ∃ document next attempts outcome,
      source.Publishes lint document ∧
      plan.apply client.controlPlane wire false = (next, outcome) ∧
      plan.apply client.controlPlane.watched (wire, []) false = ((next, attempts), outcome) ∧
      plan.Delivered client document attempts outcome ∧
      Stage.acl.name ∈ outcome.applied.keys ∧
      (outcome.errors = [] ↔ source.tailnet.Sendable halves) := by
  obtain ⟨rfl, -⟩ := (source.plan_eq_ok_iff tailnet lint).mp hPlan
  have hParts := read_eq_ok_iff.mp hRead
  obtain ⟨options, -, hOptions⟩ := bind_eq_ok_iff.mp hParts.tailnet
  obtain rfl := hParts.halves
  obtain ⟨document, hPublishes, hDocument⟩ := exists_document_of_draft hErrors
  obtain ⟨next, attempts, outcome, hPlain, hWatched, hDelivered⟩ :=
    Plan.exists_delivered (contacts_of_tailnetOptions hOptions) hErrors hDocument hClient hWire
  refine ⟨document, next, attempts, outcome, hPublishes, hPlain, hWatched, hDelivered,
    hDelivered.acl_mem (hHalves ▸ hPublishes.areAbsent), ?_⟩
  rw [hDelivered.errors_eq_nil_iff, hHalves, isSendable_calls_iff hPublishes hErrors]

/-- A policy for a tailnet with a key, a contact and some settings of its own. -/
def databasePolicy (settings : List (String × Value)) : Mapping :=
  recordEntries
    [ ("hosts", .record [("db", .text "10.0.0.1")]),
      ("acls", .list [.record [("action", .text "accept"), ("src", .texts ["10.0.0.2"]),
        ("dst", .texts ["db:5432"])]]),
      ("tailnet", .record [
        ("keys", .record [("createReusableKey", .bool true)]),
        ("settings", .record settings),
        ("contacts", .record [("security", .text "security@example.com")])]) ]

/-- A client of a tailnet at the usual place. -/
def exampleClient : Client :=
  { apiKey := some "tskey-api-1", tailnet := "example.com", baseUrl := defaultBaseUrl
    timeout := .int 30, maxAttempts := 3 }

theorem ready_exampleClient : exampleClient.Ready := by
  refine Client.ready_of_default rfl ?_ (by decide +kernel)
  intro key hKey
  cases hKey
  exact List.all_iff_forall_prop.mp (by decide)

/-- Whether the settings of a source are all that cannot be sent of its plan. -/
def isHeldUpBySettings (source : Source) : Bool :=
  let plan := source.draft "example.com" true
  plan.succeeded &&
    (plan.changes.map DnsChange.call ++ plan.keys.map Call.createKey).all
      (Client.isSendable .usual) &&
    !Client.isSendable .usual (.updateSettings plan.settings)

theorem delivered_databasePolicy :
    ∃ source plan, read (databasePolicy []) "office" none = .ok source ∧
      source.plan "example.com" true = .ok plan ∧ plan.errors = [] ∧ exampleClient.Ready ∧
      exampleClient.halves = .usual ∧ (Wire.ofAnswers []).Obliging ∧
      ∃ document next attempts outcome,
        source.Publishes true document ∧
        plan.apply exampleClient.controlPlane (.ofAnswers []) false = (next, outcome) ∧
        plan.apply exampleClient.controlPlane.watched (.ofAnswers [], []) false =
          ((next, attempts), outcome) ∧
        plan.Delivered exampleClient document attempts outcome ∧
        Stage.acl.name ∈ outcome.applied.keys ∧
        (outcome.errors = [] ↔ source.tailnet.Sendable .usual) := by
  obtain ⟨source, hRead, hSucceeded⟩ := exists_ok_of_check (read (databasePolicy []) "office" none)
    (fun source => (source.draft "example.com" true).succeeded) (by decide +kernel)
  have hErrors := List.isEmpty_iff.mp hSucceeded
  have hPlan := plan_of_draft hErrors
  exact ⟨source, _, hRead, hPlan, hErrors, ready_exampleClient, rfl, .ofAnswers_nil,
    delivered_iff hRead hPlan hErrors ready_exampleClient rfl .ofAnswers_nil⟩

/-- A setting with one digit too many is found out when the policy is published, the name service is
set and the key is made. -/
theorem exists_half_applied :
    ∃ source plan next outcome,
      read (databasePolicy [("devicesKeyDurationDays", .int (Nat.pow 10 Integer.maxDigits))])
        "office" none = .ok source ∧
      source.plan "example.com" true = .ok plan ∧ plan.errors = [] ∧ exampleClient.Ready ∧
      (Wire.ofAnswers []).Obliging ∧
      plan.apply exampleClient.controlPlane (.ofAnswers []) false = (next, outcome) ∧
      outcome.errors ≠ [] ∧ outcome.applied.keys = ["acl", "dns", "keys"] := by
  obtain ⟨source, hRead, hHeldUp⟩ := exists_ok_of_check
    (read (databasePolicy [("devicesKeyDurationDays", .int (Nat.pow 10 Integer.maxDigits))])
      "office" none) isHeldUpBySettings (by decide +kernel)
  rw [isHeldUpBySettings, Bool.and_eq_true, Bool.and_eq_true, Bool.not_eq_true'] at hHeldUp
  obtain ⟨⟨hSucceeded, hOthers⟩, hSettings⟩ := hHeldUp
  have hErrors := List.isEmpty_iff.mp hSucceeded
  obtain ⟨document, hPublishes, hDocument⟩ := exists_document_of_draft hErrors
  have hParts := read_eq_ok_iff.mp hRead
  obtain ⟨options, -, hOptions⟩ := bind_eq_ok_iff.mp hParts.tailnet
  have hSplit : Stage.inOrder = [.acl, .dns, .keys] ++ .settings :: [] := rfl
  obtain ⟨contactCalls, hSettingsCalls⟩ : ∃ rest,
      (source.draft "example.com" true).settingsCalls =
        .updateSettings (source.draft "example.com" true).settings :: rest := ⟨_, rfl⟩
  have hCalls : (source.draft "example.com" true).calls document =
      [Stage.acl, .dns, .keys].flatMap ((source.draft "example.com" true).stageCalls document) ++
        .updateSettings (source.draft "example.com" true).settings :: contactCalls := by
    rw [Plan.calls_eq_flatMap, hSplit, List.flatMap_append, List.flatMap_singleton,
      Plan.stageCalls, hSettingsCalls]
  have hFront : ∀ call ∈
      [Stage.acl, .dns, .keys].flatMap ((source.draft "example.com" true).stageCalls document),
        Client.isSendable exampleClient.halves call = true := by
    have hAcl := hPublishes.areAbsent
    rw [hParts.halves] at hAcl
    rw [List.flatMap_cons, List.forall_mem_append]
    refine ⟨List.forall_mem_singleton.mpr hAcl, fun call hCall => ?_⟩
    rw [List.flatMap_cons, List.flatMap_singleton] at hCall
    exact List.all_eq_true.mp hOthers call hCall
  obtain ⟨next, cause, attempts, outcome, -, rfl, hPlain, -, hAccounts⟩ :=
    Plan.exists_accounts_of_front (contacts_of_tailnetOptions hOptions) hErrors hDocument
      ready_exampleClient .ofAnswers_nil hCalls hFront hSettings
  obtain ⟨stage, -, hFailed⟩ := hAccounts.errors_of_some _ rfl
  refine ⟨source, _, next, outcome, hRead, plan_of_draft hErrors, hErrors, ready_exampleClient,
    .ofAnswers_nil, hPlain, hFailed ▸ List.cons_ne_nil _ _, ?_⟩
  rw [hAccounts.applied, returnedCount_stopped, hSplit,
    completed_of_front (List.cons_ne_nil _ _)]
  rfl

end Source

end Tailnet
