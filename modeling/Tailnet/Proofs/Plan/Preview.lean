import Tailnet.Http.Client
import Tailnet.Plan.Recording
import Tailnet.Proofs.Plan.Application
import Tailnet.Proofs.Value

/-!
Plans as previews. The entries of a plan stand for the calls that an application makes, one for one
and in their order, and each tells what its call sends, but for the description of a key. The one
exception is a domain `kind` with servers of its own, whose servers take the place of the name of
the call.
-/

namespace Tailnet

namespace Value

/-- The entries of a mapping under keys other than a text. -/
def entriesBut (name : String) : Value → Mapping
  | .map entries => entries.filter fun entry => !(entry.1 == .text name)
  | _ => []

theorem entriesBut_record {fields : List (String × Value)} {name : String}
    (h : name ∉ Table.keys fields) : (record fields).entriesBut name = recordEntries fields := by
  rw [record, entriesBut, recordEntries, List.filter_eq_self]
  intro entry hEntry
  obtain ⟨field, hField, rfl⟩ := List.mem_map.mp hEntry
  have hNe : field.1 ≠ name := fun hEq => h (hEq ▸ List.mem_map_of_mem hField)
  change (!(field.1 == name)) = true
  simpa using hNe

end Value

namespace DnsChange

/-- What an entry of a plan must tell of a change to the name service: its kind and, besides, just
the fields that are sent for it. -/
structure ToldBy (change : DnsChange) (entry : Value) : Prop where
  kind : entry.field? "kind" = some (.text change.kind)
  rest : entry.entriesBut "kind" = recordEntries change.payload

theorem dnsSummary_eq (change : DnsChange) :
    Plan.dnsSummary change =
      .record (Table.update [("kind", .text change.kind)] change.payload) :=
  congrArg Value.map (update_recordEntries [("kind", .text change.kind)] change.payload)

/-- No field of a change is a text. -/
theorem ne_text_of_mem_payload {change : DnsChange} {name : String} {value : Value}
    (h : (name, value) ∈ change.payload) (s : String) : value ≠ .text s := by
  cases change with
  | preferences magicDns =>
      obtain ⟨-, rfl⟩ : name = _ ∧ value = .bool magicDns := by simpa [payload] using h
      nofun
  | searchPaths paths =>
      obtain ⟨-, rfl⟩ : name = _ ∧ value = .texts paths := by simpa [payload] using h
      nofun
  | nameservers servers =>
      obtain ⟨-, rfl⟩ : name = _ ∧ value = .texts servers := by simpa [payload] using h
      nofun
  | splitDns routes =>
      obtain ⟨route, -, hRoute⟩ := List.mem_map.mp h
      cases hRoute
      nofun

/-- A change is told unless one of its fields takes the place of its kind. -/
theorem toldBy_dnsSummary_iff {change : DnsChange} (h : (Table.keys change.payload).Nodup) :
    change.ToldBy (Plan.dnsSummary change) ↔ "kind" ∉ Table.keys change.payload := by
  rw [dnsSummary_eq]
  constructor
  · intro hTold hIn
    have hKind := hTold.kind
    obtain ⟨value, hValue⟩ := Option.ne_none_iff_exists'.mp
      (fun hNone => Table.get?_eq_none_iff.mp hNone hIn)
    rw [Value.field?_record, Table.get?_update h, hValue, Option.some_or, Option.some_inj] at hKind
    exact ne_text_of_mem_payload (Table.mem_of_get?_eq_some hValue) _ hKind
  · intro hFree
    have hNames : (Table.keys ([("kind", Value.text change.kind)] ++ change.payload)).Nodup :=
      List.nodup_cons.mpr ⟨hFree, h⟩
    rw [Table.update_eq_append hNames]
    refine ⟨?_, ?_⟩
    · rw [Value.field?_record]
      rfl
    · exact Value.entriesBut_record hFree

end DnsChange

namespace DnsOptions

variable {options : DnsOptions} {changes : List DnsChange}

/-- The preference is always set; the rest only if there is something to set. -/
theorem eq_of_plan (h : options.plan = .ok changes) :
    changes = .preferences options.magicDns ::
      (if options.searchPaths.isEmpty then [] else [.searchPaths options.searchPaths]) ++
      (if options.nameservers.isEmpty then [] else [.nameservers options.nameservers]) ++
      (if options.splitDns.isEmpty then [] else [.splitDns options.splitDns]) := by
  obtain ⟨-, -, hChecked⟩ := bind_eq_ok_iff.mp h
  obtain ⟨-, -, hChanges⟩ := bind_eq_ok_iff.mp hChecked
  exact (pure_eq_ok_iff.mp hChanges).symm

theorem keys_payload_splitDns (routes : Table String (List String)) :
    Table.keys (DnsChange.splitDns routes).payload = routes.keys := by
  simp [DnsChange.payload, Table.keys, Function.comp_def]

/-- All changes are told unless there is a domain whose servers take the place of a kind. -/
theorem toldBy_iff (h : options.plan = .ok changes) (hDomains : options.splitDns.keys.Nodup) :
    (∀ change ∈ changes, change.ToldBy (Plan.dnsSummary change)) ↔
      "kind" ∉ options.splitDns.keys := by
  have hSplit : (DnsChange.splitDns options.splitDns).ToldBy
      (Plan.dnsSummary (.splitDns options.splitDns)) ↔ "kind" ∉ options.splitDns.keys := by
    rw [DnsChange.toldBy_dnsSummary_iff, keys_payload_splitDns]
    rw [keys_payload_splitDns]
    exact hDomains
  have hOther (change : DnsChange) (hKeys : ∃ name, Table.keys change.payload = [name] ∧
      name ≠ "kind") : change.ToldBy (Plan.dnsSummary change) := by
    obtain ⟨name, hKeys, hName⟩ := hKeys
    rw [DnsChange.toldBy_dnsSummary_iff (hKeys ▸ List.nodup_singleton name), hKeys]
    simpa using Ne.symm hName
  rw [eq_of_plan h]
  constructor
  · intro hAll hKind
    have hSome : options.splitDns.isEmpty = false := by
      cases hRoutes : options.splitDns with
      | nil => simp [hRoutes, Table.keys] at hKind
      | cons route rest => rfl
    exact hSplit.mp (hAll _ (by simp [hSome])) hKind
  · intro hFree change hChange
    simp only [List.cons_append, List.mem_cons, List.mem_append] at hChange
    rcases hChange with rfl | (hChange | hChange) | hChange
    · exact hOther _ ⟨"magicDNS", rfl, by decide⟩
    all_goals split at hChange
    all_goals first | cases hChange; done | (obtain rfl := List.mem_singleton.mp hChange)
    · exact hOther _ ⟨"searchPaths", rfl, by decide⟩
    · exact hOther _ ⟨"dns", rfl, by decide⟩
    · exact hSplit.mpr hFree

end DnsOptions

namespace KeyRequest

/-- What an entry of a plan tells of a key: all that is asked for but the description. -/
structure ToldBy (request : KeyRequest) (entry : Value) : Prop where
  name : entry.field? "name" = some (.text request.name)
  reusable : entry.field? "reusable" = some (.bool request.reusable)
  ephemeral : entry.field? "ephemeral" = some (.bool request.ephemeral)
  preauthorized : entry.field? "preauthorized" = some (.bool request.preauthorized)
  expirySeconds : entry.field? "expirySeconds" = some (.int request.expirySeconds)
  tags : entry.field? "tags" = some (.texts request.tags)

/-- What an entry would have to tell of a key to show it whole. -/
structure WhollyToldBy (request : KeyRequest) (entry : Value) : Prop extends
    request.ToldBy entry where
  description : entry.field? "description" = some (.text request.description)

theorem toldBy_summary (request : KeyRequest) : request.ToldBy request.summary :=
  ⟨rfl, rfl, rfl, rfl, rfl, rfl⟩

/-- No entry of a plan tells the description of a key. -/
theorem not_whollyToldBy_summary (request : KeyRequest) :
    ¬request.WhollyToldBy request.summary := by
  intro h
  have hNone : request.summary.field? "description" = none := rfl
  cases hNone.symm.trans h.description

end KeyRequest

/-- What an entry in a section of a plan must tell of a call for the plan to show it, given what it
must tell of a key. What a change to the name service tells is what any client sends for it. -/
def Call.ShownBy (tells : KeyRequest → Value → Prop) (section_ : String) (entry : Value) :
    Call → Prop
  | .setAcl document =>
    section_ = "acl" ∧ entry.field? "size" = some (.int (Text.bytesOf document).length) ∧
      entry.field? "sha256" = some (.text (documentId document))
  | .createKey request => section_ = "keys" ∧ tells request entry
  | .updateSettings settings => section_ = "settings" ∧ entry = .map settings
  | .updateContact type email =>
    section_ = "contacts" ∧ entry = .record [("type", .text type), ("email", .text email)]
  | call =>
    section_ = "dns" ∧ ∃ change : DnsChange, change.call = call ∧ change.ToldBy entry ∧
      ∀ client : Http.Client, (client.order call).body = .json (.record change.payload)

theorem DnsChange.call_injective : Function.Injective DnsChange.call := by
  intro change other h
  cases change <;> cases other <;> simp_all [call]

theorem DnsChange.shownBy_iff {tells : KeyRequest → Value → Prop} (change : DnsChange)
    (section_ : String) (entry : Value) :
    change.call.ShownBy tells section_ entry ↔ section_ = "dns" ∧ change.ToldBy entry := by
  have hSent (client : Http.Client) :
      (client.order change.call).body = .json (.record change.payload) := by
    cases change <;> rfl
  have hShown : change.call.ShownBy tells section_ entry ↔ section_ = "dns" ∧ ∃ other : DnsChange,
      other.call = change.call ∧ other.ToldBy entry ∧
        ∀ client : Http.Client,
          (client.order change.call).body = .json (.record other.payload) := by
    cases change <;> rfl
  rw [hShown]
  constructor
  · rintro ⟨hSection, other, hCall, hTold, -⟩
    exact ⟨hSection, call_injective hCall ▸ hTold⟩
  · rintro ⟨hSection, hTold⟩
    exact ⟨hSection, change, rfl, hTold, hSent⟩

namespace Plan

variable {plan : Plan} {document : String} {changes : List DnsChange}

/-- The entries of a plan in order, each with the section in which it stands. -/
def entries (plan : Plan) : List (String × Value) :=
  plan.resources.flatMap fun (section_, list) => list.map (section_, ·)

/-- The entries of a plan, each beside the call that it stands for. -/
def entriesWithCalls (plan : Plan) (document : String) : List ((String × Value) × Call) :=
  (("acl", plan.documentSummary document), .setAcl document) ::
    (plan.changes.map (fun change => (("dns", dnsSummary change), change.call)) ++
      plan.keys.map (fun request => (("keys", request.summary), .createKey request)) ++
      (("settings", .map plan.settings), .updateSettings plan.settings) ::
        plan.contacts.map fun contact =>
          (("contacts", contactSummary contact), .updateContact contact.1 contact.2))

theorem map_fst_entriesWithCalls (hDocument : plan.document = some document)
    (hDns : plan.dns = some changes) :
    (plan.entriesWithCalls document).map Prod.fst = plan.entries := by
  have hKeys : (if plan.keys.isEmpty then [] else [("keys", plan.keys.map KeyRequest.summary)]
      : List (String × List Value)).flatMap (fun (section_, list) => list.map (section_, ·)) =
      plan.keys.map fun request => ("keys", request.summary) := by
    cases plan.keys <;> simp
  have hContacts : (if plan.contacts.isEmpty then []
      else [("contacts", plan.contacts.map contactSummary)]
      : List (String × List Value)).flatMap (fun (section_, list) => list.map (section_, ·)) =
      plan.contacts.map fun contact => ("contacts", contactSummary contact) := by
    cases plan.contacts <;> simp
  simp only [entries, resources, hDocument, hDns, List.flatMap_append, hKeys, hContacts]
  simp [entriesWithCalls, Plan.changes, hDns, Function.comp_def]

theorem map_snd_entriesWithCalls (plan : Plan) (document : String) :
    (plan.entriesWithCalls document).map Prod.snd = plan.calls document := by
  simp [entriesWithCalls, calls, settingsCalls, Function.comp_def]

theorem total_eq_length_entries (plan : Plan) : plan.total = plan.entries.length := by
  simp [total, entries, List.length_flatMap]

/-- Of all entries only those of the name service and of keys can fail to show their calls. -/
theorem shownBy_iff {tells : KeyRequest → Value → Prop} (hDns : plan.dns = some changes) :
    (∀ pair ∈ plan.entriesWithCalls document, pair.2.ShownBy tells pair.1.1 pair.1.2) ↔
      (∀ change ∈ changes, change.ToldBy (dnsSummary change)) ∧
        ∀ request ∈ plan.keys, tells request request.summary := by
  have hChanges : plan.changes = changes := by rw [Plan.changes, hDns, Option.getD_some]
  simp only [entriesWithCalls, hChanges, List.forall_mem_cons, List.forall_mem_append,
    List.forall_mem_map, DnsChange.shownBy_iff]
  constructor
  · rintro ⟨-, ⟨hShown, hKeys⟩, -⟩
    exact ⟨fun change hChange => (hShown change hChange).2,
      fun request hRequest => (hKeys request hRequest).2⟩
  · rintro ⟨hTold, hKeys⟩
    exact ⟨⟨rfl, rfl, rfl⟩, ⟨fun change hChange => ⟨trivial, hTold change hChange⟩,
      fun request hRequest => ⟨rfl, hKeys request hRequest⟩⟩, ⟨rfl, rfl⟩, fun _ _ => ⟨rfl, rfl⟩⟩

/-- No key is shown whole. -/
theorem whollyToldBy_iff (plan : Plan) :
    (∀ request ∈ plan.keys, request.WhollyToldBy request.summary) ↔ plan.keys = [] := by
  refine ⟨fun hAll => List.eq_nil_iff_forall_not_mem.mpr fun request hRequest => ?_,
    fun hNone => ?_⟩
  · exact request.not_whollyToldBy_summary (hAll request hRequest)
  · rw [hNone]
    exact List.forall_mem_nil _

/-- The stages of an application in which nothing fails count its calls. -/
theorem total_of_accounts {run : Run} (h : plan.Accounts document run none) :
    run.outcome.total = (plan.calls document).length := by
  have hCalls : (plan.calls document).length =
      (Stage.inOrder.flatMap (plan.stageCalls document)).length := by
    rw [calls_eq_flatMap]
  rw [Outcome.total, h.applied, h.follows.returnedCount_of_none, hCalls, completed_of_all,
    ← hCalls]
  simp only [Stage.inOrder, List.map_cons, List.map_nil, Table.values, List.foldl_cons,
    List.foldl_nil, hCalls, List.flatMap_cons, List.flatMap_nil, List.length_append,
    List.length_nil]
  omega

end Plan

namespace Source

variable {source : Source} {tailnet : String} {lint : Bool}

/-- A draft without errors is the plan. -/
theorem plan_of_draft (h : (source.draft tailnet lint).errors = []) :
    source.plan tailnet lint = .ok (source.draft tailnet lint) := by
  unfold Source.plan
  cases hCompile : source.compile lint (some 2) with
  | error cause => simp [draft, hCompile] at h
  | ok compilation => rfl

theorem dns_of_draft (h : (source.draft tailnet lint).errors = []) :
    ∃ changes, source.tailnet.dns.plan = .ok changes ∧
      (source.draft tailnet lint).dns = some changes := by
  cases hDns : source.tailnet.dns.plan with
  | error cause => simp [draft, hDns] at h
  | ok changes => exact ⟨changes, rfl, by simp [draft, hDns, Except.toOption]⟩

/-- A draft without errors holds what is to be published. -/
theorem exists_document_of_draft (h : (source.draft tailnet lint).errors = []) :
    ∃ document, source.Publishes lint document ∧
      (source.draft tailnet lint).document = some document := by
  rcases source.blocked_or_publishes tailnet lint with ⟨-, hErrors⟩ | ⟨-, -, hFree⟩
  · exact absurd h hErrors
  · exact hFree

/-- Which entries of a source's draft show the calls of the plan. -/
theorem forall₂_shownBy_iff {tells : KeyRequest → Value → Prop} {document : String}
    (hDomains : source.tailnet.dns.splitDns.keys.Nodup)
    (hDraft : (source.draft tailnet lint).errors = [])
    (hDocument : (source.draft tailnet lint).document = some document) :
    List.Forall₂ (fun entry call => call.ShownBy tells entry.1 entry.2)
        (source.draft tailnet lint).entries ((source.draft tailnet lint).calls document) ↔
      "kind" ∉ source.tailnet.dns.splitDns.keys ∧
        ∀ request ∈ (source.draft tailnet lint).keys, tells request request.summary := by
  obtain ⟨changes, hChanges, hDns⟩ := dns_of_draft hDraft
  rw [← Plan.map_fst_entriesWithCalls hDocument hDns, ← Plan.map_snd_entriesWithCalls,
    List.forall₂_map_left_iff, List.forall₂_map_right_iff, List.forall₂_same,
    Plan.shownBy_iff hDns, DnsOptions.toldBy_iff hChanges hDomains]

/-- The plan of a source shows what an application does. Through a control plane that never fails,
just the calls of the plan are made, in order, each counted in the plan and in the outcome. The
entries of the plan show them one for one, exactly if no domain with servers of its own is called
`kind`; of a key they do not show the description, so that they show all calls whole exactly if
moreover no key is made. -/
theorem plan_shows_calls_iff {σ : Type} {plan : Plan} (plane : ControlPlane σ) (state : σ)
    (hDomains : source.tailnet.dns.splitDns.keys.Nodup)
    (hPlan : source.plan tailnet lint = .ok plan) (hErrors : plan.errors = [])
    (hNeverFails : ∀ state call, ∃ reply, (plane.perform state call).2 = .ok reply) :
    ∃ document next outcome,
      plan.apply plane state false = (next, outcome) ∧
      plan.apply plane.watched (state, []) false =
        ((next, (plan.calls document).map fun call => ⟨call, none⟩), outcome) ∧
      source.Publishes lint document ∧ outcome.errors = [] ∧
      plan.total = (plan.calls document).length ∧
      outcome.total = (plan.calls document).length ∧
      (List.Forall₂ (fun entry call => call.ShownBy KeyRequest.ToldBy entry.1 entry.2)
        plan.entries (plan.calls document) ↔ "kind" ∉ source.tailnet.dns.splitDns.keys) ∧
      (List.Forall₂ (fun entry call => call.ShownBy KeyRequest.WhollyToldBy entry.1 entry.2)
        plan.entries (plan.calls document) ↔
          "kind" ∉ source.tailnet.dns.splitDns.keys ∧ plan.keys = []) := by
  obtain ⟨rfl, -⟩ := (source.plan_eq_ok_iff tailnet lint).mp hPlan
  obtain ⟨changes, hChanges, hDns⟩ := dns_of_draft hErrors
  obtain ⟨document, hPublishes, hDocument⟩ := exists_document_of_draft hErrors
  have hServes (call : Call) : plane.Serves (fun _ => True) call := by
    intro before _
    obtain ⟨reply, hReply⟩ := hNeverFails before call
    exact ⟨_, reply, Prod.ext rfl hReply, trivial⟩
  obtain ⟨final, hCalls, -⟩ := ControlPlane.performAll_of_serves
    (fun call (_ : call ∈ (source.draft tailnet lint).calls document) => hServes call)
    (trivial : (fun _ => True) state)
  obtain ⟨run, hReal, hMakes, -, hAccounts⟩ :=
    Plan.exists_run_real plane state [] hErrors hDocument hCalls
  have hPlain := hMakes.plain
  have hWatched := hMakes.watched
  rw [hReal] at hPlain hWatched
  rw [List.nil_append, hAccounts.follows.attempts_of_none] at hWatched
  refine ⟨document, _, run.outcome, Prod.ext rfl hPlain, hWatched, hPublishes,
    hAccounts.errors_of_none rfl, ?_, Plan.total_of_accounts hAccounts, ?_, ?_⟩
  · rw [Plan.total_eq_length_entries, ← Plan.map_fst_entriesWithCalls hDocument hDns,
      ← Plan.map_snd_entriesWithCalls, List.length_map, List.length_map]
  · rw [forall₂_shownBy_iff hDomains hErrors hDocument]
    exact and_iff_left fun request _ => request.toldBy_summary
  · rw [forall₂_shownBy_iff hDomains hErrors hDocument, Plan.whollyToldBy_iff]

/-- The office source for a tailnet with name servers of its own, a key and a contact. -/
def officeTailnetSource : Source :=
  { officeSource with
    tailnet := { usualOptions with
      dns := {
        searchPaths := ["example.com"], nameservers := ["1.1.1.1"],
        splitDns := [("corp.example.com", ["10.0.0.53"])] }
      keys := { usualOptions.keys with reusable := true, tags := ["tag:server"] }
      contacts := [("security", "security@example.com")] } }

theorem plan_shows_calls_officeTailnetSource :
    officeTailnetSource.tailnet.dns.splitDns.keys.Nodup ∧
    (∀ state call, ∃ reply, ((ControlPlane.recording none).perform state call).2 = .ok reply) ∧
    ∃ plan, officeTailnetSource.plan "example.com" true = .ok plan ∧ plan.errors = [] ∧
      ∃ document next outcome,
        plan.apply (.recording none) [] false = (next, outcome) ∧
        plan.apply (ControlPlane.recording none).watched ([], []) false =
          ((next, (plan.calls document).map fun call => ⟨call, none⟩), outcome) ∧
        officeTailnetSource.Publishes true document ∧ outcome.errors = [] ∧
        plan.total = (plan.calls document).length ∧
        outcome.total = (plan.calls document).length ∧
        (List.Forall₂ (fun entry call => call.ShownBy KeyRequest.ToldBy entry.1 entry.2)
          plan.entries (plan.calls document) ↔
            "kind" ∉ officeTailnetSource.tailnet.dns.splitDns.keys) ∧
        (List.Forall₂ (fun entry call => call.ShownBy KeyRequest.WhollyToldBy entry.1 entry.2)
          plan.entries (plan.calls document) ↔
            "kind" ∉ officeTailnetSource.tailnet.dns.splitDns.keys ∧ plan.keys = []) := by
  have hDomains : officeTailnetSource.tailnet.dns.splitDns.keys.Nodup := by decide
  have hErrors : (officeTailnetSource.draft "example.com" true).errors = [] := by decide +kernel
  have hPlan := plan_of_draft hErrors
  have hNeverFails (state : List Call) (call : Call) :
      ∃ reply, ((ControlPlane.recording none).perform state call).2 = .ok reply := by
    cases call <;> exact ⟨_, rfl⟩
  exact ⟨hDomains, hNeverFails, _, hPlan, hErrors,
    plan_shows_calls_iff (.recording none) [] hDomains hPlan hErrors hNeverFails⟩

/-- The office source for a tailnet in which the domain `kind` has a name server of its own. -/
def kindDomainSource : Source :=
  { officeSource with
    tailnet := { usualOptions with dns := { splitDns := [("kind", ["1.1.1.1"])] } } }

/-- The plan shows the change for the domain `kind` without a word that it is one of split domains,
and shows its call by no entry. Nor does a plan show the description of a key that is made. -/
theorem exists_call_not_shown :
    (∃ plan document, kindDomainSource.plan "example.com" true = .ok plan ∧ plan.errors = [] ∧
      plan.document = some document ∧
      ("dns", .record [("kind", .texts ["1.1.1.1"])]) ∈ plan.entries ∧
      ¬ List.Forall₂ (fun entry call => call.ShownBy KeyRequest.ToldBy entry.1 entry.2)
        plan.entries (plan.calls document)) ∧
    ∃ plan document, officeTailnetSource.plan "example.com" true = .ok plan ∧ plan.errors = [] ∧
      plan.document = some document ∧
      ¬ List.Forall₂ (fun entry call => call.ShownBy KeyRequest.WhollyToldBy entry.1 entry.2)
        plan.entries (plan.calls document) := by
  have hKind : (kindDomainSource.draft "example.com" true).errors = [] := by decide +kernel
  have hOffice : (officeTailnetSource.draft "example.com" true).errors = [] := by decide +kernel
  obtain ⟨changes, hChanges, hDns⟩ := dns_of_draft hKind
  obtain ⟨document, -, hDocument⟩ := exists_document_of_draft hKind
  obtain ⟨other, -, hOther⟩ := exists_document_of_draft hOffice
  have hSplit : changes = [.preferences true, .splitDns [("kind", ["1.1.1.1"])]] :=
    DnsOptions.eq_of_plan hChanges
  refine ⟨⟨_, document, plan_of_draft hKind, hKind, hDocument, ?_, ?_⟩,
    _, other, plan_of_draft hOffice, hOffice, hOther, ?_⟩
  · have hEntry : (("dns", Plan.dnsSummary (.splitDns [("kind", ["1.1.1.1"])])),
        Call.setSplitDns [("kind", ["1.1.1.1"])]) ∈
          (kindDomainSource.draft "example.com" true).entriesWithCalls document := by
      simp [Plan.entriesWithCalls, Plan.changes, hDns, hSplit, DnsChange.call]
    rw [← Plan.map_fst_entriesWithCalls hDocument hDns]
    exact List.mem_map_of_mem hEntry
  · rw [forall₂_shownBy_iff (by decide) hKind hDocument]
    exact fun hBoth => absurd hBoth.1 (by decide)
  · rw [forall₂_shownBy_iff (by decide) hOffice hOther, Plan.whollyToldBy_iff]
    exact fun hBoth => absurd hBoth.2 (by decide)

end Source

end Tailnet
