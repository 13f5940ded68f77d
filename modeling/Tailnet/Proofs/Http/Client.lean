import Tailnet.Http.Client
import Tailnet.Proofs.Http.Lawful
import Tailnet.Proofs.Http.Url
import Tailnet.Proofs.Json.Reader
import Tailnet.Proofs.Json.Writer
import Tailnet.Proofs.Plan.Attempts
import Tailnet.Proofs.Policy.Encoding

/-!
A client over a network that answers every request with success. Its calls return exactly if their
bodies can be written and have no surrogates; any other body is found out before it is sent.
-/

namespace Tailnet

/-- The path of what a call is about, behind that of the tailnet. -/
def Call.suffix : Call → String
  | setAcl _ => "acl"
  | setDnsPreferences _ => "dns/preferences"
  | setSearchPaths _ => "dns/searchpaths"
  | setNameservers _ => "dns/nameservers"
  | setSplitDns _ => "dns/split-dns"
  | createKey _ => "keys"
  | updateSettings _ => "settings"
  | updateContact type _ => "contacts/" ++ type

namespace Http

/-- A response with status 200 and a JSON object, which is not compressed. An empty body stands for
an empty object. -/
structure Response.IsObject (response : Response) : Prop where
  status : response.status = 200
  headers : ∃ headers, Headers.ofEntries response.headers = .ok headers ∧
    isCompressed headers = false
  body : ∃ data, response.value = .ok (.map data)

/-- What a response says can be shown. -/
theorem Response.isShort_of_value {response : Response} {value : Value}
    (h : response.value = .ok value) : value.isShort = true := by
  unfold Response.value at h
  split at h
  · cases h
    rfl
  · obtain ⟨cs, -, hRead⟩ := bind_eq_ok_iff.mp h
    exact Json.isShort_of_readChars (mapError_eq_ok_iff.mp hRead)

/-- A response with status 200 leads nowhere else, and means what its body says. -/
theorem Response.result_of_ok {response : Response} (h : response.status = 200) (url : Url) :
    response.result url = (do
      let headers ← (Headers.ofEntries response.headers).mapError SendError.header
      response.checkCompression headers
      if !url.isFull then throw (.unknownScheme url.text)
      response.value) := by
  have hRedirect (headers : Headers) : response.redirect? headers = none := by
    rw [redirect?, h]
    rfl
  have hFinal : isRetryableStatus (response.status : Int) = false := by
    rw [h]
    rfl
  have hSuccess : isSuccess response.status = true := by
    rw [h]
    rfl
  rw [result]
  simp only [hRedirect, hFinal, hSuccess, Bool.false_eq_true, if_false, if_true]
  rfl

theorem Response.IsObject.result {response : Response} (h : response.IsObject) {url : Url}
    (hUrl : url.isFull = true) : response.result url = response.value := by
  obtain ⟨headers, hHeaders, hPlain⟩ := h.headers
  have hCompression : response.checkCompression headers = .ok () := by
    rw [checkCompression, hPlain, Bool.false_and]
    rfl
  rw [result_of_ok h.status, hHeaders]
  simp only [Except.mapError, ok_bind, hCompression, hUrl, Bool.not_true, Bool.false_eq_true,
    if_false]

/-- A network with a closed breaker that answers every request with success and an object. -/
structure Wire.Obliging (wire : Wire) : Prop where
  closed : wire.breaker.openedAt = none
  answers : ∀ answer ∈ wire.answers, ∃ response, answer = .response response ∧ response.IsObject

namespace Wire

theorem isObject_lastAnswer : ∃ response, lastAnswer = .response response ∧ response.IsObject := by
  have hText : Json.textOf (Text.bytesOf "\x7b\x7d") = .ok ['\x7b', '\x7d'] := by
    have hBytes : Text.bytesOf "\x7b\x7d" = [0x7B, 0x7D] := by decide +kernel
    have hChars : Text.ofBytes [0x7B, 0x7D] = ['\x7b', '\x7d'] := by decide +kernel
    rw [hBytes, Json.textOf, Json.Form.ofBytes]
    simp only [hChars]
    rfl
  refine ⟨_, rfl, rfl, ⟨[], rfl, rfl⟩, [], ?_⟩
  rw [Response.value, if_neg (by decide), hText]
  rfl

theorem Obliging.ofAnswers_nil : (ofAnswers []).Obliging :=
  ⟨rfl, List.forall_mem_nil _⟩

variable {wire : Wire}

theorem Obliging.admits (h : wire.Obliging) : wire.breaker.admits wire.now = true :=
  Breaker.admits_of_none h.closed wire.now

/-- A request is answered with an object that can be shown. -/
theorem Obliging.attempt_ok (h : wire.Obliging) (request : Request)
    (hUrl : request.url.isFull = true) :
    ∃ next data, wire.attempt (.ok request) = (next, .ok (.map data)) ∧ next.Obliging ∧
      (Value.map data).isShort = true := by
  obtain ⟨response, hAnswer, hObject⟩ :
      ∃ response, wire.answers.headD lastAnswer = .response response ∧ response.IsObject := by
    cases hAnswers : wire.answers with
    | nil => exact isObject_lastAnswer
    | cons answer rest => exact h.answers answer (hAnswers ▸ List.mem_cons_self)
  obtain ⟨data, hData⟩ := hObject.body
  have hResult : Answer.result (wire.answers.headD lastAnswer) request.url = .ok (.map data) := by
    rw [hAnswer, Answer.result, hObject.result hUrl, hData]
  refine ⟨(wire.exchange request).1.note (α := Value) (.ok (.map data)), data, ?_, ⟨rfl, ?_⟩,
    Response.isShort_of_value hData⟩
  · rw [attempt, h.admits, Bool.not_true, if_neg Bool.false_ne_true]
    simp only [exchange, hResult]
  · exact fun answer hIn => h.answers answer (List.mem_of_mem_drop hIn)

/-- A request that cannot be formed fails with the reason. -/
theorem Obliging.attempt_error (h : wire.Obliging) (cause : SendError)
    (hFinal : cause.isRetryable = false) :
    ∃ next, wire.attempt (.error cause) = (next, .error cause) ∧ next.Obliging := by
  refine ⟨wire.note (α := Value) (.error cause), ?_, ?_⟩
  · rw [attempt, h.admits, Bool.not_true, if_neg Bool.false_ne_true]
  · cases cause with
    | retryable => cases hFinal
    | _ => exact ⟨rfl, h.answers⟩

theorem Obliging.send_ok (h : wire.Obliging) (maxAttempts : Int) (request : Request)
    (hUrl : request.url.isFull = true) :
    ∃ next data, wire.send maxAttempts (.ok request) = (next, .ok (.map data)) ∧
      next.Obliging ∧ (Value.map data).isShort = true := by
  obtain ⟨next, data, hAttempt, hNext, hData⟩ := h.attempt_ok request hUrl
  refine ⟨next, data, ?_, hNext, hData⟩
  rw [send, hAttempt]
  exact (isRetrying _).final _ _ _ rfl

theorem Obliging.send_error (h : wire.Obliging) (maxAttempts : Int) (cause : SendError)
    (hFinal : cause.isRetryable = false) :
    ∃ next, wire.send maxAttempts (.error cause) = (next, .error cause) ∧ next.Obliging := by
  obtain ⟨next, hAttempt, hNext⟩ := h.attempt_error cause hFinal
  refine ⟨next, ?_, hNext⟩
  rw [send, hAttempt]
  exact (isRetrying _).final _ _ _ hFinal

end Wire

namespace Client

variable {client : Client} {wire : Wire}

/-- The paths of all that calls are about. -/
def suffixes : List String :=
  ["acl", "dns/preferences", "dns/searchpaths", "dns/nameservers", "dns/split-dns", "keys",
    "settings"] ++ contactTypes.map ("contacts/" ++ ·)

/-- A path leads to a place at which a request can be made. -/
structure Reaches (client : Client) (path : String) (url : Url) : Prop where
  read : Url.read (client.root ++ path) = .ok url
  isFull : url.isFull = true
  host : checkHost url = .ok ()

/-- Whatever a client asks for can be asked, apart from what is sent along: its key can stand in a
header, and its paths lead to places. -/
structure Ready (client : Client) : Prop where
  key : ∀ key, client.apiKey = some key → ∀ c ∈ key.toList, c.toNat < 0x80
  reaches : ∀ suffix ∈ suffixes, ∃ url, client.Reaches (client.path suffix) url

/-- What a client with the default base URL puts in front of a path. -/
theorem root_of_default (hBase : client.baseUrl = defaultBaseUrl) :
    client.root = defaultBaseUrl := by
  rw [root, hBase]
  decide +kernel

theorem toList_default_path (client : Client) (suffix : String) :
    (defaultBaseUrl ++ client.path suffix).toList =
      Url.defaultStart ++ '/' :: ("api/v2" ++ client.path suffix).toList := by
  have hStart : defaultBaseUrl.toList = Url.defaultStart ++ '/' :: "api/v2".toList := by
    decide +kernel
  rw [String.toList_append, hStart, String.toList_append, List.append_assoc, List.cons_append]

theorem isPathChar_suffix {suffix : String} (hSuffix : suffix ∈ suffixes) :
    ∀ c ∈ suffix.toList, Url.isPathChar c = true := by
  have hSuffixes : suffixes.all (fun suffix => suffix.toList.all Url.isPathChar) = true := by
    decide +kernel
  simp only [List.all_eq_true] at hSuffixes
  exact hSuffixes suffix hSuffix

/-- The paths of all that calls are about may stand in a URL as they are. -/
theorem isPathChar_path (client : Client) {suffix : String} (hSuffix : suffix ∈ suffixes) :
    ∀ c ∈ (client.path suffix).toList, Url.isPathChar c = true := by
  have hBetween : "/tailnet/".toList.all Url.isPathChar = true ∧
      "/".toList.all Url.isPathChar = true := by decide
  simp only [List.all_eq_true] at hBetween
  simp only [path, String.toList_append, String.toList_ofList, List.forall_mem_append]
  exact ⟨⟨⟨hBetween.1, fun c hc => isPathChar_of_mem_segment hc⟩, hBetween.2⟩,
    isPathChar_suffix hSuffix⟩

/-- The same of the path from the root of the default host. -/
theorem isPathChar_default_path (client : Client) {suffix : String} (hSuffix : suffix ∈ suffixes) :
    ∀ c ∈ ("api/v2" ++ client.path suffix).toList, Url.isPathChar c = true := by
  have hStart : "api/v2".toList.all Url.isPathChar = true := by decide
  rw [List.all_eq_true] at hStart
  rw [String.toList_append, List.forall_mem_append]
  exact ⟨hStart, isPathChar_path client hSuffix⟩

/-- A client with the default base URL is ready if its key consists of ASCII characters and none of
its URLs is too long. -/
theorem ready_of_default (hBase : client.baseUrl = defaultBaseUrl)
    (hKey : ∀ key, client.apiKey = some key → ∀ c ∈ key.toList, c.toNat < 0x80)
    (hLength : ∀ suffix ∈ suffixes,
      (defaultBaseUrl ++ client.path suffix).toList.length ≤ Url.maxLength) : client.Ready := by
  refine ⟨hKey, fun suffix hSuffix => ?_⟩
  have hRead := Url.read_default (client.toList_default_path suffix)
    (client.isPathChar_default_path hSuffix) (hLength suffix hSuffix)
  rw [← root_of_default hBase] at hRead
  exact ⟨_, hRead, rfl, Url.checkHost_default rfl rfl⟩

/-- The headers of a client with a fitting key are headers, and none of them names the host. -/
theorem Ready.exists_headers (h : client.Ready) :
    ∃ headers, Headers.ofEntries client.headers = .ok headers ∧ headers.get? "Host" = none := by
  have hType : Headers.header (.text "Content-Type", .text "application/json") =
      .ok ("Content-Type", "application/json") := rfl
  have hNames : Headers.sameName "Content-Type" "Host" = false ∧
      Headers.sameName "Authorization" "Host" = false := by decide +kernel
  cases hKey : client.apiKey with
  | none =>
      refine ⟨[("Content-Type", "application/json")], ?_, ?_⟩
      · simp only [headers, hKey, Headers.ofEntries, List.mapM_cons, List.mapM_nil, hType]
        rfl
      · simp [Headers.get?, hNames.1]
  | some key =>
      have hAscii : asciiText ("Bearer " ++ key) = .ok ("Bearer " ++ key) := by
        rw [asciiText, if_pos]
        simp only [String.toList_append, List.all_append, Bool.and_eq_true]
        exact ⟨by decide, List.all_iff_forall_prop.mpr (h.key key hKey)⟩
      have hAuthorization : Headers.header (.text "Authorization", .text ("Bearer " ++ key)) =
          .ok ("Authorization", "Bearer " ++ key) := by
        change (do
          let name ← asciiText "Authorization"
          let value ← asciiText ("Bearer " ++ key)
          return (name, value)) = _
        rw [hAscii]
        rfl
      refine ⟨[("Content-Type", "application/json"), ("Authorization", "Bearer " ++ key)], ?_, ?_⟩
      · simp only [headers, hKey, Headers.ofEntries, List.mapM_cons, List.mapM_nil, hType,
          hAuthorization]
        rfl
      · simp [Headers.get?, hNames.1, hNames.2]

/-- What is sent along decides whether a request can be formed. -/
theorem request_eq (h : client.Ready) {order : Order} {url : Url}
    (hUrl : client.Reaches order.path url) (hHeaders : order.headers = .null)
    (hParameters : order.parameters = .null) :
    ∃ headers, client.request order = (client.bodyText order.body).map fun body =>
      { method := order.method, url, headers, timeout := client.timeout, body } := by
  obtain ⟨headers, hOwn, hHost⟩ := h.exists_headers
  refine ⟨withCredentials headers url, ?_⟩
  have hEntries : client.orderHeaders order = .ok client.headers := by
    rw [orderHeaders, hHeaders]
    rfl
  have hRead : client.url order = .ok url := by
    rw [Client.url, hUrl.read, ok_bind, if_pos hUrl.isFull]
    rfl
  have hQuery : query order = .ok none := by
    rw [query, hParameters]
    rfl
  rw [request, hEntries, ok_bind, hRead]
  simp only [Except.mapError, ok_bind, hOwn, hQuery, hHost, Option.isNone_none, if_true]
  cases client.bodyText order.body with
  | error cause => rfl
  | ok body =>
      change (do
        checkHost url
        return _) = _
      rw [hUrl.host]
      rfl

theorem path_order (client : Client) (call : Call) :
    (client.order call).path = client.path call.suffix := by
  cases call <;> rfl

theorem headers_order (client : Client) (call : Call) : (client.order call).headers = .null := by
  cases call <;> rfl

theorem parameters_order (client : Client) (call : Call) :
    (client.order call).parameters = .null := by
  cases call <;> rfl

/-- A key is told from any object, whatever is missing in it. -/
theorem exists_issuedKey {data : Mapping} (h : (Value.map data).isShort = true) :
    ∃ key, issuedKey (.map data) = .ok key := by
  have hId : ((Table.get? data (.text "id")).getD (.text "")).isShort = true := by
    cases hFound : Table.get? data (.text "id") with
    | none => rfl
    | some id =>
        obtain ⟨name, hIn⟩ := Table.exists_mem_of_get? hFound
        rw [Value.isShort, Value.entriesShort_iff] at h
        exact (h _ hIn).2
  obtain ⟨shown, hShown⟩ := Value.exists_display_iff.mpr hId
  simp only [issuedKey, hShown, Except.mapError, ok_bind]
  exact ⟨_, rfl⟩

theorem exists_reply {data : Mapping} (h : (Value.map data).isShort = true) (call : Call) :
    ∃ given, reply call (.map data) = .ok given := by
  cases call with
  | createKey request => exact exists_issuedKey h
  | _ => exact ⟨(), rfl⟩

/-- A call whose body can be written returns. -/
theorem Ready.serves (h : client.Ready) {call : Call} (hPath : call.suffix ∈ suffixes)
    {body : String} (hBody : client.bodyText (client.order call).body = .ok body) :
    client.controlPlane.Serves Wire.Obliging call := by
  intro wire hWire
  obtain ⟨url, hReaches⟩ := h.reaches _ hPath
  rw [← path_order] at hReaches
  obtain ⟨headers, hRequest⟩ :=
    request_eq h hReaches (client.headers_order call) (client.parameters_order call)
  rw [hBody] at hRequest
  obtain ⟨next, data, hSend, hNext, hData⟩ :=
    hWire.send_ok client.maxAttempts
      { method := (client.order call).method, url, headers, timeout := client.timeout, body }
      hReaches.isFull
  obtain ⟨given, hGiven⟩ := exists_reply hData call
  refine ⟨next, given, ?_, hNext⟩
  simp only [controlPlane, Client.call, place, hRequest, Except.map, hSend, Except.bind, hGiven,
    Except.mapError]

theorem exists_unsendable {body : Body} {cause : SendError}
    (h : client.bodyText body = .error cause) : ∃ reason, cause = .unsendable reason := by
  rcases bind_eq_error_iff.mp h with hWritten | ⟨text, -, hEncoded⟩
  · obtain ⟨reason, -, rfl⟩ := mapError_eq_error_iff.mp hWritten
    exact ⟨reason, rfl⟩
  · split at hEncoded
    · cases hEncoded
    · cases hEncoded
      exact ⟨_, rfl⟩

/-- A call whose body cannot be written fails with the reason. -/
theorem Ready.fails (h : client.Ready) {call : Call} (hPath : call.suffix ∈ suffixes)
    {cause : SendError} (hBody : client.bodyText (client.order call).body = .error cause)
    (hWire : wire.Obliging) :
    ∃ next, client.controlPlane.perform wire call = (next, .error cause.message) := by
  obtain ⟨reason, rfl⟩ := exists_unsendable hBody
  obtain ⟨url, hReaches⟩ := h.reaches _ hPath
  rw [← path_order] at hReaches
  obtain ⟨headers, hRequest⟩ :=
    request_eq h hReaches (client.headers_order call) (client.parameters_order call)
  rw [hBody] at hRequest
  obtain ⟨next, hSend, -⟩ := hWire.send_error client.maxAttempts (.unsendable reason) rfl
  refine ⟨next, ?_⟩
  simp only [controlPlane, Client.call, place, hRequest, Except.map, hSend, Except.bind,
    Except.mapError]

theorem bodyText_eq_ok_iff {body : Body} {text : String} :
    client.bodyText body = .ok text ↔
      writtenBody body = .ok text ∧ client.halves.areAbsent text.toList = true := by
  rw [bodyText, bind_eq_ok_iff]
  simp only [mapError_eq_ok_iff]
  constructor
  · rintro ⟨written, hWritten, hText⟩
    split at hText
    case isTrue hWhole =>
      cases hText
      exact ⟨hWritten, hWhole⟩
    case isFalse => cases hText
  · rintro ⟨hWritten, hWhole⟩
    refine ⟨text, hWritten, ?_⟩
    rw [if_pos hWhole]
    rfl

theorem exists_bodyText_text_iff {text : String} :
    (∃ sent, client.bodyText (.text text) = .ok sent) ↔
      client.halves.areAbsent text.toList = true := by
  simp only [bodyText_eq_ok_iff]
  constructor
  · rintro ⟨sent, hWritten, hWhole⟩
    cases hWritten
    exact hWhole
  · exact fun hWhole => ⟨text, rfl, hWhole⟩

/-- A mapping has a body exactly if it has a JSON text and no surrogates. -/
theorem exists_bodyText_map_iff (entries : Mapping) :
    (∃ text, client.bodyText (.json (.map entries)) = .ok text) ↔
      (Value.map entries).isSendable = true ∧
        (Value.map entries).isEncodable client.halves = true := by
  have hWritten (text : String) : writtenBody (.json (.map entries)) = .ok text ↔
      Json.write .compact (.map entries) = .ok text := mapError_eq_ok_iff
  rw [← Json.exists_write_iff (rfl : Json.Format.compact.namesNonFinite = false)]
  simp only [bodyText_eq_ok_iff, hWritten]
  constructor
  · rintro ⟨text, hText, hWhole⟩
    rw [Json.areAbsent_of_write Json.Format.separatesInAscii_compact hText] at hWhole
    exact ⟨⟨text, hText⟩, hWhole⟩
  · rintro ⟨⟨text, hText⟩, hWhole⟩
    refine ⟨text, hText, ?_⟩
    rw [Json.areAbsent_of_write Json.Format.separatesInAscii_compact hText]
    exact hWhole

/-- Whether texts have no surrogates. -/
def areWhole (halves : Text.Halves) (ss : List String) : Bool :=
  ss.all fun s => halves.areAbsent s.toList

/-- Whether what a call sends can be written and has no surrogates. -/
def isSendable (halves : Text.Halves) : Call → Bool
  | .setAcl document => halves.areAbsent document.toList
  | .setDnsPreferences _ => true
  | .setSearchPaths texts | .setNameservers texts => areWhole halves texts
  | .setSplitDns routes => routes.all fun route => areWhole halves (route.1 :: route.2)
  | .createKey request =>
    Integer.isWritable request.expirySeconds &&
      areWhole halves (request.description :: request.tags)
  | .updateSettings settings =>
    (Value.map settings).isSendable && (Value.map settings).isEncodable halves
  | .updateContact _ email => halves.areAbsent email.toList

theorem isEncodable_texts (halves : Text.Halves) (ss : List String) :
    (Value.texts ss).isEncodable halves = areWhole halves ss := by
  rw [Bool.eq_iff_iff, Value.isEncodable, Value.allChars_texts_iff, areWhole, List.all_eq_true]
  rfl

/-- Of what is sent for a key, only the time until it expires can have too many digits. -/
theorem isSendable_payload_iff (request : KeyRequest) :
    request.payload.isSendable = true ↔ Integer.isWritable request.expirySeconds = true := by
  have hTags : ∀ field ∈ (if (request.tags.map Value.text).isEmpty then []
      else [("tags", Value.list (request.tags.map Value.text))]), field.2.isSendable = true := by
    split
    · exact List.forall_mem_nil _
    · exact List.forall_mem_singleton.mpr (Value.isSendable_texts request.tags)
  have hBool (b : Bool) : (Value.bool b).isSendable = true := rfl
  have hText (s : String) : (Value.text s).isSendable = true := rfl
  have hExpiry : (Value.int request.expirySeconds).isSendable =
      Integer.isWritable request.expirySeconds := rfl
  simp only [KeyRequest.payload, keyPayload, Value.isSendable_record_iff, List.forall_mem_cons,
    List.forall_mem_append, hBool, hText, hExpiry, true_and]
  have hNone : ∀ field ∈ ([] : List (String × Value)), field.2.isSendable = true :=
    List.forall_mem_nil _
  exact ⟨fun h => h.2.1, fun h => ⟨⟨⟨⟨hNone, hTags⟩, hNone⟩, hNone⟩, h, hNone⟩⟩

/-- Of what is sent for a key, only the description and the tags can have surrogates. -/
theorem isEncodable_payload (request : KeyRequest) (halves : Text.Halves) :
    request.payload.isEncodable halves =
      areWhole halves (request.description :: request.tags) := by
  have hBool (b : Bool) : (Value.bool b).isEncodable halves = true := rfl
  have hExpiry : (Value.int request.expirySeconds).isEncodable halves = true := rfl
  have hText (s : String) : (Value.text s).isEncodable halves = halves.areAbsent s.toList := rfl
  have hTags : (Value.record (if (request.tags.map Value.text).isEmpty then []
      else [("tags", .list (request.tags.map Value.text))])).isEncodable halves =
        areWhole halves request.tags := by
    rw [← isEncodable_texts]
    cases request.tags with
    | nil => exact Value.isEncodable_record_nil
    | cons tag rest =>
        rw [List.map_cons, List.isEmpty_cons, if_neg Bool.false_ne_true,
          Value.isEncodable_record_cons (by decide), Value.isEncodable_record_nil, Bool.and_true]
        rfl
  simp (disch := decide) only [KeyRequest.payload, keyPayload, Value.isEncodable_record_cons,
    List.cons_append, List.nil_append, hBool, hExpiry, hText, hTags, Value.isEncodable_record_nil,
    Bool.true_and, Bool.and_true]
  exact Bool.and_comm _ _

/-- A call has a body exactly if it can be sent. -/
theorem exists_bodyText_iff (client : Client) (call : Call) :
    (∃ text, client.bodyText (client.order call).body = .ok text) ↔
      isSendable client.halves call = true := by
  have hRecord {name : String} (hName : Text.Ascii name.toList) (value : Value) :
      (∃ text, client.bodyText (.json (.record [(name, value)])) = .ok text) ↔
        value.isSendable = true ∧ value.isEncodable client.halves = true := by
    rw [Value.record, exists_bodyText_map_iff, ← Value.record, Value.isSendable_record_iff,
      List.forall_mem_singleton, Value.isEncodable_record_cons hName, Value.isEncodable_record_nil,
      Bool.and_true]
  have hTexts {name : String} (hName : Text.Ascii name.toList) (ss : List String) :
      (∃ text, client.bodyText (.json (.record [(name, .texts ss)])) = .ok text) ↔
        areWhole client.halves ss = true := by
    rw [hRecord hName, isEncodable_texts, and_iff_right (Value.isSendable_texts ss)]
  cases call with
  | setAcl document =>
      exact exists_bodyText_text_iff
  | setDnsPreferences magicDns =>
      exact (hRecord (by decide) _).trans (iff_of_true ⟨rfl, rfl⟩ rfl)
  | setSearchPaths paths => exact hTexts (by decide) paths
  | setNameservers servers => exact hTexts (by decide) servers
  | setSplitDns routes =>
      refine (exists_bodyText_map_iff _).trans ?_
      have hSendable : (Call.splitDnsValue routes).isSendable = true :=
        Value.isSendable_record_iff.mpr
          (List.forall_mem_map.mpr fun route _ => Value.isSendable_texts route.2)
      refine (and_iff_right hSendable).trans ?_
      change (Call.splitDnsValue routes).isEncodable client.halves = true ↔ _
      rw [Call.splitDnsValue, Value.isEncodable, Value.allChars_record_iff, List.forall_mem_map,
        isSendable, List.all_eq_true]
      refine forall₂_congr fun route _ => ?_
      rw [areWhole, List.all_cons, Bool.and_eq_true, ← areWhole, ← isEncodable_texts]
      rfl
  | createKey request =>
      refine (exists_bodyText_map_iff _).trans ?_
      rw [isSendable, Bool.and_eq_true, ← isEncodable_payload, ← isSendable_payload_iff]
      rfl
  | updateSettings settings =>
      exact (exists_bodyText_map_iff settings).trans (Bool.and_eq_true _ _ ▸ Iff.rfl)
  | updateContact type email => exact (hRecord (by decide) _).trans (and_iff_right rfl)

end Client

end Http

end Tailnet
