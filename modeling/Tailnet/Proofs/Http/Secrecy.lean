import Tailnet.Proofs.Json.Bytes
import Tailnet.Proofs.Plan.Delivery
import Tailnet.Proofs.Plan.Secrecy
import Tailnet.Proofs.Value

/-!
The secrets of keys in the answers of a network. No client can tell between two networks whose
answers differ in nothing but such secrets: it sends the same requests, waits for the same times,
and what it applies is shown in the same way. What it cannot read is no object to it, whatever the
reason. So a secret that makes its answer unreadable does show, as a number with too many digits
would.
-/

namespace Tailnet

/-- The name under which an answer holds the secret of a key. -/
def secretName : String := "key"

/-- A mapping without the secret of a key. -/
def withoutSecret (data : Mapping) : Mapping :=
  data.filter fun entry => !(entry.1 == Scalar.text secretName)

/-- What stands under other names is the same without the secret. -/
theorem get?_withoutSecret (data : Mapping) {name : String} (h : name ≠ secretName) :
    Table.get? (withoutSecret data) (.text name) = Table.get? data (.text name) := by
  induction data with
  | nil => rfl
  | cons entry rest ih =>
      obtain ⟨key, value⟩ := entry
      unfold withoutSecret at ih ⊢
      rw [Table.get?_cons, List.filter_cons]
      by_cases hSecret : (key == Scalar.text secretName) = true
      · have hOther : ¬(key == Scalar.text name) = true := by
          rw [Scalar.beq_text_iff] at hSecret ⊢
          rw [hSecret, Scalar.text.injEq]
          exact Ne.symm h
        rw [if_neg hOther, if_neg (by simp [hSecret]), ih]
      · rw [if_pos (by simp [hSecret]), Table.get?_cons, ih]

namespace Http

/-- A response with status 200 whose body is read as an object. An empty body is read as one too,
but is none. -/
structure Response.Tells (response : Response) (data : Mapping) : Prop where
  status : response.status = 200
  written : response.body ≠ ""
  object : response.value = .ok (.map data)

/-- Answers that are the same, or tell two objects that are the same without the secret of a key. -/
inductive Answer.Alike : Answer → Answer → Prop where
  | same (answer : Answer) : Alike answer answer
  | secret {first second : Response} {data other : Mapping} (hFirst : first.Tells data)
      (hSecond : second.Tells other) (hHeaders : first.headers = second.headers)
      (hRest : withoutSecret data = withoutSecret other) :
      Alike (.response first) (.response second)

/-- Results of a request that are the same, or objects that are so without the secret of a key. -/
inductive AlikeResult : Except SendError Value → Except SendError Value → Prop where
  | same (outcome : Except SendError Value) : AlikeResult outcome outcome
  | secret {data other : Mapping} (hRest : withoutSecret data = withoutSecret other) :
      AlikeResult (.ok (.map data)) (.ok (.map other))

namespace Response

variable {response : Response} {data : Mapping}

theorem Tells.two_le_length (h : response.Tells data) :
    2 ≤ (Text.bytesOf response.body).length := by
  have hObject := h.object
  rw [value, if_neg h.written] at hObject
  obtain ⟨cs, hText, hRead⟩ := bind_eq_ok_iff.mp hObject
  exact Json.two_le_length_of_textOf (mapError_eq_ok_iff.mp hText) (mapError_eq_ok_iff.mp hRead)

/-- Whether an object gets through to a client that asked for something at a place. -/
def passage (headers : Mapping) (url : Url) : Except SendError Unit := do
  let headers ← (Headers.ofEntries headers).mapError SendError.header
  if isCompressed headers then throw .uncompressed
  if !url.isFull then throw (.unknownScheme url.text)

/-- What keeps an object back is never the object itself. -/
theorem Tells.result_eq (h : response.Tells data) (url : Url) :
    response.result url = (passage response.headers url).map fun _ => .map data := by
  have hCompression (headers : Headers) : response.checkCompression headers =
      if isCompressed headers then .error .uncompressed else .ok () := by
    rw [checkCompression, decide_eq_true h.two_le_length, Bool.and_true]
  rw [result_of_ok h.status, passage]
  cases Headers.ofEntries response.headers with
  | error cause => rfl
  | ok headers =>
      simp only [Except.mapError, ok_bind, hCompression, h.object]
      cases isCompressed headers with
      | true => rfl
      | false =>
          cases url.isFull with
          | true => rfl
          | false => rfl

end Response

/-- What alike answers mean for a request is alike. -/
theorem Answer.Alike.result {first second : Answer} (h : first.Alike second) (url : Url) :
    AlikeResult (first.result url) (second.result url) := by
  cases h with
  | same => exact .same _
  | secret hFirst hSecond hHeaders hRest =>
      rw [Answer.result, Answer.result, hFirst.result_eq, hSecond.result_eq, hHeaders]
      cases Response.passage _ url with
      | error cause => exact .same _
      | ok => exact .secret hRest

/-- Two networks that are the same but for their answers, and these are alike one by one. -/
def Wire.Alike (first second : Wire) : Prop :=
  ∃ answers, List.Forall₂ Answer.Alike first.answers answers ∧ second = { first with answers }

namespace Wire.Alike

variable {first second : Wire}

theorem note (h : first.Alike second) {outcome other : Except SendError Value}
    (hOutcome : AlikeResult outcome other) : (first.note outcome).Alike (second.note other) := by
  obtain ⟨answers, hAnswers, rfl⟩ := h
  refine ⟨answers, ?_, ?_⟩
  · unfold Wire.note
    split
    · exact hAnswers
    · exact hAnswers
  · cases hOutcome with
    | secret => rfl
    | same =>
        unfold Wire.note
        split
        · rfl
        · rfl

theorem wait (h : first.Alike second) (seconds : Nat) :
    (first.wait seconds).Alike (second.wait seconds) := by
  obtain ⟨answers, hAnswers, rfl⟩ := h
  exact ⟨answers, hAnswers, rfl⟩

theorem exchange (h : first.Alike second) (request : Request) :
    (first.exchange request).1.Alike (second.exchange request).1 ∧
      (first.exchange request).2.Alike (second.exchange request).2 := by
  obtain ⟨answers, hAnswers, rfl⟩ := h
  refine ⟨⟨answers.drop 1, ?_, rfl⟩, ?_⟩
  · exact List.forall₂_drop 1 hAnswers
  · simp only [Wire.exchange]
    generalize first.answers = given at hAnswers
    cases hAnswers with
    | nil => exact .same _
    | cons hFirst _ => exact hFirst

theorem attempt (h : first.Alike second) (request : Except SendError Request) :
    (first.attempt request).1.Alike (second.attempt request).1 ∧
      AlikeResult (first.attempt request).2 (second.attempt request).2 := by
  have hAdmits : first.breaker.admits first.now = second.breaker.admits second.now := by
    obtain ⟨answers, -, rfl⟩ := h
    rfl
  unfold Wire.attempt
  rw [← hAdmits]
  split
  · exact ⟨h, .same _⟩
  · cases request with
    | error cause => exact ⟨h.note (.same _), .same _⟩
    | ok request =>
        obtain ⟨hNext, hAnswer⟩ := h.exchange request
        have hResult := hAnswer.result request.url
        exact ⟨hNext.note hResult, hResult⟩

theorem retry (request : Except SendError Request) (left made : Nat) (h : first.Alike second)
    {outcome other : Except SendError Value} (hOutcome : AlikeResult outcome other) :
    (Wire.retry request left made first outcome).1.Alike
        (Wire.retry request left made second other).1 ∧
      AlikeResult (Wire.retry request left made first outcome).2
        (Wire.retry request left made second other).2 := by
  induction left generalizing first second made outcome other with
  | zero => exact ⟨h, hOutcome⟩
  | succ left ih =>
      cases hOutcome with
      | secret hRest => exact ⟨h, .secret hRest⟩
      | same =>
          unfold Wire.retry
          split
          · obtain ⟨hNext, hAgain⟩ := (h.wait (waitAfter .usual made)).attempt request
            exact ih (made + 1) hNext hAgain
          · exact ⟨h, .same _⟩

theorem send (h : first.Alike second) (maxAttempts : Int) (request : Except SendError Request) :
    (first.send maxAttempts request).1.Alike (second.send maxAttempts request).1 ∧
      AlikeResult (first.send maxAttempts request).2 (second.send maxAttempts request).2 := by
  obtain ⟨hNext, hOutcome⟩ := h.attempt request
  exact hNext.retry request _ _ hOutcome

end Wire.Alike

namespace Client

/-- Of an object that describes a key, nothing but the secret is lost without the secret. -/
theorem issuedKey_alike {data other : Mapping} (h : withoutSecret data = withoutSecret other) :
    (issuedKey (.map data)).map IssuedKey.withoutSecret =
      (issuedKey (.map other)).map IssuedKey.withoutSecret := by
  have hField (name : String) (hName : name ≠ secretName) :
      Table.get? data (.text name) = Table.get? other (.text name) := by
    rw [← get?_withoutSecret data hName, h, get?_withoutSecret other hName]
  have hId := hField "id" (by decide)
  have hExpires := hField "expires" (by decide)
  simp only [issuedKey, hId, hExpires]
  cases Value.display _ with
  | error cause => rfl
  | ok id => rfl

theorem reply_alike (call : Call) {outcome other : Except SendError Value}
    (h : AlikeResult outcome other) :
    (outcome.bind (reply call)).map call.withoutSecret =
      (other.bind (reply call)).map call.withoutSecret := by
  cases h with
  | same => rfl
  | secret hRest =>
      cases call with
      | createKey request => exact issuedKey_alike hRest
      | _ => rfl

/-- No call tells alike networks apart. -/
theorem conceals (client : Client) : client.controlPlane.Conceals Wire.Alike := by
  intro first second h call
  obtain ⟨hNext, hOutcome⟩ := h.send client.maxAttempts (client.request (client.order call))
  refine ⟨hNext, ?_⟩
  have hMessage (outcome : Except SendError call.Reply) :
      (outcome.mapError SendError.message).map call.withoutSecret =
        (outcome.map call.withoutSecret).mapError SendError.message := by
    cases outcome with
    | error cause => rfl
    | ok given => rfl
  have hReply := congrArg (Except.mapError SendError.message) (reply_alike call hOutcome)
  exact (hMessage _).trans (hReply.trans (hMessage _).symm)

end Client

/-! Objects as the standard has them. The client reads all of these but those in which an integer
has too many digits. -/

namespace Response

variable {response : Response} {data : Mapping}

theorem ne_empty_of_isText (h : Json.IsText response.body (.map data)) : response.body ≠ "" := by
  intro hEmpty
  obtain ⟨c, d, more, hBody, -⟩ := h.object_begins
  rw [hEmpty] at hBody
  cases hBody

theorem value_of_isText (h : Json.IsText response.body (.map data)) :
    response.value = (Json.read response.body).mapError (.unreadable response.body) := by
  rw [value, if_neg (ne_empty_of_isText h), h.textOf_bytesOf, Except.mapError, ok_bind,
    String.ofList_toList]
  rfl

theorem tells_of_isText (hStatus : response.status = 200)
    (h : Json.IsText response.body (.map data)) (hShort : (Value.map data).isShort = true) :
    response.Tells data where
  status := hStatus
  written := ne_empty_of_isText h
  object := by rw [value_of_isText h, h.read_eq hShort, Except.mapError]

theorem exists_unreadable_of_isText (h : Json.IsText response.body (.map data))
    (hLong : (Value.map data).isShort = false) :
    ∃ cause, response.value = .error (.unreadable response.body cause) := by
  rcases h.read_or_refused with ⟨hShort, -⟩ | ⟨-, cause, hRefused⟩
  · rw [hShort] at hLong
    cases hLong
  · exact ⟨.numeral cause, by rw [value_of_isText h, hRefused, Except.mapError]⟩

end Response

/-- A response that holds nothing but the secret of a key, which is a number. -/
def numberedKey (digits : List Char) : Response :=
  ⟨200, [], "\x7b\"key\":" ++ String.ofList digits ++ "\x7d"⟩

theorem isText_numberedKey {digits : List Char} (h : Json.IsWhole digits) :
    Json.IsText (numberedKey digits).body
      (.record [(secretName, .int (Json.digitsValue digits))]) := by
  have hNumber : Json.Denotes (digits ++ ['\x7d']) (.int (Json.digitsValue digits)) ['\x7d'] :=
    .number (.whole .none h) ['\x7d']
  have hName : Json.Quoted ('k' :: 'e' :: 'y' :: '"' :: ':' :: (digits ++ ['\x7d']))
      ['k', 'e', 'y'] (':' :: (digits ++ ['\x7d'])) :=
    .plain (by decide) (by decide) (by decide) (.plain (by decide) (by decide) (by decide)
      (.plain (by decide) (by decide) (by decide) (.close _)))
  have hBody : (numberedKey digits).body.toList =
      '\x7b' :: '"' :: 'k' :: 'e' :: 'y' :: '"' :: ':' :: (digits ++ ['\x7d']) := by
    simp [numberedKey]
  rw [Json.IsText, hBody]
  exact ⟨_, [], .none _, .record (.last (.mk (.none _) hName (.none _) (.none _) hNumber) (.none _))
    (List.nodup_singleton _), .none _⟩

/-- The digits of a power of ten. -/
def powerDigits (exponent : Nat) : List Char := '1' :: List.replicate exponent '0'

theorem isWhole_powerDigits (exponent : Nat) : Json.IsWhole (powerDigits exponent) := by
  refine .inr ⟨⟨List.cons_ne_nil _ _, ?_⟩, by simp [powerDigits]⟩
  rw [powerDigits, List.forall_mem_cons]
  exact ⟨rfl, fun c hc => List.eq_of_mem_replicate hc ▸ rfl⟩

theorem digitsValue_powerDigits (exponent : Nat) :
    Json.digitsValue (powerDigits exponent) = Nat.pow 10 exponent := by
  have hZeros (start : Nat) :
      ((List.replicate exponent '0').map fun c => c.toNat - '0'.toNat).foldl
        (fun n d => 10 * n + d) start = start * 10 ^ exponent := by
    induction exponent generalizing start with
    | zero => simp
    | succ exponent ih =>
        rw [List.replicate_succ, List.map_cons, List.foldl_cons, ih, Nat.pow_succ', Nat.sub_self,
          Nat.add_zero, Nat.mul_comm 10 start, Nat.mul_assoc]
  exact (hZeros 1).trans (Nat.one_mul _)

/-! What becomes of one call after the other if each is answered with status 200. -/

theorem Response.isRetryable_of_value {response : Response} {cause : SendError}
    (h : response.value = .error cause) : cause.isRetryable = false := by
  unfold value at h
  split at h
  · cases h
  · cases hText : Json.textOf (Text.bytesOf response.body) with
    | error reason =>
        rw [hText] at h
        cases h
        rfl
    | ok cs =>
        rw [hText, Except.mapError, ok_bind] at h
        cases hRead : Json.readChars cs with
        | ok value =>
            rw [hRead] at h
            cases h
        | error reason =>
            rw [hRead] at h
            cases h
            rfl

/-- A network that is not held up, and whose next answer has status 200 and no headers. -/
structure Wire.Next (wire : Wire) (response : Response) (rest : List Answer) : Prop where
  closed : wire.breaker.openedAt = none
  answers : wire.answers = .response response :: rest
  status : response.status = 200
  headers : response.headers = []

/-- Such an answer is what a request comes to, readable or not. -/
theorem Wire.Next.exists_send {wire : Wire} {response : Response} {rest : List Answer}
    (h : wire.Next response rest) (maxAttempts : Int) (request : Request)
    (hUrl : request.url.isFull = true) :
    ∃ next, wire.send maxAttempts (.ok request) = (next, response.value) ∧
      next.breaker.openedAt = none ∧ next.answers = rest := by
  have hAdmits : wire.breaker.admits wire.now = true := by
    rw [Breaker.admits, Breaker.state, h.closed]
    rfl
  have hHeaders : Headers.ofEntries [] = .ok [] := rfl
  have hCompression : response.checkCompression [] = .ok () := rfl
  have hResult : response.result request.url = response.value := by
    rw [Response.result_of_ok h.status, h.headers, hHeaders]
    simp only [Except.mapError, ok_bind, hCompression, hUrl, Bool.not_true, Bool.false_eq_true,
      if_false]
  have hAttempt : wire.attempt (.ok request) =
      ((wire.exchange request).1.note response.value, response.value) := by
    rw [Wire.attempt, hAdmits, Bool.not_true, if_neg Bool.false_ne_true]
    simp only [Wire.exchange, h.answers, List.headD_cons, Answer.result, hResult]
  refine ⟨(wire.exchange request).1.note response.value, ?_, ?_⟩
  · rw [Wire.send, hAttempt]
    cases hValue : response.value with
    | ok value => exact (Wire.isRetrying _).final _ _ _ rfl
    | error cause => exact (Wire.isRetrying _).final _ _ _ (Response.isRetryable_of_value hValue)
  · have hRest : (wire.exchange request).1.answers = rest := by
      simp only [Wire.exchange, h.answers, List.drop_succ_cons, List.drop_zero]
    cases hValue : response.value with
    | ok value => exact ⟨rfl, hRest⟩
    | error cause =>
        cases cause with
        | retryable message => cases Response.isRetryable_of_value hValue
        | _ => exact ⟨rfl, hRest⟩

theorem Client.Ready.exists_perform {client : Client} (h : client.Ready) {call : Call}
    (hPath : call.suffix ∈ Client.suffixes)
    (hSendable : Client.isSendable client.halves call = true)
    {wire : Wire} {response : Response} {rest : List Answer} (hNext : wire.Next response rest) :
    ∃ next, client.controlPlane.perform wire call =
        (next, (response.value.bind (Client.reply call)).mapError SendError.message) ∧
      next.breaker.openedAt = none ∧ next.answers = rest := by
  obtain ⟨url, hReaches⟩ := h.reaches _ hPath
  rw [← Client.path_order] at hReaches
  obtain ⟨headers, hRequest⟩ := Client.request_eq h hReaches (client.headers_order call)
    (client.parameters_order call)
  obtain ⟨body, hBody⟩ := (client.exists_bodyText_iff call).mpr hSendable
  rw [hBody] at hRequest
  obtain ⟨next, hSend, hKept⟩ := hNext.exists_send client.maxAttempts
    { method := (client.order call).method, url, headers, timeout := client.timeout, body }
    hReaches.isFull
  refine ⟨next, ?_, hKept⟩
  simp only [Client.controlPlane, Client.call, Client.place, hRequest, Except.map, hSend]

/-- A call that is answered with an object returns. -/
theorem Client.Ready.exists_perform_ok {client : Client} (h : client.Ready) {call : Call}
    (hPath : call.suffix ∈ Client.suffixes)
    (hSendable : Client.isSendable client.halves call = true)
    {wire : Wire} {response : Response} {rest : List Answer} (hNext : wire.Next response rest)
    {data : Mapping} (hObject : response.value = .ok (.map data)) :
    ∃ next given, client.controlPlane.perform wire call = (next, .ok given) ∧
      next.breaker.openedAt = none ∧ next.answers = rest := by
  obtain ⟨next, hPerform, hKept⟩ := h.exists_perform hPath hSendable hNext
  obtain ⟨given, hGiven⟩ := Client.exists_reply (Response.isShort_of_value hObject) call
  refine ⟨next, given, ?_, hKept⟩
  rw [hPerform, hObject, Except.bind, hGiven, Except.mapError]

end Http

namespace Source

open Http

/-- However often a source is applied through a client, the secrets of the keys that are issued show
nowhere: over two networks whose answers differ only in them, the same requests are sent after the
same waits, and the results are shown in the same way. -/
theorem applyAll_alike (source : Source) (tailnet : String) (lint : Bool) (client : Client)
    {first second : Wire} (h : first.Alike second) (runs : List Bool) :
    ∃ next other outcomes others,
      source.applyAll tailnet lint client.controlPlane first runs = (next, outcomes) ∧
      source.applyAll tailnet lint client.controlPlane second runs = (other, others) ∧
      next.requests = other.requests ∧ next.waits = other.waits ∧
      List.Forall₂
        (fun outcome twin => ∀ seconds,
          outcome.map (·.toValue seconds) = twin.map (·.toValue seconds))
        outcomes others := by
  cases hPlan : source.plan tailnet lint with
  | error cause =>
      obtain ⟨answers, -, hOther⟩ := h
      refine ⟨_, _, _, _, applyAll_of_error _ hPlan _ _, applyAll_of_error _ hPlan _ _, ?_, ?_,
        List.forall₂_same.mpr fun _ _ _ => rfl⟩
      · rw [hOther]
      · rw [hOther]
  | ok plan =>
      obtain ⟨⟨answers, -, hOther⟩, hOutcomes⟩ := client.conceals.applyAll plan h runs
      refine ⟨_, _, _, _, applyAll_of_plan _ hPlan _ _, applyAll_of_plan _ hPlan _ _, ?_, ?_, ?_⟩
      · rw [hOther]
      · rw [hOther]
      · rw [List.forall₂_map_left_iff, List.forall₂_map_right_iff]
        exact hOutcomes.imp fun _ _ hSame seconds => congrArg Except.ok (hSame seconds)

/-- A policy for a tailnet with one key. -/
def keyPolicy : Mapping :=
  recordEntries [("tailnet", .record [("keys", .record [("createReusableKey", .bool true)])])]

/-- A network that answers the third request, which is the one for the key, with a response. -/
def issuing (response : Response) : Wire :=
  .ofAnswers [Wire.lastAnswer, Wire.lastAnswer, .response response]

theorem exists_read_keyPolicy :
    ∃ source change request, read keyPolicy "office" none = .ok source ∧
      (source.draft "example.com" true).errors = [] ∧
      (∀ document, source.Publishes true document →
        ∀ call ∈ (source.draft "example.com" true).calls document,
          Client.isSendable .usual call = true) ∧
      (source.draft "example.com" true).changes = [change] ∧
      (source.draft "example.com" true).keys = [request] := by
  obtain ⟨source, hRead, hDraft⟩ := exists_ok_of_check (read keyPolicy "office" none)
    (fun source =>
      let plan := source.draft "example.com" true
      plan.succeeded &&
        (plan.changes.map DnsChange.call ++ plan.keys.map Call.createKey ++ plan.settingsCalls).all
          (Client.isSendable .usual) &&
        plan.changes.length == 1 && plan.keys.length == 1) (by decide +kernel)
  simp only [Bool.and_eq_true, beq_iff_eq, List.length_eq_one_iff, List.all_eq_true] at hDraft
  obtain ⟨⟨⟨hErrors, hOthers⟩, change, hChanges⟩, request, hKeys⟩ := hDraft
  refine ⟨source, change, request, hRead, List.isEmpty_iff.mp hErrors,
    fun document hPublishes => ?_, hChanges, hKeys⟩
  have hAcl := hPublishes.areAbsent
  rw [(read_eq_ok_iff.mp hRead).halves] at hAcl
  exact List.forall_mem_cons.mpr ⟨hAcl, hOthers⟩

theorem isShort_secret (n : Int) :
    (Value.record [(secretName, .int n)]).isShort = Integer.isWritable n := by
  simp [Value.record, Value.int, Value.isShort, Value.entriesShort, Scalar.isShort]

theorem tells_numberedKey {digits : List Char} (h : Json.IsWhole digits)
    (hShort : Integer.isWritable (Json.digitsValue digits) = true) :
    (numberedKey digits).Tells (recordEntries [(secretName, .int (Json.digitsValue digits))]) :=
  Response.tells_of_isText rfl (isText_numberedKey h) ((isShort_secret _).trans hShort)

theorem applyAll_alike_keyPolicy :
    ∃ source, read keyPolicy "office" none = .ok source ∧
      (issuing (numberedKey ['1'])).Alike (issuing (numberedKey ['2'])) ∧
      ∃ next other outcomes others,
        source.applyAll "example.com" true exampleClient.controlPlane
          (issuing (numberedKey ['1'])) [true, false] = (next, outcomes) ∧
        source.applyAll "example.com" true exampleClient.controlPlane
          (issuing (numberedKey ['2'])) [true, false] = (other, others) ∧
        next.requests = other.requests ∧ next.waits = other.waits ∧
        List.Forall₂
          (fun outcome twin => ∀ seconds,
            outcome.map (·.toValue seconds) = twin.map (·.toValue seconds))
          outcomes others := by
  obtain ⟨source, _, _, hRead, -⟩ := exists_read_keyPolicy
  have hFirst : (numberedKey ['1']).Tells (recordEntries [(secretName, .int 1)]) :=
    tells_numberedKey (.single (by decide) (by decide)) (by decide +kernel)
  have hSecond : (numberedKey ['2']).Tells (recordEntries [(secretName, .int 2)]) :=
    tells_numberedKey (.single (by decide) (by decide)) (by decide +kernel)
  have hAlike : (issuing (numberedKey ['1'])).Alike (issuing (numberedKey ['2'])) :=
    ⟨_, .cons (.same _) (.cons (.same _) (.cons (.secret hFirst hSecond rfl rfl) .nil)), rfl⟩
  exact ⟨source, hRead, hAlike, source.applyAll_alike "example.com" true exampleClient hAlike _⟩

/-- A key whose answer cannot be read counts as failed. -/
theorem exists_performAll_unreadable {plan : Plan} {document : String} {client : Client}
    (hContacts : ∀ contact ∈ plan.contacts, contact.1 ∈ contactTypes)
    (hSendable : ∀ call ∈ plan.calls document, Client.isSendable client.halves call = true)
    {change : DnsChange} (hChanges : plan.changes = [change])
    {request : KeyRequest} (hKeys : plan.keys = [request]) (hClient : client.Ready)
    {response : Response} (hStatus : response.status = 200) (hHeaders : response.headers = [])
    {cause : SendError} (hCause : response.value = .error cause) :
    ∃ last attempts, client.controlPlane.watched.performAll (issuing response, [])
      (plan.calls document) = ((last, attempts), some cause.message) := by
  have hCalls : plan.calls document =
      [.setAcl document, change.call] ++ .createKey request :: plan.settingsCalls := by
    rw [Plan.calls, hChanges, hKeys]
    rfl
  have hPaths := Plan.suffix_mem hContacts document
  simp only [hCalls, List.cons_append, List.nil_append, List.forall_mem_cons] at hPaths hSendable
  obtain ⟨hAclPath, hDnsPath, hKeyPath, -⟩ := hPaths
  obtain ⟨hAcl, hDns, hKey, -⟩ := hSendable
  obtain ⟨empty, hEmpty, hObject⟩ := Wire.isObject_lastAnswer
  obtain rfl : Response.mk 200 [] "\x7b\x7d" = empty := Answer.response.inj hEmpty
  obtain ⟨data, hData⟩ := hObject.body
  have hFirst : (issuing response).Next ⟨200, [], "\x7b\x7d"⟩
      [Wire.lastAnswer, .response response] := ⟨rfl, rfl, rfl, rfl⟩
  obtain ⟨second, _, hPublished, hSecond, hSecondAnswers⟩ :=
    hClient.exists_perform_ok hAclPath hAcl hFirst hData
  obtain ⟨third, _, hSet, hThird, hThirdAnswers⟩ :=
    hClient.exists_perform_ok hDnsPath hDns ⟨hSecond, hSecondAnswers, rfl, rfl⟩ hData
  obtain ⟨last, hFailed, -⟩ :=
    hClient.exists_perform hKeyPath hKey ⟨hThird, hThirdAnswers, hStatus, hHeaders⟩
  have hFront : client.controlPlane.performAll (issuing response)
      [.setAcl document, change.call] = (third, none) := by
    simp only [ControlPlane.performAll, hPublished, hSet]
  rw [hCause] at hFailed
  rw [hCalls]
  exact ⟨last, _, ControlPlane.performAll_watched_of_fails hFront hFailed _ []⟩

/-- The number of a secret that has one digit too many makes the answer unreadable, so that the key
counts as failed. -/
theorem exists_secret_shown :
    ∃ source next other outcome twin,
      read keyPolicy "office" none = .ok source ∧
      Json.IsText (numberedKey ['1']).body (.record [(secretName, .int 1)]) ∧
      Json.IsText (numberedKey (powerDigits Integer.maxDigits)).body
        (.record [(secretName, .int (Nat.pow 10 Integer.maxDigits))]) ∧
      source.applyAll "example.com" true exampleClient.controlPlane
        (issuing (numberedKey ['1'])) [false] = (next, [.ok outcome]) ∧
      source.applyAll "example.com" true exampleClient.controlPlane
        (issuing (numberedKey (powerDigits Integer.maxDigits))) [false] = (other, [.ok twin]) ∧
      ∀ seconds, outcome.toValue seconds ≠ twin.toValue seconds := by
  obtain ⟨source, change, request, hRead, hErrors, hSendable, hChanges, hKeys⟩ :=
    exists_read_keyPolicy
  obtain ⟨document, hPublishes, hDocument⟩ := exists_document_of_draft hErrors
  have hCalls := hSendable document hPublishes
  obtain ⟨options, -, hOptions⟩ := bind_eq_ok_iff.mp (read_eq_ok_iff.mp hRead).tailnet
  have hContacts := contacts_of_tailnetOptions hOptions
  have hPlan := plan_of_draft hErrors
  have hWhole : Json.IsWhole ['1'] := .single (by decide) (by decide)
  have hShort := isText_numberedKey hWhole
  have hLong := isText_numberedKey (isWhole_powerDigits Integer.maxDigits)
  rw [digitsValue_powerDigits] at hLong
  -- With a short number everything is applied.
  have hOrdinary : (numberedKey ['1']).IsObject :=
    ⟨rfl, ⟨[], rfl, rfl⟩, _, (tells_numberedKey hWhole (by decide +kernel)).object⟩
  have hObliging : (issuing (numberedKey ['1'])).Obliging := by
    refine ⟨rfl, ?_⟩
    simp only [issuing, Wire.ofAnswers, List.forall_mem_cons]
    exact ⟨Wire.isObject_lastAnswer, Wire.isObject_lastAnswer, ⟨_, rfl, hOrdinary⟩,
      List.forall_mem_nil _⟩
  obtain ⟨next, _, outcome, hApplied, -, hDelivered⟩ :=
    Plan.exists_delivered hContacts hErrors hDocument ready_exampleClient hObliging
  have hNone : outcome.errors = [] := hDelivered.errors_eq_nil_iff.mpr hCalls
  -- With a long one the key cannot be made out.
  have hUnwritable : (Value.record
      [(secretName, .int (Nat.pow 10 Integer.maxDigits))]).isShort = false := by
    rw [isShort_secret, Bool.eq_false_iff, ne_eq, Integer.isWritable_iff, Int.natAbs_natCast]
    exact Nat.lt_irrefl _
  obtain ⟨cause, hCause⟩ := Response.exists_unreadable_of_isText hLong hUnwritable
  obtain ⟨other, attempts, hAttempts⟩ := exists_performAll_unreadable hContacts hCalls hChanges
    hKeys ready_exampleClient rfl rfl hCause
  obtain ⟨twin, hFailed, -, hAccounts⟩ :=
    Plan.exists_accounts_of_watched exampleClient.controlPlane _ hErrors hDocument hAttempts
  obtain ⟨_, -, hSome⟩ := hAccounts.errors_of_some _ rfl
  refine ⟨source, next, other, outcome, twin, hRead, hShort, hLong, ?_, ?_, ?_⟩
  · rw [applyAll_of_plan _ hPlan, Plan.applyAll, hApplied]
    rfl
  · rw [applyAll_of_plan _ hPlan, Plan.applyAll, hFailed]
    rfl
  intro seconds hSame
  simp only [Outcome.toValue, Value.record, List.map_cons, Value.map.injEq, List.cons.injEq,
    Prod.mk.injEq, Value.bool, Value.scalar.injEq, Scalar.bool.injEq] at hSame
  obtain ⟨-, -, ⟨-, hSuccess⟩, -⟩ := hSame
  rw [Outcome.succeeded, Outcome.succeeded, hNone, hSome] at hSuccess
  cases hSuccess

end Source

end Tailnet
