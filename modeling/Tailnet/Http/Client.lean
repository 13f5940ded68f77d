import Tailnet.Http.Wire
import Tailnet.Plan.Apply

/-!
A client of the control plane: which request stands for which call, and what becomes of the answer.
-/

namespace Tailnet.Http

/-- How a client reaches the control plane, and the characters that stand for surrogates in what it
sends. The time-out is passed on as it is. -/
structure Client where
  apiKey : Option String
  tailnet : String
  baseUrl : String
  timeout : Scalar
  maxAttempts : Int
  halves : Text.Halves := .usual

/-- Where the control plane is unless something else is said. -/
def defaultBaseUrl : String := "https://api.tailscale.com/api/v2"

/-- What a request carries. -/
inductive Body where
  | nothing
  | json (value : Value)
  | text (text : String)

/-- A request as a caller states it: method, path below the base URL, query, body and headers of its
own. -/
structure Order where
  method : String
  path : String
  parameters : Value := .null
  body : Body := .nothing
  headers : Value := .null

namespace Client

def root (client : Client) : String :=
  String.ofList (client.baseUrl.toList.reverse.dropWhile (· == '/')).reverse

/-- The path of something that belongs to the client's tailnet. -/
def path (client : Client) (suffix : String) : String :=
  "/tailnet/" ++ String.ofList (segment client.tailnet) ++ "/" ++ suffix

/-- The headers of every request, before the caller's own. -/
def headers (client : Client) : Mapping :=
  (.text "Content-Type", .text "application/json") ::
    match client.apiKey with
    | some key => [(.text "Authorization", .text ("Bearer " ++ key))]
    | none => []

def orderHeaders (client : Client) (order : Order) : Except SendError Mapping :=
  if order.headers.isTruthy then do
    return Table.update client.headers (← order.headers.toMapping.mapError .pairs)
  else .ok client.headers

/-- The URL of an order, without its parameters. Without a scheme or a host it is only what would be
asked of a host. -/
def url (client : Client) (order : Order) : Except UrlFault Url := do
  let url ← Url.read (client.root ++ order.path)
  if url.isFull then return url else url.fromRoot

/-- The query of an order: nothing if it says nothing about one, and none if it has no
parameters. -/
def query (order : Order) : Except QueryFault (Option (Option String)) :=
  if order.parameters.isNull then .ok none
  else if order.parameters.isTruthy then do
    return some (some (← Query.ofValue order.parameters).text)
  else .ok (some none)

def writtenBody : Body → Except Unsendable String
  | .nothing => .ok ""
  | .json (.scalar .null) => .ok ""
  | .json value => (Json.write .compact value).mapError .unwritable
  | .text text => .ok text

/-- The text of a body. One that has no bytes is not sent. -/
def bodyText (client : Client) (body : Body) : Except SendError String := do
  let text ← (writtenBody body).mapError .unsendable
  if client.halves.areAbsent text.toList then return text
  else throw (.unsendable (.unencodable client.halves text))

/-- Headers with the name and the password of a URL, if it has any. They take the place of any other
authorization. -/
def withCredentials (headers : Headers) (url : Url) : Headers :=
  match url.credentials? with
  | some (name, password) => headers.put "Authorization" (basicAuthorization name password)
  | none => headers

/-- The request for an order. A query of the order takes the place of the one in its path. -/
def request (client : Client) (order : Order) : Except SendError Request := do
  let entries ← client.orderHeaders order
  let url ← (client.url order).mapError .url
  let headers ← (Headers.ofEntries entries).mapError .header
  let url ← match ← (query order).mapError .query with
    | some query => (url.withQuery query).mapError .url
    | none => pure url
  let body ← client.bodyText order.body
  if (headers.get? "Host").isNone then checkHost url
  return {
    method := order.method
    url := url
    headers := withCredentials headers url
    timeout := client.timeout
    body := body }

def place (client : Client) (wire : Wire) (order : Order) : Wire × Except SendError Value :=
  wire.send client.maxAttempts (client.request order)

/-! Orders. What they carry is free-form. -/

def setDnsPreferences (client : Client) (magicDns : Value) : Order :=
  { method := "POST", path := client.path "dns/preferences"
    body := .json (.record [("magicDNS", magicDns)]) }

def setSearchPaths (client : Client) (paths : Value) : Order :=
  { method := "POST", path := client.path "dns/searchpaths"
    body := .json (.record [("searchPaths", paths)]) }

def setNameservers (client : Client) (servers : Value) : Order :=
  { method := "POST", path := client.path "dns/nameservers"
    body := .json (.record [("dns", servers)]) }

def setSplitDns (client : Client) (routes : Value) : Order :=
  { method := "PUT", path := client.path "dns/split-dns", body := .json routes }

def createKey (client : Client) (payload : Value) : Order :=
  { method := "POST", path := client.path "keys", body := .json payload }

def updateSettings (client : Client) (settings : Mapping) : Order :=
  { method := "PATCH", path := client.path "settings", body := .json (.map settings) }

def updateContact (client : Client) (type : String) (email : Value) : Order :=
  { method := "PATCH", path := client.path ("contacts/" ++ type)
    body := .json (.record [("email", email)]) }

def setAcl (client : Client) (document : String) : Order :=
  { method := "POST", path := client.path "acl", body := .text document }

def order (client : Client) : Call → Order
  | .setAcl document => client.setAcl document
  | .setDnsPreferences magicDns => client.setDnsPreferences (.bool magicDns)
  | .setSearchPaths paths => client.setSearchPaths (.texts paths)
  | .setNameservers servers => client.setNameservers (.texts servers)
  | .setSplitDns routes => client.setSplitDns (Call.splitDnsValue routes)
  | .createKey request => client.createKey request.payload
  | .updateSettings settings => client.updateSettings settings
  | .updateContact type email => client.updateContact type (.text email)

def readAcl (client : Client) : Order := { method := "GET", path := client.path "acl" }

/-- The key that an answer describes. A secret that counts as absent is none. -/
def issuedKey : Value → Except SendError IssuedKey
  | .map data => do
    let field := fun (name : String) => Table.get? data (.text name)
    let id ←
      ((field "id").getD (.text "")).display.mapError .numeral
    return ⟨id, (field "expires").getD .null, (field "key").filter Value.isTruthy⟩
  | value => .error (.notRecord value.typeName)

/-- What a call gives back for the value in an answer. -/
def reply : (call : Call) → Value → Except SendError call.Reply
  | .createKey _, value => issuedKey value
  | .setAcl _, _ | .setDnsPreferences _, _ | .setSearchPaths _, _ | .setNameservers _, _
  | .setSplitDns _, _ | .updateSettings _, _ | .updateContact .., _ => .ok ()

def call (client : Client) (wire : Wire) (call : Call) : Wire × Except SendError call.Reply :=
  let (wire, outcome) := client.place wire (client.order call)
  (wire, outcome.bind (reply call))

def controlPlane (client : Client) : ControlPlane Wire where
  perform wire call :=
    let (wire, outcome) := client.call wire call
    (wire, outcome.mapError SendError.message)

end Client

end Tailnet.Http
