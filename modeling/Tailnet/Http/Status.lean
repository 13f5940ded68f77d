import Tailnet.Http.Message
import Tailnet.Json.Bytes

/-!
What a response means by its status: success, a failure that may pass, or a failure for good. A
response that leads elsewhere is not followed, but where it leads must be a place.
-/

namespace Tailnet.Http

/-- Check that a name in its ASCII form stands for one with other characters. -/
def checkName (host : String) : Except SendError Unit :=
  if Domain.mark.isPrefixOf host.toList then
    (Domain.decode host).mapError .domain |>.map fun _ => ()
  else .ok ()

def checkHost (url : Url) : Except SendError Unit := do
  checkName url.host
  let _ ← (asciiText url.place).mapError .header
  return ()

/-- Check that a location is a place as seen from a URL. A location with a scheme but no host is one
at the same host, and one without a fragment has the URL's own. -/
def checkRedirect (url : Url) (location : String) : Except SendError Unit := do
  let target ← (Url.read location).mapError .redirect
  if target.scheme != "" then checkName target.host
  if target.scheme != "" && target.host == "" then
    checkName url.host
    (Url.checkPath true true target.path.toList).mapError .url
  let fragment := (url.fragment.map Url.plain).getD ""
  if fragment != "" && (target.fragment.map Url.plain).getD "" == "" && target.text != "" then
    (Url.check (some "fragment") fragment.toList).mapError .url
  if target.host != "" then checkHost target
  checkName url.host

/-- Whether a request that was answered with a status is worth another attempt. -/
def isRetryableStatus (status : Int) : Bool := [408, 429, 500, 502, 503, 504].contains status

def isSuccess (status : Nat) : Bool := 200 ≤ status && status < 300

def reasonPhrases : List (Nat × String) :=
  [ (100, "Continue"), (101, "Switching Protocols"), (102, "Processing"), (103, "Early Hints"),
    (200, "OK"), (201, "Created"), (202, "Accepted"), (203, "Non-Authoritative Information"),
    (204, "No Content"), (205, "Reset Content"), (206, "Partial Content"), (207, "Multi-Status"),
    (208, "Already Reported"), (226, "IM Used"),
    (300, "Multiple Choices"), (301, "Moved Permanently"), (302, "Found"), (303, "See Other"),
    (304, "Not Modified"), (305, "Use Proxy"), (307, "Temporary Redirect"),
    (308, "Permanent Redirect"),
    (400, "Bad Request"), (401, "Unauthorized"), (402, "Payment Required"), (403, "Forbidden"),
    (404, "Not Found"), (405, "Method Not Allowed"), (406, "Not Acceptable"),
    (407, "Proxy Authentication Required"), (408, "Request Timeout"), (409, "Conflict"),
    (410, "Gone"), (411, "Length Required"), (412, "Precondition Failed"),
    (413, "Request Entity Too Large"), (414, "Request-URI Too Long"),
    (415, "Unsupported Media Type"), (416, "Requested Range Not Satisfiable"),
    (417, "Expectation Failed"), (418, "I'm a teapot"), (421, "Misdirected Request"),
    (422, "Unprocessable Entity"), (423, "Locked"), (424, "Failed Dependency"), (425, "Too Early"),
    (426, "Upgrade Required"), (428, "Precondition Required"), (429, "Too Many Requests"),
    (431, "Request Header Fields Too Large"), (451, "Unavailable For Legal Reasons"),
    (500, "Internal Server Error"), (501, "Not Implemented"), (502, "Bad Gateway"),
    (503, "Service Unavailable"), (504, "Gateway Timeout"), (505, "HTTP Version Not Supported"),
    (506, "Variant Also Negotiates"), (507, "Insufficient Storage"), (508, "Loop Detected"),
    (510, "Not Extended"), (511, "Network Authentication Required") ]

/-- The phrase for a status, empty for unknown ones. -/
def reasonPhrase (status : Nat) : String := (reasonPhrases.lookup status).getD ""

def statusClass (status : Nat) : String :=
  match status / 100 with
  | 1 => "Informational response"
  | 3 => "Redirect response"
  | 4 => "Client error"
  | 5 => "Server error"
  | _ => "Invalid status code"

namespace Response

/-- Where a response with some headers leads elsewhere, if it does. -/
def redirect? (response : Response) (headers : Headers) : Option String :=
  if [301, 302, 303, 307, 308].contains response.status then headers.get? "location" else none

def complaint (response : Response) (headers : Headers) (url : String) : String :=
  statusClass response.status ++ " '" ++ toString response.status ++ " " ++
    reasonPhrase response.status ++ "' for url '" ++ url ++ "'\n" ++
    (match response.redirect? headers with
      | some location => "Redirect location: '" ++ location ++ "'\n"
      | none => "") ++
    "For more information check: https://developer.mozilla.org/en-US/docs/Web/HTTP/Status/" ++
    toString response.status

def isCompressed (headers : Headers) : Bool :=
  (Text.splitAt ',' ((headers.get? "content-encoding").getD "").toList).any fun coding =>
    ((Text.trimChars coding).map Char.toLower) == "gzip".toList

/-- Check that a body may be compressed as the headers say. No text is, but less than the mark of a
compressed one is no fault yet. -/
def checkCompression (response : Response) (headers : Headers) : Except SendError Unit :=
  if isCompressed headers && 2 ≤ (Text.bytesOf response.body).length then .error .uncompressed
  else .ok ()

/-- The text of a body in the character set that the headers announce, which is the usual one if
they announce none. -/
def text (response : Response) (headers : Headers) : Except SendError String :=
  let charset := ((headers.get? "content-type").bind Charset.announced?).getD (.bytes false)
  ((charset.decode (Text.bytesOf response.body)).map String.ofList).mapError .unmarked

/-- The value in the body of a response. An empty body stands for an empty mapping. -/
def value (response : Response) : Except SendError Value :=
  if response.body = "" then .ok (.map [])
  else do
    let cs ← (Json.textOf (Text.bytesOf response.body)).mapError .undecodable
    (Json.readChars cs).mapError (.unreadable (String.ofList cs))

def result (response : Response) (url : Url) : Except SendError Value := do
  let headers ← (Headers.ofEntries response.headers).mapError .header
  response.checkCompression headers
  if !url.isFull then throw (.unknownScheme url.text)
  for location in response.redirect? headers do
    checkRedirect url location
  if isRetryableStatus response.status then
    throw (.retryable ("HTTP " ++ toString response.status ++ ": " ++ (← response.text headers)))
  else if isSuccess response.status then response.value
  else throw (.permanent response.status (response.complaint headers url.text))

end Response

/-- What an answer of the network means for the request to a URL. -/
def Answer.result (answer : Answer) (url : Url) : Except SendError Value :=
  match answer with
  | .response given => given.result url
  | .failure cause =>
    .error (if cause.kind.isTransient then .retryable cause.message else .network cause)

end Tailnet.Http
