import Tailnet.Http.Charset
import Tailnet.Http.Header
import Tailnet.Http.Query
import Tailnet.Http.Url
import Tailnet.Json.Reader
import Tailnet.Json.Writer
import Tailnet.Text.Half
import Tailnet.Value.Conversion

/-!
What is sent and what comes back: requests, responses, failures of the network, and the ways in
which sending can fail.
-/

namespace Tailnet.Http

/-- A request as it goes over the network. -/
structure Request where
  method : String
  url : Url
  headers : Headers
  timeout : Scalar
  body : String

/-- A response. Its headers are free-form until they have been looked through. -/
structure Response where
  status : Nat
  headers : Mapping
  body : String

/-- The kinds of failures of the network. -/
inductive NetworkFailureKind where
  | timeout (name : String)
  | connecting
  | reading
  | other (name : String)
deriving DecidableEq, Repr

/-- A failure of the network, in its own words. -/
structure NetworkFailure where
  kind : NetworkFailureKind
  message : String
deriving DecidableEq, Repr

/-- Whether a failure may pass if the request is sent again. -/
def NetworkFailureKind.isTransient : NetworkFailureKind → Bool
  | timeout _ | connecting | reading => true
  | other _ => false

/-- How the network answers a request. -/
inductive Answer where
  | response (response : Response)
  | failure (failure : NetworkFailure)

/-- Why a body cannot be sent: it has no JSON text, or a text that has no bytes. -/
inductive Unsendable where
  | unwritable (cause : Json.WriteError)
  | unencodable (halves : Text.Halves) (text : String)

def Unsendable.message : Unsendable → String
  | unwritable cause => cause.message
  | unencodable halves text => halves.message text

/-- Why a request gave no result. Only the first kind is worth another attempt. -/
inductive SendError where
  | retryable (message : String)
  | permanent (status : Nat) (message : String)
  | breakerOpen
  | network (failure : NetworkFailure)
  /-- Something in the place of a mapping that cannot be taken for one. -/
  | pairs (cause : PairsError)
  | url (cause : UrlFault)
  | header (cause : HeaderFault)
  | query (cause : QueryFault)
  | domain (cause : Domain.Fault)
  | unsendable (cause : Unsendable)
  /-- An answer for a URL that does not say how to reach its host. -/
  | unknownScheme (url : String)
  | redirect (cause : UrlFault)
  /-- A body that is not compressed as it should be. -/
  | uncompressed
  | unmarked (cause : Unmarked)
  | undecodable (cause : Text.Unreadable)
  | unreadable (body : String) (cause : Json.ReadError)
  | notRecord (typeName : String)
  | numeral (cause : Integer.NumeralError)

namespace SendError

def isRetryable : SendError → Bool
  | retryable _ => true
  | _ => false

def message : SendError → String
  | retryable message => message
  | permanent _ message => message
  | breakerOpen => "Circuit is open"
  | network failure => failure.message
  | pairs cause => cause.message
  | url cause => cause.message
  | header cause => cause.message
  | query cause => cause.message
  | domain cause => cause.message
  | unsendable cause => cause.message
  | unknownScheme written => "unknown url type: " ++ Text.quoted written
  | redirect cause => "Invalid URL in location header: " ++ cause.message ++ "."
  | uncompressed => "Error -3 while decompressing data: incorrect header check"
  | unmarked cause => cause.message
  | undecodable cause => cause.message
  | unreadable body cause => cause.message body.toList
  | notRecord typeName => "'" ++ typeName ++ "' object has no attribute 'get'"
  | numeral cause => cause.message

end SendError

end Tailnet.Http
