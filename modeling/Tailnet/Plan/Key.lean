import Tailnet.Source.Basic

/-!
Keys with which devices join a tailnet without a person's doing.
-/

namespace Tailnet

/-- The parameters of a key to create. -/
structure KeyRequest where
  name : String
  description : String
  reusable : Bool
  ephemeral : Bool
  preauthorized : Bool
  expirySeconds : Int
  tags : List String
deriving DecidableEq

def serverKeyName : String := "server-auth-key"

def containerKeyName : String := "container-auth-key"

def infrastructureKeyName : String := "infra-auth-key"

/-- What is sent to create a key. Tags are left out if there are none. -/
def keyPayload (description reusable ephemeral preauthorized expirySeconds : Value)
    (tags : List Value) : Value :=
  .record
    [ ("capabilities", .record [("devices", .record [("create", .record (
        [ ("reusable", reusable),
          ("ephemeral", ephemeral),
          ("preauthorized", preauthorized) ] ++
        (if tags.isEmpty then [] else [("tags", .list tags)])))])]),
      ("expirySeconds", expirySeconds),
      ("description", description) ]

namespace KeyRequest

def payload (request : KeyRequest) : Value :=
  keyPayload (.text request.description) (.bool request.reusable) (.bool request.ephemeral)
    (.bool request.preauthorized) (.int request.expirySeconds) (request.tags.map Value.text)

def summary (request : KeyRequest) : Value :=
  .record
    [ ("name", .text request.name),
      ("reusable", .bool request.reusable),
      ("ephemeral", .bool request.ephemeral),
      ("preauthorized", .bool request.preauthorized),
      ("expirySeconds", .int request.expirySeconds),
      ("tags", .texts request.tags) ]

end KeyRequest

/-- The keys that the options ask for. Devices with the key for containers are removed when they
disconnect. -/
def KeyOptions.plan (options : KeyOptions) : List KeyRequest :=
  (if options.reusable then
    [⟨serverKeyName, "GitOps managed reusable key for server onboarding", true, false, true,
      options.expirySeconds, options.tags⟩]
  else []) ++
  (if options.ephemeral then
    [⟨containerKeyName, "GitOps managed ephemeral key for containers", true, true, true,
      options.expirySeconds, options.ephemeralTags⟩]
  else []) ++
  (if options.infra then
    [⟨infrastructureKeyName, "GitOps managed key for infrastructure devices", true, false, true,
      options.expirySeconds, options.infraTags⟩]
  else [])

/-- Tags of keys that are not among those known, each once in the order of first mention. -/
def unknownTags (requests : List KeyRequest) (known : List String) : List String :=
  (requests.flatMap KeyRequest.tags).foldl
    (fun acc tag => if known.contains tag || acc.contains tag then acc else acc ++ [tag]) []

end Tailnet
