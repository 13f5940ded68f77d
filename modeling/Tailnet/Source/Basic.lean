import Tailnet.Text.Half
import Tailnet.Value.Basic

/-!
Policy sources: what an author declares, already taken apart but not yet
resolved. Tokens are texts as written.
-/

namespace Tailnet

/-- A declared rule on network access. -/
structure AccessSpec where
  action : String
  sources : List String
  destinations : List String
deriving DecidableEq, Repr

/-- A declared rule on shell access. -/
structure ShellSpec where
  action : String
  sources : List String
  destinations : List String
  users : List String
  checkPeriod : Option String
deriving DecidableEq, Repr

/-- One grant of a network to approvers. A network may have several. -/
structure RouteSpec where
  network : String
  approvers : List String
deriving DecidableEq, Repr

/-- The name service of a tailnet. Each list takes effect only if it is not empty. -/
structure DnsOptions where
  magicDns : Bool := true
  searchPaths : List String := []
  nameservers : List String := []
  splitDns : Table String (List String) := []
deriving DecidableEq, Repr

/-- The keys with which devices join a tailnet. -/
structure KeyOptions where
  reusable : Bool := false
  expiryDays : Int := 90
  tags : List String := []
  ephemeral : Bool := false
  ephemeralTags : List String := []
  infra : Bool := false
  infraTags : List String := []
  expiryDays_pos : 0 < expiryDays := by decide
deriving DecidableEq

/-- The time until keys expire, in seconds. -/
def KeyOptions.expirySeconds (keys : KeyOptions) : Int := keys.expiryDays * 24 * 60 * 60

/-- The settings of a tailnet unless a source says otherwise. -/
def defaultSettings : Mapping :=
  [ (.text "devicesApprovalOn", .bool false),
    (.text "devicesKeyDurationDays", .int 180),
    (.text "networkFlowLoggingOn", .bool false),
    (.text "regionalRoutingOn", .bool true) ]

def contactTypes : List String := ["account", "security", "support"]

/-- The configuration of a tailnet apart from its policy. Settings are passed on as they are. -/
structure TailnetOptions where
  dns : DnsOptions := {}
  keys : KeyOptions := {}
  settings : Mapping := defaultSettings
  contacts : Table String String := []

/-- Everything that one compilation starts from, with the characters that stand for surrogates in
its texts. -/
structure Source where
  name : String
  groups : Table String (List String) := []
  tagOwners : Table String (List String) := []
  hosts : Table String String := []
  acls : List AccessSpec := []
  ssh : List ShellSpec := []
  exitNode : List String := []
  routes : List RouteSpec := []
  tailnet : TailnetOptions := {}
  environment : Option String := none
  halves : Text.Halves := .usual

end Tailnet
