import Tailnet.Source.Basic
import Tailnet.Text.Split
import Tailnet.Value.Conversion
import Tailnet.Value.Loop

/-!
Reading a policy source from free-form data. Absent and null sections count as
empty; every other section must have its shape.
-/

namespace Tailnet

/-- Why data is no policy source. -/
inductive SourceError where
  | sectionNotMapping (name : String)
  | sectionNotList (name : String)
  | textForList (place text : String)
  | notList (place : String)
  | notMapping (place : String)
  | routeWithoutNetwork (index : Nat)
  | routesShape
  | featureShape (place : String)
  | unknownContacts (types : List String)
  | conversion (cause : ConversionError)
  | expiryNotPositive
  | nameMissing
deriving DecidableEq, Repr

namespace SourceError

def message : SourceError → String
  | sectionNotMapping name => "'" ++ name ++ "' section must be a dictionary"
  | sectionNotList name => "'" ++ name ++ "' section must be a list"
  | textForList place text => "'" ++ place ++ "' must be a list, got a string: '" ++ text ++ "'"
  | notList place => "'" ++ place ++ "' must be a list"
  | notMapping place => "'" ++ place ++ "' must be a dictionary"
  | routeWithoutNetwork index =>
    "'autoApprovers.routes[" ++ toString index ++ "]' is missing 'cidr'"
  | routesShape => "'autoApprovers.routes' must be a dictionary or a list"
  | featureShape place => "'" ++ place ++ "' must be a boolean or a dictionary"
  | unknownContacts types =>
    "Unknown contact type(s): " ++ Text.joinWith ", " types ++ ". Must be one of: " ++
      Text.joinWith ", " contactTypes
  | conversion cause => cause.message
  | expiryNotPositive => "keyExpiryDays must be positive"
  | nameMissing => "Policy name is required"

/-- Whether the error is told to the author. A number of days without end is not: it stops the
program. -/
def isReported : SourceError → Bool
  | conversion .infinite => false
  | _ => true

end SourceError

namespace Source

def textOf (value : Value) : Except SourceError String :=
  value.display.mapError fun cause => .conversion (.numeral cause)

def field? (data : Mapping) (name : String) : Option Value := data.get? (.text name)

def mapping (data : Mapping) (name : String) : Except SourceError Mapping :=
  match field? data name with
  | none | some (.scalar .null) => .ok []
  | some (.map entries) => .ok (Value.entriesAlone entries)
  | some _ => .error (.sectionNotMapping name)

def items (data : Mapping) (name : String) : Except SourceError (List Value) :=
  match field? data name with
  | none | some (.scalar .null) => .ok []
  | some (.list items) => .ok (Value.itemsAlone items)
  | some _ => .error (.sectionNotList name)

def texts (place : String) : Option Value → Except SourceError (List String)
  | none | some (.scalar .null) => .ok []
  | some (.scalar (.text s)) => .error (.textForList place s)
  | some (.list items) => (Value.itemsAlone items).mapM textOf
  | some _ => .error (.notList place)

/-- The entries of a mapping of lists, under the texts of their keys. -/
def textLists (place : String) (data : Mapping) :
    Except SourceError (Table String (List String)) := do
  let pairs ← data.mapM fun (key, value) => do
    let name ← textOf (.scalar key)
    return (name, ← texts (place ++ "." ++ name) (some value))
  return Table.ofPairs pairs

/-- The entries of a mapping of single values, under the texts of their keys. -/
def textTable (data : Mapping) : Except SourceError (Table String String) := do
  let pairs ← data.mapM fun (key, value) => do
    let name ← textOf (.scalar key)
    return (name, ← textOf value)
  return Table.ofPairs pairs

def mappingAt (place : String) : Value → Except SourceError Mapping
  | .map entries => .ok (Value.entriesAlone entries)
  | _ => .error (.notMapping place)

def optionalText : Option Value → Except SourceError (Option String)
  | none | some (.scalar .null) => .ok none
  | some value => (textOf value).map some

/-- The text of the action of a rule, which is empty if absent. -/
def actionOf (rule : Mapping) : Except SourceError String :=
  textOf ((field? rule "action").getD (.text ""))

def accessSpec (rule : Value) (index : Nat) : Except SourceError AccessSpec := do
  let place := "acls[" ++ toString index ++ "]"
  let rule ← mappingAt place rule
  return {
    action := ← actionOf rule
    sources := ← texts (place ++ ".src") (field? rule "src")
    destinations := ← texts (place ++ ".dst") (field? rule "dst") }

def shellSpec (rule : Value) (index : Nat) : Except SourceError ShellSpec := do
  let place := "ssh[" ++ toString index ++ "]"
  let rule ← mappingAt place rule
  return {
    action := ← actionOf rule
    sources := ← texts (place ++ ".src") (field? rule "src")
    destinations := ← texts (place ++ ".dst") (field? rule "dst")
    users := ← texts (place ++ ".users") (field? rule "users")
    checkPeriod := ← optionalText (field? rule "checkPeriod") }

def listedRoute (entry : Value) (index : Nat) : Except SourceError RouteSpec := do
  let place := "autoApprovers.routes[" ++ toString index ++ "]"
  let entry ← mappingAt place entry
  match field? entry "cidr" with
  | none => throw (.routeWithoutNetwork index)
  | some network =>
    return {
      network := ← textOf network
      approvers := ← texts (place ++ ".approvers") (field? entry "approvers") }

/-- Read the grants of networks, a mapping from networks to approvers or a list of entries. -/
def routeSpecs : Option Value → Except SourceError (List RouteSpec)
  | none | some (.scalar .null) => .ok []
  | some (.map entries) =>
    (Value.entriesAlone entries).mapM fun (key, value) => do
      let network ← textOf (.scalar key)
      return ⟨network, ← texts ("routes." ++ network) (some value)⟩
  | some (.list entries) =>
    (Value.itemsAlone entries).zipIdx.mapM fun (entry, i) => listedRoute entry i
  | some _ => .error .routesShape

/-- Read a feature given as a truth value or as a mapping with tags. -/
def feature (place : String) : Option Value → Except SourceError (Bool × List String)
  | none | some (.scalar .null) => .ok (false, [])
  | some (.scalar (.bool enabled)) => .ok (enabled, [])
  | some (.map entries) => do
    let entries := Value.entriesAlone entries
    let enabled := ((field? entries "enabled").getD (.bool true)).isTruthy
    return (enabled, ← texts (place ++ ".tags") (field? entries "tags"))
  | some _ => .error (.featureShape place)

def dnsOptions (data : Mapping) : Except SourceError DnsOptions := do
  let split ← mapping data "splitDns"
  return {
    magicDns := ((field? data "magicDns").getD (.bool true)).isTruthy
    searchPaths := ← texts "tailnet.dns.searchPaths" (field? data "searchPaths")
    nameservers := ← texts "tailnet.dns.nameservers" (field? data "nameservers")
    splitDns := ← textLists "tailnet.dns.splitDns" split }

def keyOptions (data : Mapping) : Except SourceError KeyOptions := do
  let (ephemeral, ephemeralTags) ← feature "tailnet.keys.ephemeralKey" (field? data "ephemeralKey")
  let (infra, infraTags) ← feature "tailnet.keys.infraKey" (field? data "infraKey")
  let days ← ((field? data "keyExpiryDays").getD (.int 90)).toInteger.mapError .conversion
  let tags ← texts "tailnet.keys.tags" (field? data "tags")
  if h : 0 < days then
    return {
      reusable := ((field? data "createReusableKey").getD (.bool false)).isTruthy
      expiryDays := days
      tags, ephemeral, ephemeralTags, infra, infraTags
      expiryDays_pos := h }
  else throw .expiryNotPositive

/-- Contact types that no tailnet has, in alphabetical order. -/
def unknownContacts (contacts : Table String String) : List String :=
  (contacts.keys.filter fun kind => !contactTypes.contains kind).mergeSort
    fun a b => !decide (b < a)

def tailnetOptions (data : Mapping) : Except SourceError TailnetOptions := do
  let dns ← dnsOptions (← mapping data "dns")
  let keys ← keyOptions (← mapping data "keys")
  let settings := Table.update defaultSettings (← mapping data "settings")
  let contacts ← textTable (← mapping data "contacts")
  match unknownContacts contacts with
  | [] => return { dns, keys, settings, contacts }
  | unknown => throw (.unknownContacts unknown)

/-- Read a source from data. The given name counts if the data has none. -/
def read (data : Mapping) (name : String) (environment : Option String)
    (halves : Text.Halves := .usual) : Except SourceError Source := do
  let approvers ← mapping data "autoApprovers"
  let name ←
    match field? data "name" with
    | some value => if value.isTruthy then textOf value else pure name
    | none => pure name
  let groups ← textLists "groups" (← mapping data "groups")
  let tagOwners ← textLists "tagOwners" (← mapping data "tagOwners")
  let hosts ← textTable (← mapping data "hosts")
  let acls ← (← items data "acls").zipIdx.mapM fun (rule, i) => accessSpec rule i
  let ssh ← (← items data "ssh").zipIdx.mapM fun (rule, i) => shellSpec rule i
  let exitNode ← texts "autoApprovers.exitNode" (field? approvers "exitNode")
  let routes ← routeSpecs (field? approvers "routes")
  let tailnet ← tailnetOptions (← mapping data "tailnet")
  if name = "" then throw .nameMissing
  return {
    name, groups, tagOwners, hosts, acls, ssh, exitNode, routes, tailnet, environment, halves }

end Source

end Tailnet
