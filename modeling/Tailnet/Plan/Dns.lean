import Tailnet.Address.Printer
import Tailnet.Problem
import Tailnet.Source.Basic

/-!
Changes to the name service of a tailnet. The preference is always set; search
paths, name servers and domains with servers of their own only if there are any.
-/

namespace Tailnet

/-- One change to the name service. -/
inductive DnsChange where
  | preferences (magicDns : Bool)
  | searchPaths (paths : List String)
  | nameservers (servers : List String)
  | splitDns (routes : Table String (List String))
deriving DecidableEq

namespace DnsChange

def kind : DnsChange → String
  | preferences _ => "preferences"
  | searchPaths _ => "search_paths"
  | nameservers _ => "nameservers"
  | splitDns _ => "split_dns"

def payload : DnsChange → List (String × Value)
  | preferences magicDns => [("magicDNS", .bool magicDns)]
  | searchPaths paths => [("searchPaths", .texts paths)]
  | nameservers servers => [("dns", .texts servers)]
  | splitDns routes => routes.map fun (domain, servers) => (domain, .texts servers)

end DnsChange

/-- Why name service options cannot be planned. -/
inductive DnsError where
  | nameserver (server : String) (location : Path)
  | domainMissing
  | noServers (domain : String)
deriving DecidableEq, Repr

namespace DnsError

/-- The report of the error. Only a faulty server has a place. -/
def report? : DnsError → Option Report
  | nameserver server location =>
    some ⟨.invalidAddress, .text server, "Invalid nameserver '" ++ server ++ "'", some location⟩
  | _ => none

def message : DnsError → String
  | domainMissing => "Split DNS domain is required"
  | noServers domain => "Split DNS domain '" ++ domain ++ "' has no nameservers"
  | error => (error.report?.map Report.text).getD ""

end DnsError

def checkServers (location : Path) (servers : List String) : Except DnsError Unit :=
  match servers.find? fun server => (AddressRange.read? server).isNone with
  | some server => .error (.nameserver server location)
  | none => .ok ()

def checkDomain (domain : String) (servers : List String) : Except DnsError Unit :=
  if Text.trim domain = "" then .error .domainMissing
  else if servers.isEmpty then .error (.noServers domain)
  else checkServers [.field "tailnet", .field "dns", .field "splitDns", .field domain] servers

/-- The changes in the order in which they are made. -/
def DnsOptions.plan (options : DnsOptions) : Except DnsError (List DnsChange) := do
  checkServers [.field "tailnet", .field "dns", .field "nameservers"] options.nameservers
  for (domain, servers) in options.splitDns do
    checkDomain domain servers
  return .preferences options.magicDns ::
    (if options.searchPaths.isEmpty then [] else [.searchPaths options.searchPaths]) ++
    (if options.nameservers.isEmpty then [] else [.nameservers options.nameservers]) ++
    (if options.splitDns.isEmpty then [] else [.splitDns options.splitDns])

end Tailnet
