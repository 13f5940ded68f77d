import Tailnet.Http.Client
import Tailnet.Settings.Assignments
import Tailnet.Settings.Integer

/-!
The settings of the program. They come from the environment and from a file of assignments; the
environment takes precedence.
-/

namespace Tailnet

/-- The settings of the program. -/
structure Settings where
  apiKey : Option String := none
  tailnet : String := "-"
  baseUrl : String := Http.defaultBaseUrl
  timeout : Int := 30
  maxAttempts : Int := 3
  logLevel : String := "WARNING"
  logsJson : Bool := true
deriving DecidableEq, Repr

/-- What is wrong with a setting. -/
inductive SettingProblem where
  | notInteger
  | tooLong
  | notTruthValue
  | unknownName
deriving DecidableEq, Repr

def SettingProblem.name : SettingProblem → String
  | notInteger => "int_parsing"
  | tooLong => "int_parsing_size"
  | notTruthValue => "bool_parsing"
  | unknownName => "extra_forbidden"

/-- A setting and what is wrong with it. -/
structure SettingFault where
  setting : String
  problem : SettingProblem
deriving DecidableEq, Repr

namespace Settings

def names : List String :=
  [ "tailscale_api_key", "tailnet", "tailscale_base_url", "http_timeout", "http_max_retries",
    "log_level", "log_json" ]

/-- What the names of settings begin with outside the program. -/
def marker : String := "tailpolicy_"

/-- The name of a setting outside the program, in small letters. -/
def outerName (name : String) : String := marker ++ name

/-- Variables by their names in small letters. Of several the last one counts. -/
def byLowerName {α : Type} (named : Table String α) : Table String α :=
  Table.ofPairs (named.map fun (name, value) => (Text.lower name, value))

/-- Read an integer, in its plain form or in one that can be brought into it. -/
def integer (text : String) : Except SettingProblem Int :=
  let cs := text.toList
  if isTooLong cs then .error .tooLong
  else
    match (plainInteger? cs).or ((simplify? cs).bind plainInteger?) with
    | some n => .ok n
    | none => .error .notInteger

/-- Read a truth value, in capitals or small letters. -/
def truthValue (text : String) : Except SettingProblem Bool :=
  let word := text.map Char.toLower
  if ["1", "on", "t", "true", "y", "yes"].contains word then .ok true
  else if ["0", "off", "f", "false", "n", "no"].contains word then .ok false
  else .error .notTruthValue

def faultsOf {α : Type} (setting : String) : Option (Except SettingProblem α) → List SettingFault
  | some (.error problem) => [⟨setting, problem⟩]
  | _ => []

/-- The value of a setting, or its default. -/
def valueOr {α : Type} (fallback : α) : Option (Except SettingProblem α) → α
  | some (.ok value) => value
  | _ => fallback

/-- Names in a file that are no settings, if something is assigned to them. A setting's name without
its marker is passed over. -/
def unknownNames (file : Table String (Option String)) : List String :=
  (file.filter fun (name, value?) =>
    !(value?.getD "").isEmpty && !names.contains name
      && !(names.map outerName).contains name).map Prod.fst

/-- The settings that variables and a file give, or all that is wrong with them, in alphabetical
order. -/
def read (environment : Table String String) (file : Table String (Option String)) :
    Except (List SettingFault) Settings :=
  let outer := byLowerName environment
  let inner := byLowerName file
  let written? := fun (name : String) =>
    match Table.get? outer (outerName name) with
    | some value => some value
    | none => (Table.get? inner (outerName name)).join
  let timeout := (written? "http_timeout").map integer
  let maxAttempts := (written? "http_max_retries").map integer
  let logsJson := (written? "log_json").map truthValue
  let faults := faultsOf "http_timeout" timeout ++ faultsOf "http_max_retries" maxAttempts ++
    faultsOf "log_json" logsJson ++ (unknownNames inner).map fun name => ⟨name, .unknownName⟩
  let fallback : Settings := {}
  if faults.isEmpty then
    .ok {
      apiKey := written? "tailscale_api_key"
      tailnet := (written? "tailnet").getD fallback.tailnet
      baseUrl := (written? "tailscale_base_url").getD fallback.baseUrl
      timeout := valueOr fallback.timeout timeout
      maxAttempts := valueOr fallback.maxAttempts maxAttempts
      logLevel := (written? "log_level").getD fallback.logLevel
      logsJson := valueOr fallback.logsJson logsJson }
  else
    .error (faults.mergeSort fun a b => !decide (b.setting < a.setting))

def client (settings : Settings) : Http.Client :=
  { apiKey := settings.apiKey
    tailnet := settings.tailnet
    baseUrl := settings.baseUrl
    timeout := .int settings.timeout
    maxAttempts := settings.maxAttempts }

end Settings

end Tailnet
