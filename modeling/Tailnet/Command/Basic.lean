import Tailnet.Command.Options

/-!
The commands of the program, and how they are written on the command line.
-/

namespace Tailnet

/-- The form in which a command reports. -/
inductive ReportFormat where
  | text
  | json
deriving DecidableEq, Repr

/-- A command, with the policy file it is about and the environment it is for. -/
inductive Command where
  | validate (file : String) (environment : Option String) (strict : Bool)
  | compile (file : String) (environment : Option String) (output : Option String)
  | plan (file : String) (environment : Option String) (format : ReportFormat)
  | apply (file : String) (environment : Option String) (dryRun : Bool) (format : ReportFormat)
deriving DecidableEq, Repr

namespace Command

def helpOption : OptionSpec := ⟨["-h", "--help"], .help⟩

def environmentOption : OptionSpec := ⟨["--env", "--environment"], .value []⟩

/-- The option that makes warnings count as errors. -/
def strictOption : OptionSpec := ⟨["--strict"], .switch⟩

def outputOption : OptionSpec := ⟨["-o", "--output"], .value []⟩

def formatOption : OptionSpec := ⟨["--output"], .value ["text", "json"]⟩

/-- The option that keeps a command from changing anything. -/
def dryRunOption : OptionSpec := ⟨["--dry-run"], .switch⟩

def Reading.format (reading : Reading) : ReportFormat :=
  if reading.value? formatOption.name = some "json" then .json else .text

def ofName (name : String) (arguments : List String) : Except Stop Command := do
  let specs ← match name with
    | "validate" => pure [helpOption, environmentOption, strictOption]
    | "compile" => pure [helpOption, environmentOption, outputOption]
    | "plan" => pure [helpOption, environmentOption, formatOption]
    | "apply" => pure [helpOption, environmentOption, dryRunOption, formatOption]
    | _ => throw .misuse
  let reading ← Reading.ofArguments specs arguments
  let file := reading.operand.getD ""
  let environment := reading.value? environmentOption.name
  return match name with
    | "validate" => .validate file environment (reading.has strictOption.name)
    | "compile" => .compile file environment (reading.value? outputOption.name)
    | "plan" => .plan file environment reading.format
    | _ => .apply file environment (reading.has dryRunOption.name) reading.format

/-- Read a command line: the first operand names the command. An unknown option before it is a
misuse, but help on the command comes first. -/
def readAfter (hasLeftover : Bool) : List String → Except Stop (Option Command)
  | [] => if hasLeftover then .error .misuse else .ok none
  | text :: rest =>
    if text = "--" then .error .misuse
    else
      match classify [helpOption] text with
      | .error stop => .error stop
      | .ok (.operand name) =>
        match ofName name rest with
        | .error stop => .error stop
        | .ok command => if hasLeftover then .error .misuse else .ok (some command)
      | .ok .unknown => readAfter true rest
      | .ok .malformed => .error .misuse
      | .ok _ => .error .help

/-- Read a command line. Without a command there is nothing to do. -/
def read (arguments : List String) : Except Stop (Option Command) := readAfter false arguments

end Command

end Tailnet
