import Tailnet.Command.Basic
import Tailnet.Command.Summary
import Tailnet.Settings.Basic
import Tailnet.Source.File

/-!
Carrying out commands: what they print, which files they write, what they send, and the status with
which they end.
-/

namespace Tailnet

open Terminal

/-- What a command finds: files, variables, a network, the seconds that an application takes, the
characters that stand for surrogates in its texts, and whether the terminal refuses these. -/
structure Machine where
  files : FileTree
  processVariables : Table String String
  wire : Http.Wire
  seconds : Float
  halves : Text.Halves := .usual
  isStrict : Bool := false

/-- Why a command breaks off without a status. -/
inductive Abort where
  | settings (faults : List SettingFault)
  | undecodable
  | file (cause : FileError)
  | compile (cause : CompileError)
  | markup (cause : MarkupError)
  | store (cause : StoreError)
  | report (cause : Json.WriteError)
  | numeral (cause : Integer.NumeralError)
  /-- A text that the terminal refuses. -/
  | unprintable (text : String)

/-- How a command has gone: what it has printed so far, the machine it leaves behind, and its status
unless it broke off. -/
structure Course where
  page : Page
  machine : Machine
  status : Except Abort Nat

namespace Machine

/-- The settings that the variables and the file of assignments give. -/
def settings (machine : Machine) : Except Abort Settings := do
  let assigned ← match machine.files.find (.ofText ".env") with
    | .error _ | .ok none | .ok (some .directory) => pure []
    | .ok (some content) =>
      match content.readText with
      | .ok text => pure (Assignments.read machine.processVariables text)
      | .error _ => throw .undecodable
  (Settings.read machine.processVariables assigned).mapError .settings

def ends (machine : Machine) (page : Page) (status : Nat) : Course := ⟨page, machine, .ok status⟩

/-- The course of a command that broke off behind a page. -/
def breaks (machine : Machine) (page : Page) (abort : Abort) : Course :=
  ⟨page, machine, .error abort⟩

end Machine

/-- Why a file has no compiled policy: for a reason to report, or for one that breaks the command
off. -/
inductive Obstacle where
  | reported (message : String)
  | abort (abort : Abort)

namespace Obstacle

def ofFile (error : FileError) : Obstacle :=
  match error.report? with
  | some message => reported message
  | none => abort (.file error)

def ofCompile (error : CompileError) : Obstacle :=
  match error.report? with
  | some report => reported report.text
  | none => abort (.compile error)

end Obstacle

namespace Machine

def prints (machine : Machine) (text : String) : Bool :=
  !machine.isStrict || machine.halves.areAbsent text.toList

def source (machine : Machine) (file : String) (environment : Option String) :
    Except Obstacle Source :=
  (Source.load machine.files (.ofText file) environment machine.halves).mapError .ofFile

def compilation (machine : Machine) (file : String) (environment : Option String) :
    Except Obstacle (Source × Compilation) := do
  let source ← machine.source file environment
  let compilation ← (source.compile true (some 2)).mapError .ofCompile
  return (source, compilation)

end Machine

namespace Compilation

def violationLines (compilation : Compilation) : List String :=
  compilation.validation.violations.map Violation.shown

end Compilation

namespace Command

def invalidPage (lines : List String) : Page :=
  failure "Invalid policy" ++ blank .out ++ itemList .out "Errors:" "error" lines

def validPage (source : Source) (compilation : Compilation) : Page :=
  let document := compilation.document
  success "Valid policy" ++ blank .out ++
    [ Summary.labelled "bold" "Policy:" source.name,
      Summary.labelled "bold" "ACL rules:" (toString document.access.length),
      Summary.labelled "bold" "SSH rules:" (toString document.shell.length) ] ++
    blank .out ++
    (if compilation.validation.warnings.isEmpty then []
      else warning "Warnings:" ++
        compilation.validation.warnings.map (fun unused =>
          Print.line .out ("  " ++ styled "warning" "•" ++ " " ++ unused.message)) ++ blank .out)

/-- Validate a policy file. With `strict` a warning is an error. -/
def runValidate (machine : Machine) (file : String) (environment : Option String) (strict : Bool) :
    Course :=
  let shownEnvironment := match environment with
    | none | some "" => []
    | some name => Summary.labelled "info" "Environment:" name :: blank .out
  let top := header "Validate Policy" ++ blank .out ++ shownEnvironment
  match machine.compilation file environment with
  | .error (.abort cause) => machine.breaks top cause
  | .error (.reported message) => machine.ends (top ++ invalidPage [message]) 1
  | .ok (source, compilation) =>
    if !compilation.succeeded then
      machine.ends (top ++ invalidPage compilation.violationLines) 1
    else
      let page := top ++ validPage source compilation
      if strict && !compilation.validation.warnings.isEmpty then
        machine.ends
          (page ++ failure "Validation failed (strict mode treats warnings as errors)") 1
      else machine.ends page 0

/-- Write a compiled policy to a file, or print it. No file is meant by an empty name. -/
def deliver (machine : Machine) (text : String) (output : Option String) : Course :=
  match output.filter (· != "") with
  | none => machine.ends [.verbatim text] 0
  | some name =>
    let path := FilePath.ofText name
    match machine.files.write path text with
    | .error cause => machine.breaks [] (.store cause)
    | .ok files =>
      { machine with files }.ends
        (success
          ("Wrote " ++ path.text ++ " (" ++ toString (Text.bytesOf text).length ++ " bytes)")) 0

/-- Compile a policy file. Nothing is written for an invalid policy. -/
def runCompile (machine : Machine) (file : String) (environment : Option String)
    (output : Option String) : Course :=
  match machine.compilation file environment with
  | .error (.abort cause) => machine.breaks [] cause
  | .error (.reported message) => machine.ends (failure ("Compilation failed: " ++ message)) 1
  | .ok (_, compilation) =>
    match compilation.succeeded, compilation.output with
    | true, some text => deliver machine text output
    | _, _ =>
      let lines := compilation.violationLines
      machine.ends
        (failure ("Compilation failed: " ++ toString lines.length ++ " violations") ++ blank .err ++
          itemList .err "Errors:" "error" lines) 1

def reportJson (machine : Machine) (value : Value) (status : Nat) : Course :=
  match Json.write .report value with
  | .ok text => machine.ends [.verbatim (text ++ "\n")] status
  | .error cause => machine.breaks [] (.report cause)

/-- End with a page, if all numbers on it can be written. -/
def reportPage (machine : Machine) (page : Except Integer.NumeralError Page) (status : Nat) :
    Course :=
  match page with
  | .ok page => machine.ends page status
  | .error cause => machine.breaks [] (.numeral cause)

def statusOf (succeeded : Bool) : Nat := if succeeded then 0 else 1

def runPlan (settings : Settings) (machine : Machine) (file : String)
    (environment : Option String) (format : ReportFormat) : Course :=
  match machine.source file environment with
  | .error (.abort cause) => machine.breaks [] cause
  | .error (.reported message) =>
    match format with
    | .json =>
      reportJson machine (.record [("success", .bool false), ("errors", .texts [message])]) 1
    | .text => machine.ends (failure message) 1
  | .ok source =>
    match source.plan settings.tailnet true with
    | .error cause => machine.breaks [] (.compile cause)
    | .ok planned =>
      let status := statusOf planned.succeeded
      match format with
      | .json => reportJson machine planned.toValue status
      | .text => reportPage machine (Summary.ofPlan planned) status

def runApply (settings : Settings) (machine : Machine) (file : String)
    (environment : Option String) (dryRun : Bool) (format : ReportFormat) : Course :=
  match machine.source file environment with
  | .error (.abort cause) => machine.breaks [] cause
  | .error (.reported message) => machine.ends (failure message) 1
  | .ok source =>
    if !dryRun && settings.apiKey.isNone then
      machine.ends (failure "TAILPOLICY_TAILSCALE_API_KEY is not set") 1
    else
      match source.plan settings.tailnet true with
      | .error cause => machine.breaks [] (.compile cause)
      | .ok planned =>
        let client := { settings.client with halves := machine.halves }
        let (wire, outcome) := planned.apply client.controlPlane machine.wire dryRun
        let machine := { machine with wire }
        let status := statusOf outcome.succeeded
        match format with
        | .json => reportJson machine (outcome.toValue machine.seconds) status
        | .text => reportPage machine (Summary.ofOutcome outcome machine.seconds) status

def run (settings : Settings) (machine : Machine) : Command → Course
  | .validate file environment strict => runValidate machine file environment strict
  | .compile file environment output => runCompile machine file environment output
  | .plan file environment format => runPlan settings machine file environment format
  | .apply file environment dryRun format =>
    runApply settings machine file environment dryRun format

end Command

/-- How the program ends: with a remark on its use, with what a command printed, or broken off. -/
inductive Ending where
  | usage (status : Nat)
  | finished (screen : Screen) (status : Nat) (machine : Machine)
  | aborted (cause : Abort)

/-- How the program ends after a command. A page that cannot be shown breaks it off at that page. -/
def Course.ending (course : Course) : Ending :=
  match course.page.render, course.status with
  | .error cause, _ => .aborted (.markup cause)
  | .ok screen, status =>
    if !course.machine.prints screen.out then .aborted (.unprintable screen.out)
    else
      match status with
      | .error cause => .aborted cause
      | .ok status => .finished screen status course.machine

def runProgram (arguments : List String) (machine : Machine) : Ending :=
  match Command.read arguments with
  | .error .help => .usage 0
  | .error .misuse => .usage 2
  | .ok command? =>
    match machine.settings, command? with
    | .error cause, _ => .aborted cause
    | .ok _, none => .usage 1
    | .ok settings, some command => (command.run settings machine).ending

end Tailnet
