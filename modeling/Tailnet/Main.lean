import Tailnet.Command.Run

/-!
The program itself: it gathers the files and variables that a command may need, runs the command,
and carries out what that left to be done. It has no connection to a network, so that a control
plane can never be reached from it.
-/

namespace Tailnet.Main

/-- The system's code for reading a directory as if it were a file. -/
def directoryCode : UInt32 := 21

/-- What stands at a path, if anything can be read there. -/
def readContent (path : String) : IO (Option Content) := do
  try
    return some (.bytes (← IO.FS.readBinFile path).toList)
  catch error =>
    match error with
    | .inappropriateType _ code _ =>
      return if code == directoryCode then some .directory else none
    | _ => return none

def waysTo (path : FilePath) : List FilePath :=
  (List.range (path.parts.length + 1)).map fun count => { path with parts := path.parts.take count }

/-- The names under which a path is known, whether or not it leads anywhere. -/
def namesOf (path : FilePath) : List String :=
  (path.names.foldl (fun walked part =>
    if part = ".." then FileTree.above walked else part :: walked) []).reverse

/-- The files and directories on the way to some paths. -/
def gather (paths : List FilePath) : IO FileTree :=
  (paths.flatMap waysTo).foldlM (fun tree path => do
    match ← readContent path.text with
    | some content => return if namesOf path = [] then tree else tree.insert (namesOf path) content
    | none => return tree) ([] : FileTree)

def pathsOf : Command → List FilePath
  | .validate file environment _ | .compile file environment _ | .plan file environment _
  | .apply file environment _ _ =>
    .ofText file :: overlayPlaces (.ofText file) (environment.getD "")

def readVariables : IO (Table String String) := do
  let mut found := []
  for name in Settings.names do
    let variable_ := (Settings.outerName name).map Char.toUpper
    match ← IO.getEnv variable_ with
    | some value => found := found ++ [(variable_, value)]
    | none => pure ()
  return found

/-- A network that cannot be reached, for as many attempts as one call can make. -/
def noNetwork (machine : Machine) : Http.Wire :=
  let attempts := match machine.settings with
    | .ok settings => settings.maxAttempts.toNat + 1
    | .error _ => 1
  .ofAnswers (List.replicate attempts (.failure ⟨.connecting, "All connection attempts failed"⟩))

def findMachine (command? : Option Command) : IO Machine := do
  let files ← gather (.ofText ".env" :: (command?.map pathsOf).getD [])
  let machine : Machine :=
    { files, processVariables := ← readVariables, wire := .ofAnswers [], seconds := 0.0
      isStrict := true }
  return { machine with wire := noNetwork machine }

/-- The paths that a command may write to, which may be in the way of each other. -/
def targetsOf : Command → List FilePath
  | .compile _ _ (some output) => [.ofText output]
  | _ => []

def store (before after : FileTree) : IO Unit := do
  for (names, text) in after.changesSince before do
    let path := match names with
      | "/" :: rest => "/" ++ Text.joinWith "/" rest
      | names => Text.joinWith "/" names
    IO.FS.createDirAll (FilePath.ofText path).parent.text
    IO.FS.writeFile path text

/-- A short description of how the program is used. -/
def usage : String :=
  "usage: tailpolicy [-h] (validate | compile | plan | apply) policy_file [--env ENVIRONMENT] ..."

def complaint : Abort → String
  | .settings faults =>
    Text.joinWith "\n" (faults.map fun fault => fault.setting ++ ": " ++ fault.problem.name)
  | .undecodable => "The settings file is not a UTF-8 text"
  | .file (.meaningless cause) => cause.message
  | .file .directory => "The policy file is a directory"
  | .file .undecodable => "The policy file is not a UTF-8 text"
  | .file _ => "The policy file has a section that cannot be used"
  | .compile cause => cause.message
  | .markup (.unopened mark) => "Nothing is closed by " ++ mark
  | .markup (.parameters text) => "No literal: " ++ text
  | .markup (.colour cause) => cause.message
  | .store .directory => "The output is a directory"
  | .store _ => "A file is in the way of the output"
  | .report cause => cause.message
  | .numeral cause => cause.message
  | .unprintable text => Text.Halves.usual.message text

end Tailnet.Main

open Tailnet Main in
def main (arguments : List String) : IO UInt32 := do
  let command? := match Command.read arguments with
    | .ok command? => command?
    | .error _ => none
  let found ← findMachine command?
  let written ← gather ((command?.map targetsOf).getD [])
  let machine := { found with files := Table.update written found.files }
  match runProgram arguments machine with
  | .usage status =>
    if status = 2 then (← IO.getStderr).putStrLn usage else IO.println usage
    return status.toUInt32
  | .aborted cause =>
    (← IO.getStderr).putStrLn (complaint cause)
    return 1
  | .finished screen status after =>
    store machine.files after.files
    IO.print screen.out
    (← IO.getStderr).putStr screen.err
    return status.toUInt32
