import Tailnet.Environment
import Tailnet.Files.Tree
import Tailnet.Source.Overlay

/-!
Sources in files. A policy file may have an overlay for each environment, in a directory beside it.
-/

namespace Tailnet

/-- Why a file gives no source. -/
inductive FileError where
  | missing (path : FilePath)
  | unfollowed (cause : PathFault)
  | malformed (path : FilePath) (fault : Yaml.Fault)
  | notMapping (path : FilePath)
  | overlayMalformed (environment : String) (path : FilePath) (fault : Yaml.Fault)
  | overlayNotMapping (path : FilePath)
  | directory
  | undecodable
  | meaningless (cause : Yaml.MeaningError)
  | overlay (cause : OverlayError)
  | source (path : FilePath) (cause : SourceError)
deriving DecidableEq, Repr

namespace FileError

/-- The wording of an error that concerns the file and not its details, if it has any. -/
def headline? : FileError → Option String
  | missing path => some ("Policy file not found: " ++ path.text)
  | malformed path _ => some ("Invalid YAML in " ++ path.text)
  | notMapping path => some ("Policy file must be a YAML dictionary: " ++ path.text)
  | overlayMalformed environment path _ =>
    some ("Error loading environment '" ++ environment ++ "' from " ++ path.text)
  | overlayNotMapping path => some ("Environment file must be a YAML dictionary: " ++ path.text)
  | overlay (.shape (.conversion _)) => none
  | overlay (.shape cause) => if cause.isReported then some cause.message else none
  | source path cause =>
    if cause.isReported then some (path.text ++ ": " ++ cause.message) else none
  | _ => none

/-- The whole wording of an error that is reported to the author. -/
def report? (error : FileError) : Option String :=
  match error with
  | malformed path fault | overlayMalformed _ path fault =>
    error.headline?.map fun headline => headline ++ ": " ++ fault.message path.text
  | _ => error.headline?

def ofLoad (path : FilePath) : LoadError → FileError
  | .directory => directory
  | .undecodable => undecodable
  | .malformed fault => malformed path fault
  | .meaningless cause => meaningless cause

def ofOverlayLoad (environment : String) (path : FilePath) : LoadError → FileError
  | .malformed fault => overlayMalformed environment path fault
  | cause => ofLoad path cause

end FileError

/-- The places where the overlay of an environment may be, the most special first. -/
def overlayPlaces (path : FilePath) (environment : String) : List FilePath :=
  let name := environmentName environment
  let special := FilePath.ofText (path.stem ++ "-" ++ name ++ ".yaml")
  let below := fun (directories : List String) => path.parent.join ⟨"", directories⟩
  [ (below ["environments"]).join special,
    (below ["environments"]).join (.ofText (name ++ ".yaml")),
    (below [".tailpolicy", "environments"]).join special ]

def overlayPath (tree : FileTree) (path : FilePath) (environment : String) :
    Except PathFault (Option FilePath) :=
  tree.firstFound (overlayPlaces path environment)

namespace Source

/-- The data of a policy file. An empty file has no entries. -/
def baseData (halves : Text.Halves) (tree : FileTree) (path : FilePath) :
    Except FileError Mapping := do
  match ← (tree.find path).mapError .unfollowed with
  | none => throw (.missing path)
  | some content =>
    match ← (content.readDocument halves).mapError (.ofLoad path) with
    | .scalar .null => return []
    | .map entries => return Value.entriesAlone entries
    | _ => throw (.notMapping path)

/-- The data of an overlay. A document that counts as absent has no entries. -/
def overlayData (halves : Text.Halves) (tree : FileTree) (path : FilePath)
    (environment : String) : Except FileError Mapping := do
  match ← (tree.find path).mapError .unfollowed with
  | none => return []
  | some content =>
    let value ← (content.readDocument halves).mapError (.ofOverlayLoad environment path)
    match value with
    | .map entries => return Value.entriesAlone entries
    | _ => if value.isTruthy then throw (.overlayNotMapping path) else return []

def withOverlay (halves : Text.Halves) (tree : FileTree) (path : FilePath) (environment : String)
    (data : Mapping) : Except FileError Mapping := do
  match ← (overlayPath tree path environment).mapError .unfollowed with
  | none => return data
  | some place =>
    let above ← overlayData halves tree place (environmentName environment)
    (Overlay.merge data above).mapError .overlay

/-- Read the source in a policy file, for an environment if one is named. -/
def load (tree : FileTree) (path : FilePath) (environment : Option String)
    (halves : Text.Halves := .usual) : Except FileError Source := do
  let data ← baseData halves tree path
  let chosen := environment.filter (· != "")
  let data ← match chosen with
    | some name => withOverlay halves tree path name data
    | none => pure data
  let written := environment.map fun name => if name = "" then "" else environmentName name
  (Source.read data path.stem written halves).mapError (.source path)

end Source

end Tailnet
