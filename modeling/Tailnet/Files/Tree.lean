import Tailnet.Files.Path
import Tailnet.Yaml.Document

/-!
The files below a directory: what they hold, which paths lead to them, and what changes when one is
written.
-/

namespace Tailnet

/-- What is found at a path. A file holds a text, bytes, or a document whose value is known. -/
inductive Content where
  | directory
  | document (value : Value)
  | text (text : String)
  | bytes (data : List UInt8)

/-- Why a file cannot be read. -/
inductive LoadError where
  | directory
  | undecodable
  | malformed (fault : Yaml.Fault)
  | meaningless (cause : Yaml.MeaningError)
deriving DecidableEq, Repr

/-- A path that is too long to be followed, as a whole or in one of its names. -/
inductive PathFault where
  | tooLong
deriving DecidableEq, Repr

/-- Why a file cannot be written: it is a directory, a file stands where a directory should, or
there can be no file at its path. -/
inductive StoreError where
  | directory
  | fileInTheWay
  | fileAbove
  | tooLong
  | terminator
deriving DecidableEq, Repr

def Content.readText : Content → Except LoadError String
  | .directory => .error .directory
  | .text s => .ok s
  | .bytes data =>
    match String.fromUTF8? ⟨data.toArray⟩ with
    | some s => .ok s
    | none => .error .undecodable
  | .document _ => .ok ""

def Content.readDocument (halves : Text.Halves) : Content → Except LoadError Value
  | .document value => .ok value
  | content => do
    match Yaml.read halves (← content.readText) with
    | .ok value => return value
    | .error (.malformed fault) => throw (.malformed fault)
    | .error (.meaningless cause) => throw (.meaningless cause)

/-- Files and directories by the names on the way to them. -/
abbrev FileTree := Table (List String) Content

namespace FileTree

def ofFiles (files : List (String × Content)) : FileTree :=
  Table.ofPairs (files.map fun file => ((FilePath.ofText file.1).names, file.2))

/-- Whether a directory is found under some names: one that is listed, or that holds something. -/
def hasDirectory (tree : FileTree) (names : List String) : Bool :=
  names.isEmpty || tree.any fun entry =>
    (match entry with
      | (path, .directory) => path == names
      | _ => false) || (names.isPrefixOf entry.1 && names.length < entry.1.length)

/-- Go up from a directory, given by its names with the last one first. Nothing lies above the root;
above the directory that relative paths start from lies one that has no name of its own. -/
def above : List String → List String
  | [] => [".."]
  | "/" :: rest => "/" :: rest
  | ".." :: rest => ".." :: ".." :: rest
  | _ :: rest => rest

/-- The names under which a path is found, if each of its steps leads out of a directory of the
tree. The names walked so far are given with the last one first. -/
def walk (tree : FileTree) :
    List String → List String → Except PathFault (Option (List String))
  | walked, [] => .ok (some walked.reverse)
  | walked, part :: rest =>
    if !tree.hasDirectory walked.reverse then .ok none
    else if FilePath.isLongName part then .error .tooLong
    else if part = ".." then walk tree (above walked) rest
    else walk tree (part :: walked) rest

def find (tree : FileTree) (path : FilePath) : Except PathFault (Option Content) := do
  if path.hasTerminator then return none
  if path.isLong then throw .tooLong
  match ← tree.walk [] path.names with
  | none => return none
  | some names =>
    match tree.get? names with
    | some content => return some content
    | none => return if tree.hasDirectory names then some .directory else none

def firstFound (tree : FileTree) : List FilePath → Except PathFault (Option FilePath)
  | [] => .ok none
  | path :: rest => do if (← tree.find path).isSome then return some path else firstFound tree rest

/-- The names under which a path will be found once all directories on it have been made. -/
def makeDirectories (tree : FileTree) :
    List String → List String → Except StoreError (List String)
  | walked, [] => .ok walked.reverse
  | walked, part :: rest =>
    if FilePath.isLongName part then .error .tooLong
    else if part = ".." then makeDirectories tree (above walked) rest
    else
      match tree.get? (part :: walked).reverse with
      | none | some .directory => makeDirectories tree (part :: walked) rest
      | some _ => .error (if rest.isEmpty then .fileInTheWay else .fileAbove)

/-- Write a text to a file, with all directories that lead to it. -/
def write (tree : FileTree) (path : FilePath) (text : String) : Except StoreError FileTree := do
  if path.parent.hasTerminator then throw .terminator
  if path.parent.isLong then throw .tooLong
  let names := (← tree.makeDirectories [] path.parent.names) ++ path.parts.getLast?.toList
  if path.hasTerminator then throw .terminator
  if path.isLong || FilePath.isLongName path.name then throw .tooLong
  if path.name = ".." || tree.hasDirectory names then throw .directory
  return tree.insert names (.text text)

/-- The files with their texts in which a tree differs from an earlier one. -/
def changesSince (tree earlier : FileTree) : List (List String × String) :=
  tree.filterMap fun (names, content) =>
    match content, earlier.get? names with
    | .text new, some (.text old) => if new = old then none else some (names, new)
    | .text new, _ => some (names, new)
    | _, _ => none

end FileTree

end Tailnet
