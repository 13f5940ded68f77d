import Tailnet.Text.Split

/-!
Paths of files. Empty parts and single dots count for nothing; double dots are kept, because they
mean something only where the directories are known.
-/

namespace Tailnet

/-- The names along a path, and the slashes at its beginning: none for a relative path. -/
structure FilePath where
  root : String
  parts : List String
deriving DecidableEq, Repr

namespace FilePath

def here : FilePath := ⟨"", []⟩

def isAbsolute (path : FilePath) : Bool := path.root != ""

/-- The names along a path, with the root of all directories as the first one of an absolute
path. -/
def names (path : FilePath) : List String :=
  if path.isAbsolute then "/" :: path.parts else path.parts

/-- The slashes at the beginning of a text that stay: two are different from one, and more are like
one. -/
def rootOf (text : String) : String :=
  match (text.toList.takeWhile (· == '/')).length with
  | 0 => ""
  | 2 => "//"
  | _ => "/"

def ofText (text : String) : FilePath :=
  ⟨rootOf text, (Text.parts '/' text).filter fun part => part != "" && part != "."⟩

def text (path : FilePath) : String :=
  if path.root = "" ∧ path.parts = [] then "." else path.root ++ Text.joinWith "/" path.parts

def join (base path : FilePath) : FilePath :=
  if path.isAbsolute then path else ⟨base.root, base.parts ++ path.parts⟩

def parent (path : FilePath) : FilePath := ⟨path.root, path.parts.dropLast⟩

/-- Whether a path holds the character that ends names. No file can be found or made there. -/
def hasTerminator (path : FilePath) : Bool := path.text.toList.contains '\x00'

def maxNameBytes : Nat := 255

def maxPathBytes : Nat := 4095

def isLongName (name : String) : Bool := maxNameBytes < name.utf8ByteSize

def isLong (path : FilePath) : Bool := maxPathBytes < path.text.utf8ByteSize

def name (path : FilePath) : String := path.parts.getLastD ""

/-- The last name without what follows its last dot, if something does and something precedes it. -/
def stem (path : FilePath) : String :=
  match Text.cutLast? '.' path.name.toList with
  | some (before, after) =>
    if before.isEmpty || after.isEmpty then path.name else String.ofList before
  | none => path.name

end FilePath

end Tailnet
