import Tailnet.Principal.Basic
import Tailnet.Problem

/-!
Names of declared tags, groups and hosts.
-/

namespace Tailnet

/-- What can be declared. -/
inductive DeclarationKind where
  | tag
  | group
  | host
deriving DecidableEq, Repr

namespace DeclarationKind

def name : DeclarationKind → String
  | tag => "tag"
  | group => "group"
  | host => "host"

/-- The name of a kind of declaration at the beginning of a sentence. -/
def title : DeclarationKind → String
  | tag => "Tag"
  | group => "Group"
  | host => "Host"

/-- The mark before a name of that kind; hosts have none. -/
def mark : DeclarationKind → String
  | tag => tagMark
  | group => groupMark
  | host => ""

def ofName? : String → Option DeclarationKind
  | "tag" => some tag
  | "group" => some group
  | "host" => some host
  | _ => none

end DeclarationKind

/-- A name without the mark of its kind, if it begins with that. -/
def unmarked (kind : DeclarationKind) (s : String) : String :=
  match kind with
  | .host => s
  | _ => (Text.afterStart? kind.mark s).getD s

def isAlphanumeric (c : Char) : Bool :=
  ('0' ≤ c && c ≤ '9') || ('a' ≤ c && c ≤ 'z') || ('A' ≤ c && c ≤ 'Z')

/-- Names begin with a letter or digit and go on with these, points, underscores and hyphens. -/
def isName : List Char → Bool
  | [] => false
  | c :: rest =>
    isAlphanumeric c && rest.all fun d => isAlphanumeric d || d == '.' || d == '_' || d == '-'

/-- Why a declaration's name is refused. -/
inductive NameError where
  | missing
  | malformed
  | reserved (name : String)
deriving DecidableEq, Repr

/-- The name in a declaration: what is left without white space and without the mark. -/
def bareName (kind : DeclarationKind) (written : String) : Except NameError String :=
  let bare := unmarked kind (Text.trim written)
  if bare = "" then .error .missing
  else if !isName bare.toList then .error .malformed
  else if bare ∈ specialMarkers then .error (.reserved bare)
  else .ok bare

def NameError.report (kind : DeclarationKind) (written : String) (error : NameError) : Report :=
  let message := match error with
    | missing => kind.title ++ " name is required"
    | malformed =>
      "Invalid " ++ kind.name ++ " name: '" ++ written ++
        "'. Must start with a letter or digit and contain only letters, digits, '.', '_' and '-'."
    | reserved name =>
      "'" ++ name ++ "' is reserved and cannot be used as a " ++ kind.name ++ " name"
  ⟨.invalidIdentifier, .text written, message, none⟩

end Tailnet
