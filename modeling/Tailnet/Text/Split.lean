/-!
Cutting texts at a character, and putting the parts together again.
-/

namespace Tailnet.Text

/-- The parts between the occurrences of a separator; there is always at least one part. -/
def splitAt (sep : Char) : List Char → List (List Char)
  | [] => [[]]
  | c :: rest =>
    if c = sep then [] :: splitAt sep rest
    else
      match splitAt sep rest with
      | [] => [[c]]
      | part :: parts => (c :: part) :: parts

/-- What stands before and after the first occurrence of a separator. -/
def cutFirst? (sep : Char) : List Char → Option (List Char × List Char)
  | [] => none
  | c :: rest =>
    if c = sep then some ([], rest)
    else (cutFirst? sep rest).map fun (before, after) => (c :: before, after)

/-- What stands before and after the last occurrence of a separator. -/
def cutLast? (sep : Char) : List Char → Option (List Char × List Char)
  | [] => none
  | c :: rest =>
    match cutLast? sep rest with
    | some (before, after) => some (c :: before, after)
    | none => if c = sep then some ([], rest) else none

def afterStart? (start s : String) : Option String :=
  if start.toList.isPrefixOf s.toList then
    some (String.ofList (s.toList.drop start.toList.length))
  else none

def startsWith (start s : String) : Bool := start.toList.isPrefixOf s.toList

/-- Texts one after the other with a separator between neighbours. -/
def joinWith (sep : String) : List String → String
  | [] => ""
  | [part] => part
  | part :: rest => part ++ sep ++ joinWith sep rest

def parts (sep : Char) (s : String) : List String :=
  (splitAt sep s.toList).map String.ofList

def mentions (c : Char) (s : String) : Bool := s.toList.contains c

end Tailnet.Text
