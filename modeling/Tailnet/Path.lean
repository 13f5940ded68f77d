import Tailnet.Text.Split
import Tailnet.Value.Basic

/-!
Paths to places inside nested data, and the values found there.
-/

namespace Tailnet

/-- One step into nested data: to a field by its name, to an entry of a mapping by its key, or to
an item of a list by its position. Fields and entries lead to the same places but are written
differently. -/
inductive Step where
  | field (name : String)
  | entry (key : String)
  | item (index : Nat)
deriving DecidableEq, Repr

abbrev Path := List Step

namespace Step

def text : Step → String
  | field name => "." ++ name
  | entry key => "[" ++ key ++ "]"
  | item index => "[" ++ toString index ++ "]"

def follow? (step : Step) (value : Value) : Option Value :=
  match step, value with
  | field name, .map entries => Table.get? entries (.text name)
  | entry key, .map entries => Table.get? entries (.text key)
  | item index, .list items | item index, .tuple items => items[index]?
  | _, _ => none

end Step

namespace Path

/-- The text of a path: no point before its first field. -/
def text : Path → String
  | [] => ""
  | .field name :: rest => name ++ String.join (rest.map Step.text)
  | path => String.join (path.map Step.text)

def resolve? : Path → Value → Option Value
  | [], value => some value
  | step :: rest, value => (step.follow? value).bind (resolve? rest)

end Path

end Tailnet
