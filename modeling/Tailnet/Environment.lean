import Tailnet.Text.Blank
import Tailnet.Text.Lowercase

/-!
Names of environments, such as development and production.
-/

namespace Tailnet

/-- The usual name of an environment. Other names are kept, in lower case and without white space
around them. -/
def environmentName (written : String) : String :=
  let name := Text.trim (Text.lower written)
  if name = "dev" ∨ name = "development" then "dev"
  else if name = "stage" ∨ name = "staging" then "staging"
  else if name = "prod" ∨ name = "production" then "prod"
  else name

end Tailnet
