import Tailnet.Plan.Apply
import Tailnet.Terminal.Page

/-!
Summaries of plans and of their application, as pages.
-/

namespace Tailnet.Summary

open Terminal

def labelled (style label rest : String) : Print := .line .out (styled style label ++ " " ++ rest)

/-- The line of a section of a plan: its title, filled up to a width, and what it comes to. -/
def sectionLine (title padding rest : String) : Print :=
  .line .out ("  " ++ styled "success" ("✓ " ++ title) ++ padding ++ rest)

def detail (text : String) : Print := .line .out ("     " ++ styled "muted" "└" ++ " " ++ text)

def fieldText (name : String) : Value → Except Integer.NumeralError String
  | .map entries => ((Table.get? entries (.text name)).getD .null).display
  | _ => .ok ""

def documentSection (plan : Plan) : Page :=
  match plan.document with
  | none => []
  | some document =>
    [ sectionLine "ACL" "          " (toString (Text.bytesOf document).length ++ " bytes"),
      detail ("sha256 " ++ String.ofList ((documentId document).toList.take 12)) ] ++ blank .out

def dnsSection (plan : Plan) : Except Integer.NumeralError Page :=
  match plan.dns with
  | none => .ok []
  | some changes => do
    let kinds ← changes.mapM fun change => fieldText "kind" (Plan.dnsSummary change)
    return sectionLine "DNS" "          " (toString changes.length ++ " changes") ::
      kinds.map detail ++ blank .out

def keySection (plan : Plan) : Page :=
  if plan.keys.isEmpty then []
  else
    let line := fun (key : KeyRequest) =>
      detail (key.name ++ " (" ++
        (if key.tags.isEmpty then "untagged" else Text.joinWith ", " key.tags) ++ ")")
    sectionLine "Auth keys" "    " (toString plan.keys.length ++ " to create") ::
      plan.keys.map line ++ blank .out

def settingsSection (plan : Plan) : Page :=
  sectionLine "Settings" "     " (toString plan.settings.length ++ " values") :: blank .out ++
    (if plan.contacts.isEmpty then []
      else
        sectionLine "Contacts" "     " (toString plan.contacts.length ++ " updates") ::
          blank .out)

def ofPlan (plan : Plan) : Except Integer.NumeralError Page := do
  let top := blank .out ++ header ("Plan: " ++ plan.name) ++
    [labelled "info" "Tailnet:" plan.tailnet] ++ blank .out
  if !plan.succeeded then
    return top ++ failure "Errors:" ++
      plan.errors.map (fun error => .line .err ("   " ++ styled "error" "•" ++ " " ++ error)) ++
      blank .err ++ warning "Plan failed, nothing will be applied"
  let dns ← dnsSection plan
  let headline := styled "bold" "The following changes will be applied:"
  return top ++ [.line .out headline] ++ blank .out ++
    documentSection plan ++ dns ++ keySection plan ++ settingsSection plan ++
    (if plan.warnings.isEmpty then [] else itemList .out "Warnings:" "warning" plan.warnings) ++
    [labelled "bold" "Total:" (toString plan.total ++ " resources")] ++ blank .out

def stageTitle (name : String) : String :=
  (([("acl", "ACL"), ("dns", "DNS"), ("keys", "Auth keys"), ("settings", "Settings")] :
    List (String × String)).lookup name).getD name

/-- A title filled up with blanks to twelve columns. -/
def padded (title : String) : String := title ++ ruler (12 - title.length) ' '

/-- The sentence on the success of an application that took some seconds. -/
def conclusion (outcome : Outcome) (seconds : Float) : String :=
  let duration := if 0.0 < seconds then " in " ++ Decimal.oneDecimal seconds ++ "s" else ""
  let applied := "Applied " ++ toString outcome.total ++ " resources"
  if outcome.dryRun && outcome.succeeded then styled "bold cyan" "Dry run: nothing applied"
  else if outcome.succeeded then styled "bold green" (applied ++ duration)
  else styled "bold yellow" (applied ++ " with errors" ++ duration)

def ofOutcome (outcome : Outcome) (seconds : Float) : Except Integer.NumeralError Page := do
  let outputs ← outcome.outputs.mapM fun (name, value) => do
    return Print.line .out ("  " ++ styled "cyan" (name ++ ":") ++ " " ++ (← value.display))
  let stages := outcome.applied.map fun (name, count) =>
    Print.line .out ("  " ++ styled "green" ("✓ " ++ padded (stageTitle name)) ++ " " ++
      toString count ++ " applied")
  return blank .out ++ stages ++ blank .out ++ [.line .out (conclusion outcome seconds)] ++
    (if outputs.isEmpty then []
      else blank .out ++ [.line .out (styled "bold" "Outputs:")] ++ outputs) ++
    (if outcome.warnings.isEmpty then []
      else blank .out ++ itemList .out "Warnings:" "warning" outcome.warnings) ++
    (if outcome.errors.isEmpty then []
      else blank .out ++ itemList .out "Errors:" "error" outcome.errors) ++
    blank .out

end Tailnet.Summary
