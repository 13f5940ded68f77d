import Tailnet.Terminal.Markup
import Tailnet.Terminal.Width

/-!
What a command prints: lines with markup, titles in panels, and texts that are printed as they are,
on the output or on the channel for errors.
-/

namespace Tailnet.Terminal

/-- Where something is printed. -/
inductive Channel where
  | out
  | err
deriving DecidableEq, Repr

/-- Something to print. -/
inductive Print where
  | line (channel : Channel) (text : String)
  | panel (title : String)
  | verbatim (text : String)
deriving DecidableEq, Repr

/-- What stands on both channels in the end. -/
structure Screen where
  out : String
  err : String
deriving DecidableEq, Repr

def columns : Nat := 200

/-- A character repeated, as a text. -/
def ruler (count : Nat) (c : Char) : String := String.ofList (List.replicate count c)

/-- A line of a panel, filled up with blanks. -/
def panelLine (text : String) : String :=
  "│ " ++ text ++ ruler (columns - 4 - width text.toList) ' ' ++ " │\n"

def panelText (text : String) : String :=
  "╭" ++ ruler (columns - 2) '─' ++ "╮\n" ++
    String.join ((Text.parts '\n' text).map panelLine) ++
    "╰" ++ ruler (columns - 2) '─' ++ "╯\n"

def Screen.add (screen : Screen) (channel : Channel) (text : String) : Screen :=
  match channel with
  | .out => { screen with out := screen.out ++ text }
  | .err => { screen with err := screen.err ++ text }

def Screen.print (screen : Screen) : Print → Except MarkupError Screen
  | .line channel text => do return screen.add channel ((← shown text) ++ "\n")
  | .panel title => do return screen.add .out (panelText (← shown ("[bold]" ++ title ++ "[/bold]")))
  | .verbatim text => .ok (screen.add .out text)

/-- A page of things printed one after the other. -/
abbrev Page := List Print

def Page.render (page : Page) : Except MarkupError Screen := page.foldlM Screen.print ⟨"", ""⟩

/-! Common parts of pages. -/

def blank (channel : Channel) : Page := [.line channel ""]

def styled (style text : String) : String := "[" ++ style ++ "]" ++ text ++ "[/" ++ style ++ "]"

def success (message : String) : Page := [.line .out (styled "success" ("✓ " ++ message))]

def failure (message : String) : Page := [.line .err (styled "error" ("✗ " ++ message))]

def warning (message : String) : Page := [.line .out (styled "warning" ("⚠ " ++ message))]

def header (title : String) : Page := blank .out ++ [.panel title]

/-- A title and a list of items, with an empty line behind them. -/
def itemList (channel : Channel) (title style : String) (items : List String) : Page :=
  .line channel (styled "bold" title) ::
    items.map (fun item => .line channel ("  " ++ styled style "•" ++ " " ++ item)) ++ blank channel

end Tailnet.Terminal
