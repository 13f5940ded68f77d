import Tailnet.Text.Digit
import Tailnet.Text.Split

/-!
Options and operands on a command line. An option may be shortened as long as it stays unambiguous,
its value may follow an equals sign, and after two dashes nothing is an option any more.
-/

namespace Tailnet.Command

/-- What an option does: it asks for help, it is a switch, or it takes a value, perhaps only one of
some. -/
inductive OptionKind where
  | help
  | switch
  | value (choices : List String)
deriving DecidableEq, Repr

/-- An option: its spellings and what it does. The first spelling names it. -/
structure OptionSpec where
  spellings : List String
  kind : OptionKind
deriving DecidableEq, Repr

def OptionSpec.name (spec : OptionSpec) : String := spec.spellings.headD ""

/-- An option as it was written, and its value, which stands behind an equals sign or directly
behind a single letter. -/
structure Written where
  spec : OptionSpec
  spelling : String
  value : Option String
deriving DecidableEq, Repr

/-- What an argument on the command line is. Options of a single letter may share one argument; all
but the last of them are switches. -/
inductive Argument where
  | operand (text : String)
  | options (switches : List OptionSpec) (last : OptionSpec) (value : Option String)
  | unknown
  | malformed
  | divider
deriving DecidableEq, Repr

/-- Why a command line is not carried out: help was asked for, or it is malformed. -/
inductive Stop where
  | help
  | misuse
deriving DecidableEq, Repr

/-- All spellings of options, each with its option. -/
def spellingsOf (specs : List OptionSpec) : List (String × OptionSpec) :=
  specs.flatMap fun spec => spec.spellings.map fun spelling => (spelling, spec)

/-- The text before the first equals sign, and the text behind it if there is one. -/
def splitEquals (text : String) : String × Option String :=
  match Text.cutFirst? '=' text.toList with
  | some (before, after) => (String.ofList before, some (String.ofList after))
  | none => (text, none)

/-- The options that a shortened spelling may mean. A single letter may have its value attached. -/
def candidates (specs : List OptionSpec) (text : String) : List Written :=
  let all := spellingsOf specs
  if Text.startsWith "--" text then
    let (start, value) := splitEquals text
    (all.filter fun entry => Text.startsWith start entry.1).map fun (spelling, spec) =>
      ⟨spec, spelling, value⟩
  else
    let letter := String.ofList (text.toList.take 2)
    let attached := String.ofList (text.toList.drop 2)
    all.filterMap fun (spelling, spec) =>
      if spelling = letter then some ⟨spec, spelling, some attached⟩
      else if Text.startsWith text spelling then some ⟨spec, spelling, none⟩
      else none

/-- Whether characters are decimal digits, perhaps with a point before the last of them. -/
def isNumber (cs : List Char) : Bool :=
  match Text.cutFirst? '.' cs with
  | none => !cs.isEmpty && cs.all Text.isDecimal
  | some (whole, fraction) =>
    whole.all Text.isDecimal && !fraction.isEmpty && fraction.all Text.isDecimal

/-- Whether a text is a negative number, with or without a line break behind it. -/
def isNegativeNumber (text : String) : Bool :=
  match text.toList with
  | '-' :: rest => isNumber rest || (rest.getLast? == some '\n' && isNumber rest.dropLast)
  | _ => false

/-- The argument that letters behind a switch stand for. Each must be an option, and what follows
the letter of an option with a value is that value. -/
def letters (specs : List OptionSpec) (switches : List OptionSpec) (last : OptionSpec) :
    List Char → Argument
  | [] => .options switches last none
  | c :: rest =>
    match (spellingsOf specs).lookup (String.ofList ['-', c]) with
    | none => .malformed
    | some spec =>
      match spec.kind with
      | .value _ =>
        .options (switches ++ [last]) spec
          (if rest.isEmpty then none else some (String.ofList rest))
      | .help | .switch => letters specs (switches ++ [last]) spec rest

/-- The argument that a written option stands for. Only an option with a value may have one, but
letters may follow a single letter. -/
def expand (specs : List OptionSpec) (written : Written) : Argument :=
  match written.spec.kind, written.value with
  | .value _, _ | _, none => .options [] written.spec written.value
  | _, some attached =>
    if attached = "" || Text.startsWith "--" written.spelling then .malformed
    else letters specs [] written.spec attached.toList

/-- What a single argument is, or a misuse if it is ambiguous. -/
def classify (specs : List OptionSpec) (text : String) : Except Stop Argument :=
  if !Text.startsWith "-" text || text = "-" then .ok (.operand text)
  else
    let (before, after) := splitEquals text
    let all := spellingsOf specs
    match all.lookup text, after, all.lookup before with
    | some spec, _, _ => .ok (.options [] spec none)
    | none, some value, some spec => .ok (expand specs ⟨spec, before, some value⟩)
    | _, _, _ =>
      match candidates specs text with
      | [written] => .ok (expand specs written)
      | _ :: _ :: _ => .error .misuse
      | [] =>
        if isNegativeNumber text || Text.mentions ' ' text then .ok (.operand text)
        else .ok .unknown

def classifyAll (specs : List OptionSpec) : List String → Except Stop (List Argument)
  | [] => .ok []
  | text :: rest =>
    if text = "--" then .ok (.divider :: rest.map .operand)
    else do return (← classify specs text) :: (← classifyAll specs rest)

/-- What has been read from a command line: the operand, the values of options in order, and whether
anything was left over. -/
structure Reading where
  operand : Option String
  values : List (OptionSpec × String)
  hasLeftover : Bool

def Reading.note (reading : Reading) (spec : OptionSpec) (value : String) : Except Stop Reading :=
  match spec.kind with
  | .value choices =>
    if choices.isEmpty || choices.contains value then
      .ok { reading with values := reading.values ++ [(spec, value)] }
    else .error .misuse
  | .help => .error .help
  | .switch => .ok { reading with values := reading.values ++ [(spec, value)] }

/-- Note options without values, one after the other. -/
def Reading.noteAll (reading : Reading) (switches : List OptionSpec) : Except Stop Reading :=
  switches.foldlM (fun reading spec => reading.note spec "") reading

/-- Take an operand, or leave it over if there is one already. -/
def Reading.take (reading : Reading) (text : String) : Reading :=
  if reading.operand.isNone then { reading with operand := some text }
  else { reading with hasLeftover := true }

/-- Read arguments in order. The first operand is taken, with a divider directly before or behind
it; all others are left over. An option with a value takes the operand behind it if it has none. -/
def readArguments : List Argument → Reading → Except Stop Reading
  | [], reading => .ok reading
  | .divider :: .operand text :: rest, reading => readArguments rest (reading.take text)
  | .operand text :: .divider :: rest, reading => readArguments rest (reading.take text)
  | .operand text :: rest, reading => readArguments rest (reading.take text)
  | .divider :: rest, reading | .unknown :: rest, reading =>
    readArguments rest { reading with hasLeftover := true }
  | .malformed :: _, _ => .error .misuse
  | .options switches last value :: rest, reading =>
    match last.kind, value, rest with
    | .value _, some value, rest | .value _, none, .operand value :: rest => do
      readArguments rest (← (← reading.noteAll switches).note last value)
    | .value _, none, _ => .error .misuse
    | _, _, rest => do readArguments rest (← reading.noteAll (switches ++ [last]))

/-- Read the arguments behind a command: exactly one operand, and options. -/
def Reading.ofArguments (specs : List OptionSpec) (arguments : List String) :
    Except Stop Reading := do
  let reading ← readArguments (← classifyAll specs arguments) ⟨none, [], false⟩
  if reading.operand.isNone || reading.hasLeftover then throw .misuse
  return reading

def Reading.value? (reading : Reading) (name : String) : Option String :=
  (reading.values.reverse.find? fun entry => entry.1.name == name).map Prod.snd

def Reading.has (reading : Reading) (name : String) : Bool := (reading.value? name).isSome

end Tailnet.Command
