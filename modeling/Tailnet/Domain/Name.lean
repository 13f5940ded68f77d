import Tailnet.Domain.Label
import Tailnet.Domain.Punycode
import Tailnet.Text.Split

/-!
Names of domains: labels with dots between them. A label with characters outside ASCII has an ASCII
form, which is known by the mark that it begins with.
-/

namespace Tailnet.Domain

def mark : List Char := ['x', 'n', '-', '-']

def isDot (c : Char) : Bool := c == '.' || c == '\u3002' || c == '\uFF0E' || c == '\uFF61'

/-- The labels of a name, and whether a dot stands at its end. -/
def labelsOf (cs : List Char) : List (List Char) × Bool :=
  let labels := Text.splitAt '.' (cs.map fun c => if isDot c then '.' else c)
  if labels.getLast? == some [] then (labels.dropLast, true) else (labels, false)

/-- Labels with dots between them, and one at the end if asked for. -/
def joinLabels (labels : List (List Char)) (endsWithDot : Bool) : List Char :=
  ['.'].intercalate (if endsWithDot then labels ++ [[]] else labels)

/-- A character by its code. One that is no character stands for all that are none. -/
def charOfCode (code : Nat) : Char := if code.isValidChar then Char.ofNat code else '\uFFFF'

def decodeLabel (label : List Char) : Except Fault (List Char) := do
  let small := label.map Char.toLower
  if mark.isPrefixOf small then
    let rest := small.drop mark.length
    if rest.isEmpty then throw .nothingEncoded
    if rest.getLast? == some '-' then throw .finalHyphen
    match Punycode.decode rest with
    | none => throw .undecodable
    | some codes =>
      let decoded := codes.map charOfCode
      checkLabel decoded
      return decoded
  else
    checkLabel small
    return small

def encodeLabel (label : List Char) : Except Fault (List Char) := do
  let encoded ←
    if label.all fun c => c.toNat < 0x80 then do
      let _ ← decodeLabel label
      pure label
    else do
      checkLabel label
      pure (mark ++ Punycode.encode label)
  if maxLabelLength < encoded.length then throw .labelTooLong
  return encoded

def encode (name : String) : Except Fault String := do
  let cs := name.toList
  if maxNameLength + 1 < cs.length then throw .nameTooLong
  let (labels, endsWithDot) := labelsOf cs
  let encoded := joinLabels (← labels.mapM encodeLabel) endsWithDot
  if maxNameLength + (if endsWithDot then 1 else 0) < encoded.length then throw .nameTooLong
  return String.ofList encoded

def decode (name : String) : Except Fault String := do
  let cs := name.toList
  if maxNameLength + 1 < cs.length then throw .nameTooLong
  let (labels, endsWithDot) := labelsOf cs
  return String.ofList (joinLabels (← labels.mapM decodeLabel) endsWithDot)

end Tailnet.Domain
