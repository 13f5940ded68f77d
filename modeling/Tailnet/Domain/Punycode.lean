/-!
Texts of any characters as ASCII texts. The ASCII characters of a text come first, then a hyphen,
and then numbers that tell which other characters were between them, and where. Numbers are written
in digits of a base that varies with the place of a digit and with the numbers before.
-/

namespace Tailnet.Domain.Punycode

/-- The number of digits: letters stand for zero to twenty-five, decimal digits for the others. -/
def base : Nat := 36

/-- The least threshold below which a digit ends a number. -/
def leastThreshold : Nat := 1

/-- The greatest threshold below which a digit ends a number. -/
def greatestThreshold : Nat := 26

/-- The threshold of the digit at a place, counted from zero. -/
def threshold (bias place : Nat) : Nat :=
  let t := base * (place + 1) - bias
  min (max t leastThreshold) greatestThreshold

/-- Divide a number until it is small, and count how often that takes. -/
def scaleDown : Nat → Nat → Nat → Nat × Nat
  | 0, delta, count => (delta, count)
  | fuel + 1, delta, count =>
    if (base - leastThreshold) * greatestThreshold / 2 < delta then
      scaleDown fuel (delta / (base - leastThreshold)) (count + 1)
    else (delta, count)

/-- What the first number is divided by. It is far greater than the others. -/
def damping : Nat := 700

/-- How slowly the bias approaches the size of the numbers. -/
def skew : Nat := 38

/-- The bias behind a number, given how many characters there are by then. -/
def adapt (delta : Nat) (isFirst : Bool) (count : Nat) : Nat :=
  let delta := delta / (if isFirst then damping else 2)
  let delta := delta + delta / count
  let (small, divisions) := scaleDown delta delta 0
  base * divisions + (base - leastThreshold + 1) * small / (small + skew)

def initialBias : Nat := 72

def digitChar (n : Nat) : Char := Char.ofNat (if n < 26 then 0x61 + n else 0x30 + (n - 26))

/-- The value of a digit, in small letters or capitals. -/
def digitValue? (c : Char) : Option Nat :=
  if 'a' ≤ c && c ≤ 'z' then some (c.toNat - 0x61)
  else if 'A' ≤ c && c ≤ 'Z' then some (c.toNat - 0x41)
  else if '0' ≤ c && c ≤ '9' then some (c.toNat - 0x30 + 26)
  else none

def digitsFrom (bias : Nat) : Nat → Nat → Nat → List Char
  | 0, _, n => [digitChar n]
  | fuel + 1, place, n =>
    let t := threshold bias place
    if n < t then [digitChar n]
    else
      digitChar (t + (n - t) % (base - t)) ::
        digitsFrom bias fuel (place + 1) ((n - t) / (base - t))

def writeNumber (bias n : Nat) : List Char := digitsFrom bias n 0 n

/-- What has been written: how many steps were made since the last number, the bias, how many
characters there are by now, and the digits. -/
structure Writing where
  delta : Nat
  bias : Nat
  count : Nat
  isFirst : Bool
  digits : List Char

/-- Enter the occurrences of a character, going once over a text in which the smaller characters
have been entered. -/
def writeChar (code : Nat) (codes : List Nat) (writing : Writing) : Writing :=
  let passed := codes.foldl (fun (acc : Writing) other =>
    if other < code then { acc with delta := acc.delta + 1 }
    else if other == code then
      { delta := 0
        bias := adapt acc.delta acc.isFirst (acc.count + 1)
        count := acc.count + 1
        isFirst := false
        digits := acc.digits ++ writeNumber acc.bias acc.delta }
    else acc) writing
  { passed with delta := passed.delta + 1 }

def writeAll (codes : List Nat) : List Nat → Nat → Writing → Writing
  | [], _, writing => writing
  | code :: rest, last, writing =>
    let steps := (code - last) * (writing.count + 1)
    writeAll codes rest (code + 1)
      (writeChar code codes { writing with delta := writing.delta + steps })

def encode (cs : List Char) : List Char :=
  let ascii := cs.filter fun c => c.toNat < 0x80
  let codes := cs.map Char.toNat
  let others := ((codes.filter (0x80 ≤ ·)).mergeSort (· ≤ ·)).eraseDups
  let start : Writing := ⟨0, initialBias, ascii.length, true, []⟩
  let digits := (writeAll codes others 0x80 start).digits
  if ascii.isEmpty then digits else ascii ++ '-' :: digits

/-- Read a number: the digits from a place on, each with its weight. -/
def readNumber? (bias : Nat) : Nat → Nat → List Char → Option (Nat × List Char)
  | _, _, [] => none
  | place, weight, c :: rest => do
    let digit ← digitValue? c
    let t := threshold bias place
    if digit < t then some (digit * weight, rest)
    else do
      let (more, rest) ← readNumber? bias (place + 1) (weight * (base - t)) rest
      some (digit * weight + more, rest)

/-- Enter characters into a text as numbers tell: behind which character the last one went, and
which one it was. -/
def readAll? : Nat → (text : List Nat) → (position code bias : Nat) → Bool → List Char →
    Option (List Nat)
  | _, text, _, _, _, _, [] => some text
  | 0, _, _, _, _, _, _ :: _ => none
  | fuel + 1, text, position, code, bias, isFirst, cs => do
    let (delta, rest) ← readNumber? bias 0 1 cs
    let steps := position + delta
    let code := code + steps / (text.length + 1)
    if 0x110000 ≤ code then none
    else
      let place := steps % (text.length + 1)
      let text := text.take place ++ code :: text.drop place
      readAll? fuel text (place + 1) code (adapt delta isFirst text.length) false rest

/-- The codes of the characters of the text with an ASCII form. -/
def decode (cs : List Char) : Option (List Nat) :=
  let digits := (cs.reverse.takeWhile (· != '-')).reverse
  let ascii := (cs.take (cs.length - digits.length)).dropLast
  readAll? digits.length (ascii.map Char.toNat) 0 0x80 initialBias true digits

end Tailnet.Domain.Punycode
