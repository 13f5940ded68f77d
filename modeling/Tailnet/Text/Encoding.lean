import Tailnet.Text.Quoted

/-!
Texts as bytes. A character is written as one to four bytes, or in units of two or four bytes whose
order is a matter of agreement. Where bytes stand for no character, the replacement character stands
in the text, or reading fails. Bytes can also be shown as a text, and texts from files begin and
break lines in ways of their own.
-/

namespace Tailnet.Text

/-- What stands in a text for bytes that are no character. -/
def replacement : Char := '\uFFFD'

/-- The bytes of a text, one to four for each character. -/
def bytesOf (s : String) : List UInt8 := s.toUTF8.toList

/-- A character by its code, if there is one. -/
def char? (code : Nat) : Option Char := if code.isValidChar then some (Char.ofNat code) else none

/-! Bytes. -/

/-- What a first byte says: how many bytes follow, the least and the greatest the next one may be,
and the part of the code that it holds. -/
structure Lead where
  following : Nat
  least : Nat
  greatest : Nat
  bits : Nat

/-- What a byte says that begins a character outside ASCII. The bounds of the next byte leave out
what could be written shorter, what is half of a pair, and what is too large. -/
def lead? (b : Nat) : Option Lead :=
  if 0xC2 ≤ b && b ≤ 0xDF then some ⟨1, 0x80, 0xBF, b % 0x20⟩
  else if b = 0xE0 then some ⟨2, 0xA0, 0xBF, 0⟩
  else if b = 0xED then some ⟨2, 0x80, 0x9F, 0xD⟩
  else if 0xE1 ≤ b && b ≤ 0xEF then some ⟨2, 0x80, 0xBF, b % 0x10⟩
  else if b = 0xF0 then some ⟨3, 0x90, 0xBF, 0⟩
  else if 0xF1 ≤ b && b ≤ 0xF3 then some ⟨3, 0x80, 0xBF, b % 8⟩
  else if b = 0xF4 then some ⟨3, 0x80, 0x8F, 4⟩
  else none

def continuation (lead : Lead) (bytes : List UInt8) : List UInt8 :=
  match bytes with
  | [] => []
  | b :: rest =>
    if lead.least ≤ b.toNat && b.toNat ≤ lead.greatest then
      b :: (rest.take (lead.following - 1)).takeWhile fun c =>
        0x80 ≤ c.toNat && c.toNat ≤ 0xBF
    else []

/-- The character that bytes begin with, and how many bytes behind the first belong to it. A
character that is broken off is replaced as a whole. -/
def firstChar (b : UInt8) (rest : List UInt8) : Char × Nat :=
  if b.toNat < 0x80 then (Char.ofNat b.toNat, 0)
  else
    match lead? b.toNat with
    | none => (replacement, 0)
    | some lead =>
      let more := continuation lead rest
      if more.length = lead.following then
        (Char.ofNat (more.foldl (fun code c => code * 64 + c.toNat % 64) lead.bits), more.length)
      else (replacement, more.length)

def ofBytes : List UInt8 → List Char
  | [] => []
  | b :: rest =>
    let (c, more) := firstChar b rest
    c :: ofBytes (rest.drop more)
termination_by bytes => bytes.length
decreasing_by simp only [List.length_cons, List.length_drop]; omega

/-! Units. -/

/-- How the bytes of a unit are ordered. -/
inductive ByteOrder where
  | big
  | little
deriving DecidableEq, Repr

def ByteOrder.value (order : ByteOrder) (bytes : List UInt8) : Nat :=
  let first := match order with
    | big => bytes
    | little => bytes.reverse
  first.foldl (fun n b => 256 * n + b.toNat) 0

/-- The characters of units of two bytes, two units for each outside the first plane. -/
def ofPairs (order : ByteOrder) : List UInt8 → List Char
  | a :: b :: c :: d :: rest =>
    let high := order.value [a, b]
    let low := order.value [c, d]
    if 0xD800 ≤ high && high ≤ 0xDBFF then
      if 0xDC00 ≤ low && low ≤ 0xDFFF then
        Char.ofNat (0x10000 + (high - 0xD800) * 0x400 + (low - 0xDC00)) :: ofPairs order rest
      else replacement :: ofPairs order (c :: d :: rest)
    else (char? high).getD replacement :: ofPairs order (c :: d :: rest)
  | [a, b, c] =>
    let unit := order.value [a, b]
    if 0xD800 ≤ unit && unit ≤ 0xDBFF then [replacement]
    else (char? unit).getD replacement :: ofPairs order [c]
  | [a, b] => [(char? (order.value [a, b])).getD replacement]
  | [_] => [replacement]
  | [] => []
termination_by bytes => bytes.length

def ofQuads (order : ByteOrder) : List UInt8 → List Char
  | a :: b :: c :: d :: rest =>
    (char? (order.value [a, b, c, d])).getD replacement :: ofQuads order rest
  | [] => []
  | _ => [replacement]

/-! Writing and reading that fails. -/

/-- What is wrong with a text that has characters outside a form, which are told by their codes:
where the first of them stand, and which one it is if it is only one. -/
def outsideMessage (form reason : String) (outside? : Char → Option Nat) (text : String) :
    String :=
  let codes := text.toList.map outside?
  let first := codes.findIdx Option.isSome
  let place := match (codes.drop first).takeWhile Option.isSome with
    | [some code] =>
      let escape := if code < 0x100 then 'x' :: hex 2 code
        else if code < 0x10000 then 'u' :: hex 4 code
        else 'U' :: hex 8 code
      "character '\\" ++ String.ofList escape ++ "' in position " ++ toString first
    | run =>
      "characters in position " ++ toString first ++ "-" ++ toString (first + (run.length - 1))
  "'" ++ form ++ "' codec can't encode " ++ place ++ ": " ++ reason

def asciiMessage (text : String) : String :=
  outsideMessage "ascii" "ordinal not in range(128)"
    (fun c => if 0x80 ≤ c.toNat then some c.toNat else none) text

/-- Bytes that cannot be read: what they should have been, where they stand, and what is wrong. -/
structure Unreadable where
  form : String
  first : Nat
  bytes : List UInt8
  reason : String
deriving DecidableEq, Repr

def Unreadable.message (fault : Unreadable) : String :=
  let last := fault.first + (fault.bytes.length - 1)
  let place := match fault.bytes with
    | [b] => "byte 0x" ++ String.ofList (hex 2 b.toNat) ++ " in position " ++ toString fault.first
    | _ => "bytes in position " ++ toString fault.first ++ "-" ++ toString last
  "'" ++ fault.form ++ "' codec can't decode " ++ place ++ ": " ++ fault.reason

def ByteOrder.name : ByteOrder → String
  | big => "be"
  | little => "le"

/-- Read units of two bytes. Only a half unit at the end is a fault. -/
def readPairs (order : ByteOrder) (bytes : List UInt8) : Except Unreadable (List Char) :=
  if bytes.length % 2 = 0 then .ok (ofPairs order bytes)
  else
    .error ⟨"utf-16-" ++ order.name, bytes.length - 1, bytes.drop (bytes.length - 1),
      "truncated data"⟩

def readQuads (order : ByteOrder) (position : Nat) : List UInt8 → Except Unreadable (List Char)
  | a :: b :: c :: d :: rest =>
    let code := order.value [a, b, c, d]
    if 0x110000 ≤ code then
      .error ⟨"utf-32-" ++ order.name, position, [a, b, c, d],
        "code point not in range(0x110000)"⟩
    else (readQuads order (position + 4) rest).map ((char? code).getD replacement :: ·)
  | [] => .ok []
  | rest => .error ⟨"utf-32-" ++ order.name, position, rest, "truncated data"⟩

/-! Texts from files: marks that say how a text is encoded, and the ends of lines. -/

/-- The mark that a text may begin with to show its encoding. -/
def byteOrderMark : Char := '\uFEFF'

def withoutMark : List Char → List Char
  | [] => []
  | c :: rest => if c = byteOrderMark then rest else c :: rest

/-- Line breaks of one kind: a carriage return, alone or before a line feed, is a line feed. -/
def unifyBreaks : List Char → List Char
  | [] => []
  | '\r' :: '\n' :: rest => '\n' :: unifyBreaks rest
  | '\r' :: rest => '\n' :: unifyBreaks rest
  | c :: rest => c :: unifyBreaks rest

/-! Bytes as texts of sixty-four characters, each of which stands for six bits. Equals signs fill up
the last group of four. -/

namespace Base64

def digit (n : Nat) : Char :=
  if n < 26 then Char.ofNat (0x41 + n)
  else if n < 52 then Char.ofNat (0x61 + (n - 26))
  else if n < 62 then Char.ofNat (0x30 + (n - 52))
  else if n = 62 then '+'
  else '/'

/-- The characters for three bytes, or for the one or two left at the end. -/
def encode : List UInt8 → List Char
  | a :: b :: c :: rest =>
    digit (a.toNat / 4) :: digit (a.toNat % 4 * 16 + b.toNat / 16) ::
      digit (b.toNat % 16 * 4 + c.toNat / 64) :: digit (c.toNat % 64) :: encode rest
  | [a, b] =>
    [digit (a.toNat / 4), digit (a.toNat % 4 * 16 + b.toNat / 16), digit (b.toNat % 16 * 4), '=']
  | [a] => [digit (a.toNat / 4), digit (a.toNat % 4 * 16), '=', '=']
  | [] => []

end Base64

end Tailnet.Text
