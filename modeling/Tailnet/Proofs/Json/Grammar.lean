import Tailnet.Json.Reader
import Tailnet.Proofs.Value

/-!
The grammar of JSON texts as the standard has it. Each notion relates the characters of a text to
what its beginning denotes and to what follows. Two things that the standard leaves open denote
nothing here: objects in which a name stands twice, and escapes of units that are half of a pair.
What white space, digits and the letters of escapes are is said with the reader.
-/

namespace Tailnet.Json

/-- White space, perhaps none, and what follows it. -/
inductive Gap : List Char → List Char → Prop where
  | none (rest : List Char) : Gap rest rest
  | space {c : Char} {cs rest : List Char} (h : isSpace c = true) (more : Gap cs rest) :
      Gap (c :: cs) rest

/-- Four hexadecimal digits that denote a 16-bit unit. -/
def IsUnit (a b c d : Char) (unit : Nat) : Prop :=
  ∃ w x y z, hexValue? a = some w ∧ hexValue? b = some x ∧ hexValue? c = some y ∧
    hexValue? d = some z ∧ unit = ((w * 16 + x) * 16 + y) * 16 + z

/-- The characters of a string after its opening quote, what they mean, and what follows the closing
quote. -/
inductive Quoted : List Char → List Char → List Char → Prop where
  | close (rest : List Char) : Quoted ('"' :: rest) [] rest
  | plain {c : Char} {cs meant rest : List Char} (hQuote : c ≠ '"') (hEscape : c ≠ '\\')
      (hControl : 0x20 ≤ c.toNat) (more : Quoted cs meant rest) : Quoted (c :: cs) (c :: meant) rest
  | letter {letter c : Char} {cs meant rest : List Char} (h : shortEscape? letter = some c)
      (more : Quoted cs meant rest) : Quoted ('\\' :: letter :: cs) (c :: meant) rest
  | unit {a b c d : Char} {unit : Nat} {cs meant rest : List Char} (h : IsUnit a b c d unit)
      (hWhole : unit < 0xD800 ∨ 0xDFFF < unit) (more : Quoted cs meant rest) :
      Quoted ('\\' :: 'u' :: a :: b :: c :: d :: cs) (Char.ofNat unit :: meant) rest
  | pair {a b c d a' b' c' d' : Char} {high low : Nat} {cs meant rest : List Char}
      (h : IsUnit a b c d high) (hHigh : 0xD800 ≤ high ∧ high ≤ 0xDBFF)
      (h' : IsUnit a' b' c' d' low) (hLow : 0xDC00 ≤ low ∧ low ≤ 0xDFFF)
      (more : Quoted cs meant rest) :
      Quoted ('\\' :: 'u' :: a :: b :: c :: d :: '\\' :: 'u' :: a' :: b' :: c' :: d' :: cs)
        (Char.ofNat (0x10000 + (high - 0xD800) * 0x400 + (low - 0xDC00)) :: meant) rest

/-- Digits, at least one. -/
def IsDigits (digits : List Char) : Prop := digits ≠ [] ∧ ∀ c ∈ digits, isDigit c = true

/-- The digits of a whole number: a single zero, or digits that begin with another one. -/
def IsWhole (digits : List Char) : Prop :=
  digits = ['0'] ∨ IsDigits digits ∧ digits.head? ≠ some '0'

theorem IsWhole.single {c : Char} (h : isDigit c = true) (hZero : c ≠ '0') : IsWhole [c] :=
  .inr ⟨⟨List.cons_ne_nil c [], List.forall_mem_singleton.mpr h⟩,
    fun hEq => hZero (Option.some.inj hEq)⟩

/-- A sign, perhaps none, and whether it is a minus. -/
inductive Sign : List Char → Bool → Prop where
  | none : Sign [] false
  | minus : Sign ['-'] true

/-- A decimal point with digits, perhaps none, and those digits. -/
inductive Fraction : List Char → List Char → Prop where
  | none : Fraction [] []
  | point {digits : List Char} (h : IsDigits digits) : Fraction ('.' :: digits) digits

/-- An exponent, perhaps none, and the number it denotes. -/
inductive Exponent : List Char → Option Int → Prop where
  | none : Exponent [] none
  | plain {mark : Char} {digits : List Char} (hMark : mark = 'e' ∨ mark = 'E')
      (h : IsDigits digits) : Exponent (mark :: digits) (some (digitsValue digits))
  | plus {mark : Char} {digits : List Char} (hMark : mark = 'e' ∨ mark = 'E')
      (h : IsDigits digits) : Exponent (mark :: '+' :: digits) (some (digitsValue digits))
  | minus {mark : Char} {digits : List Char} (hMark : mark = 'e' ∨ mark = 'E')
      (h : IsDigits digits) : Exponent (mark :: '-' :: digits) (some (-(digitsValue digits : Int)))

/-- A number with a sign. -/
def signed (negative : Bool) (size : Nat) : Int := if negative then -(size : Int) else size

/-- A number and the value it denotes. Without a fraction and an exponent that is an integer. -/
inductive Numeral : List Char → Value → Prop where
  | whole {sign digits : List Char} {negative : Bool} (hSign : Sign sign negative)
      (hWhole : IsWhole digits) :
      Numeral (sign ++ digits) (.int (signed negative (digitsValue digits)))
  | decimal {sign digits point fraction mark : List Char} {negative : Bool} {exponent? : Option Int}
      (hSign : Sign sign negative) (hWhole : IsWhole digits) (hFraction : Fraction point fraction)
      (hExponent : Exponent mark exponent?) (hParts : fraction ≠ [] ∨ exponent? ≠ none) :
      Numeral (sign ++ (digits ++ (point ++ mark))) (.scalar (.float (Decimal.toFloat negative
        (digitsValue (digits ++ fraction)) (exponent?.getD 0 - (fraction.length : Int)))))

mutual

/-- A value at the beginning of a text. -/
inductive Denotes : List Char → Value → List Char → Prop where
  | nullWord (rest : List Char) : Denotes ('n' :: 'u' :: 'l' :: 'l' :: rest) .null rest
  | trueWord (rest : List Char) :
      Denotes ('t' :: 'r' :: 'u' :: 'e' :: rest) (.bool true) rest
  | falseWord (rest : List Char) :
      Denotes ('f' :: 'a' :: 'l' :: 's' :: 'e' :: rest) (.bool false) rest
  | number {numeral : List Char} {value : Value} (h : Numeral numeral value) (rest : List Char) :
      Denotes (numeral ++ rest) value rest
  | string {cs meant rest : List Char} (h : Quoted cs meant rest) :
      Denotes ('"' :: cs) (.text (String.ofList meant)) rest
  | emptyList {cs rest : List Char} (h : Gap cs (']' :: rest)) : Denotes ('[' :: cs) (.list []) rest
  | list {cs rest : List Char} {items : List Value} (h : Items cs items rest) :
      Denotes ('[' :: cs) (.list items) rest
  | emptyRecord {cs rest : List Char} (h : Gap cs ('\x7d' :: rest)) :
      Denotes ('\x7b' :: cs) (.record []) rest
  | record {cs rest : List Char} {fields : List (String × Value)} (h : Members cs fields rest)
      (hNames : (Table.keys fields).Nodup) : Denotes ('\x7b' :: cs) (.record fields) rest

/-- The items of a list up to its closing bracket. -/
inductive Items : List Char → List Value → List Char → Prop where
  | last {cs first after rest : List Char} {value : Value} (before : Gap cs first)
      (item : Denotes first value after) (closing : Gap after (']' :: rest)) : Items cs [value] rest
  | more {cs first after others rest : List Char} {value : Value} {items : List Value}
      (before : Gap cs first) (item : Denotes first value after) (comma : Gap after (',' :: others))
      (more : Items others items rest) : Items cs (value :: items) rest

/-- A member of an object: its name and its value. -/
inductive Member : List Char → String × Value → List Char → Prop where
  | mk {cs quoted meant after others first rest : List Char} {value : Value}
      (before : Gap cs ('"' :: quoted)) (name : Quoted quoted meant after)
      (colon : Gap after (':' :: others)) (gap : Gap others first)
      (item : Denotes first value rest) : Member cs (String.ofList meant, value) rest

/-- The members of an object up to its closing brace. -/
inductive Members : List Char → List (String × Value) → List Char → Prop where
  | last {cs after rest : List Char} {field : String × Value} (member : Member cs field after)
      (closing : Gap after ('\x7d' :: rest)) : Members cs [field] rest
  | more {cs after others rest : List Char} {field : String × Value}
      {fields : List (String × Value)} (member : Member cs field after)
      (comma : Gap after (',' :: others)) (more : Members others fields rest) :
      Members cs (field :: fields) rest

end

/-- A text is JSON for a value: it holds the value, white space around it, and nothing else. -/
def IsText (text : String) (value : Value) : Prop :=
  ∃ first after, Gap text.toList first ∧ Denotes first value after ∧ Gap after []

end Tailnet.Json
