import Tailnet.Proofs.Json.Grammar
import Tailnet.Proofs.Json.Reader

/-!
Tokens as the reader takes them from a text. A string of the grammar is read as what it means. A
number that nothing continues is read as what it denotes, unless it is an integer of too many
digits.
-/

namespace Tailnet.Json

section Strings

theorem Quoted.length_lt {cs meant rest : List Char} (h : Quoted cs meant rest) :
    rest.length < cs.length := by
  induction h with
  | close => exact Nat.lt_succ_self _
  | _ => simp only [List.length_cons]; omega

theorem readUnit?_of_isUnit {a b c d : Char} {unit : Nat} (h : IsUnit a b c d unit)
    (rest : List Char) : readUnit? (a :: b :: c :: d :: rest) = some (unit, rest) := by
  obtain ⟨w, x, y, z, ha, hb, hc, hd, rfl⟩ := h
  simp [readUnit?, ha, hb, hc, hd]

variable {opened fuel : Nat} {cs : List Char}

theorem readString_plain {c : Char} (hQuote : c ≠ '"') (hEscape : c ≠ '\\')
    (hControl : 0x20 ≤ c.toNat) :
    readString opened (fuel + 1) (c :: cs) = consChar c (readString opened fuel cs) := by
  simp [readString, hQuote, hEscape, Nat.not_lt.mpr hControl]

theorem readString_letter {letter c : Char} (h : shortEscape? letter = some c) :
    readString opened (fuel + 1) ('\\' :: letter :: cs) =
      consChar c (readString opened fuel cs) := by
  have hLetter : letter ≠ 'u' := by
    rintro rfl
    cases h
  simp [readString, h]

theorem readString_unit {a b c d : Char} {unit : Nat} (h : IsUnit a b c d unit)
    (hWhole : unit < 0xD800 ∨ 0xDFFF < unit) (hMore : cs ≠ []) :
    readString opened (fuel + 1) ('\\' :: 'u' :: a :: b :: c :: d :: cs) =
      consChar (Char.ofNat unit) (readString opened fuel cs) := by
  have hHigh : ¬ (0xD800 ≤ unit ∧ unit ≤ 0xDBFF) := by omega
  have hHalf : ¬ (0xD800 ≤ unit ∧ unit ≤ 0xDFFF) := by omega
  simp [readString, readUnit?_of_isUnit h, Text.Halves.charOf, hHigh, hHalf, hMore]

theorem readString_pair {a b c d a' b' c' d' : Char} {high low : Nat} (h : IsUnit a b c d high)
    (hHigh : 0xD800 ≤ high ∧ high ≤ 0xDBFF) (h' : IsUnit a' b' c' d' low)
    (hLow : 0xDC00 ≤ low ∧ low ≤ 0xDFFF) :
    readString opened (fuel + 1)
        ('\\' :: 'u' :: a :: b :: c :: d :: '\\' :: 'u' :: a' :: b' :: c' :: d' :: cs) =
      consChar (Char.ofNat (0x10000 + (high - 0xD800) * 0x400 + (low - 0xDC00)))
        (readString opened fuel cs) := by
  have hPair : lowUnit? ('\\' :: 'u' :: a' :: b' :: c' :: d' :: cs) = some (low, cs) := by
    simp [lowUnit?, readUnit?_of_isUnit h', hLow]
  simp [readString, readUnit?_of_isUnit h, hHigh, hPair]

/-- One character more is read. -/
theorem readString_cons {whole meant rest : List Char} {c : Char}
    (hStep : ∀ fuel, readString opened (fuel + 1) whole = consChar c (readString opened fuel cs))
    (hLess : cs.length < whole.length) (hRest : rest.length < cs.length)
    (ih : ∀ fuel, cs.length ≤ fuel + rest.length →
      readString opened fuel cs = .ok (meant, rest)) :
    ∀ fuel, whole.length ≤ fuel + rest.length →
      readString opened fuel whole = .ok (c :: meant, rest) := by
  intro fuel hFuel
  cases fuel with
  | zero => omega
  | succ fuel => rw [hStep, ih fuel (by omega), consChar]

theorem readString_of_quoted {meant rest : List Char} (h : Quoted cs meant rest) (opened : Nat) :
    ∀ fuel, cs.length ≤ fuel + rest.length → readString opened fuel cs = .ok (meant, rest) := by
  induction h with
  | close rest =>
      intro fuel hFuel
      cases fuel with
      | zero =>
          rw [List.length_cons] at hFuel
          omega
      | succ fuel => rfl
  | plain hQuote hEscape hControl more ih =>
      exact readString_cons (fun _ => readString_plain hQuote hEscape hControl)
        (Nat.lt_succ_self _) more.length_lt ih
  | letter h more ih =>
      exact readString_cons (fun _ => readString_letter h)
        (by simp only [List.length_cons]; omega) more.length_lt ih
  | unit h hWhole more ih =>
      have hMore := List.ne_nil_of_length_pos (Nat.zero_lt_of_lt more.length_lt)
      exact readString_cons (fun _ => readString_unit h hWhole hMore)
        (by simp only [List.length_cons]; omega) more.length_lt ih
  | pair h hHigh h' hLow more ih =>
      exact readString_cons (fun _ => readString_pair h hHigh h' hLow)
        (by simp only [List.length_cons]; omega) more.length_lt ih

end Strings

/-- What comes of reading the text of a value: the value with the rest of the text, or the refusal
of an integer in it that has too many digits. -/
inductive Yields {α : Type} (short : Bool) (found : α) (rest : List Char) :
    Except ReadError (α × List Char) → Prop where
  | found (h : short = true) : Yields short found rest (.ok (found, rest))
  | refused (h : short = false) (cause : Integer.NumeralError) :
      Yields short found rest (.error (.numeral cause))

theorem Yields.bind {α β : Type} {short others : Bool} {a : α} {b : β} {rest last : List Char}
    {x : Except ReadError (α × List Char)} {f : α × List Char → Except ReadError (β × List Char)}
    (h : Yields short a rest x) (hf : Yields others b last (f (a, rest))) :
    Yields (short && others) b last (x >>= f) := by
  cases h with
  | found hShort =>
      rw [hShort, Bool.true_and]
      exact hf
  | refused hShort cause => exact .refused (by rw [hShort, Bool.false_and]) cause

theorem Yields.map {α β : Type} {short : Bool} {a : α} {rest : List Char}
    {x : Except ReadError (α × List Char)} (h : Yields short a rest x) (f : α → β) :
    Yields short (f a) rest (x >>= fun read => .ok (f read.1, read.2)) := by
  cases h with
  | found hShort => exact .found hShort
  | refused hShort cause => exact .refused hShort cause

section Numbers

theorem IsWhole.exists_cons {digits : List Char} (h : IsWhole digits) :
    ∃ c more, digits = c :: more ∧ isDigit c = true := by
  rcases h with rfl | ⟨⟨hSome, hDigits⟩, -⟩
  · exact ⟨_, _, rfl, rfl⟩
  · obtain ⟨c, more, rfl⟩ := List.exists_cons_of_ne_nil hSome
    exact ⟨c, more, rfl, hDigits c List.mem_cons_self⟩

/-- A number begins with a minus or a digit. -/
theorem Numeral.exists_cons {numeral : List Char} {value : Value} (h : Numeral numeral value) :
    ∃ c more, numeral = c :: more ∧ (c = '-' ∨ isDigit c = true) := by
  have hBegins {sign digits : List Char} {negative : Bool} (hSign : Sign sign negative)
      (hWhole : IsWhole digits) (others : List Char) :
      ∃ c more, sign ++ (digits ++ others) = c :: more ∧ (c = '-' ∨ isDigit c = true) := by
    obtain ⟨c, more, rfl, hDigit⟩ := hWhole.exists_cons
    cases hSign with
    | none => exact ⟨c, more ++ others, rfl, .inr hDigit⟩
    | minus => exact ⟨'-', c :: (more ++ others), rfl, .inl rfl⟩
  cases h with
  | whole hSign hWhole => simpa using hBegins hSign hWhole []
  | decimal hSign hWhole => exact hBegins hSign hWhole _

/-- Whether a text after a number does not continue it: it is at its end, or white space, a comma or
a closing bracket follows. -/
def Stops : List Char → Prop
  | [] => True
  | c :: _ => isSpace c = true ∨ c = ',' ∨ c = ']' ∨ c = '\x7d'

/-- A text that does not begin with a digit. -/
def Digitless (cs : List Char) : Prop := ∀ c ∈ cs.head?, isDigit c = false

theorem Stops.head {c : Char} {cs : List Char} (h : Stops (c :: cs)) :
    isDigit c = false ∧ c ≠ '.' ∧ c ≠ 'e' ∧ c ≠ 'E' := by
  simp only [Stops, isSpace, Bool.or_eq_true, beq_iff_eq, or_assoc] at h
  rcases h with rfl | rfl | rfl | rfl | rfl | rfl | rfl <;> decide

theorem Stops.digitless {cs : List Char} (h : Stops cs) : Digitless cs := by
  cases cs with
  | nil => simp [Digitless]
  | cons c cs => simpa [Digitless] using h.head.1

theorem readDigits_append {digits rest : List Char} (h : ∀ c ∈ digits, isDigit c = true)
    (hRest : Digitless rest) : readDigits (digits ++ rest) = (digits, rest) := by
  have hNone : rest.takeWhile isDigit = [] ∧ rest.dropWhile isDigit = rest := by
    cases rest with
    | nil => exact ⟨rfl, rfl⟩
    | cons c cs =>
        have hDigit : isDigit c = false := hRest c rfl
        simp [hDigit]
  rw [readDigits, List.takeWhile_append_of_pos h, List.dropWhile_append_of_pos h, hNone.1, hNone.2,
    List.append_nil]

theorem readWhole?_append {digits rest : List Char} (h : IsWhole digits) (hRest : Digitless rest) :
    readWhole? (digits ++ rest) = some (digits, rest) := by
  rcases h with rfl | ⟨⟨hSome, hDigits⟩, hFirst⟩
  · rfl
  · cases digits with
    | nil => exact absurd rfl hSome
    | cons c more =>
        have hZero : c ≠ '0' := fun hZero => hFirst (congrArg some hZero)
        rw [List.cons_append, readWhole?, if_neg hZero, if_pos (hDigits c List.mem_cons_self),
          ← List.cons_append, readDigits_append hDigits hRest]

theorem Exponent.head {mark rest : List Char} {exponent? : Option Int}
    (h : Exponent mark exponent?) (hRest : Stops rest) :
    ∀ c ∈ (mark ++ rest).head?, isDigit c = false ∧ c ≠ '.' := by
  intro c hc
  cases h with
  | none =>
      cases rest with
      | nil => cases hc
      | cons d cs =>
          cases hc
          exact ⟨hRest.head.1, hRest.head.2.1⟩
  | plain hMark | plus hMark | minus hMark =>
      cases hc
      rcases hMark with rfl | rfl <;> decide

theorem Fraction.digitless {point fraction rest : List Char} (h : Fraction point fraction)
    (hRest : Digitless rest) : Digitless (point ++ rest) := by
  cases h with
  | none => exact hRest
  | point =>
      intro c hc
      cases hc
      rfl

theorem readFraction_append {point fraction rest : List Char} (h : Fraction point fraction)
    (hRest : ∀ c ∈ rest.head?, isDigit c = false ∧ c ≠ '.') :
    readFraction (point ++ rest) = (fraction, rest) := by
  cases h with
  | none =>
      cases rest with
      | nil => rfl
      | cons c cs => simp [readFraction, (hRest c rfl).2]
  | point h =>
      rw [List.cons_append, readFraction, readDigits_append h.2 fun c hc => (hRest c hc).1]
      cases fraction with
      | nil => exact absurd rfl h.1
      | cons d more => rfl

theorem splitSign_digits {digits rest : List Char} (h : IsDigits digits) :
    Integer.splitSign (digits ++ rest) = (false, digits ++ rest) := by
  obtain ⟨hSome, hDigits⟩ := h
  cases digits with
  | nil => exact absurd rfl hSome
  | cons c more =>
      have hMinus : c ≠ '-' := by
        rintro rfl
        exact absurd (hDigits _ List.mem_cons_self) (by decide)
      have hPlus : c ≠ '+' := by
        rintro rfl
        exact absurd (hDigits _ List.mem_cons_self) (by decide)
      simp [Integer.splitSign, hMinus, hPlus]

theorem readExponent_append {mark rest : List Char} {exponent? : Option Int}
    (h : Exponent mark exponent?) (hRest : Stops rest) :
    readExponent (mark ++ rest) = (exponent?, rest) := by
  have hRead (negative : Bool) {c : Char} {unsigned digits : List Char}
      (hMark : c = 'e' ∨ c = 'E') (hDigits : IsDigits digits)
      (hSign : Integer.splitSign unsigned = (negative, digits ++ rest)) :
      readExponent (c :: unsigned) =
        (some (if negative then -(digitsValue digits : Int) else digitsValue digits), rest) := by
    rw [readExponent, if_pos (by simpa using hMark), hSign]
    dsimp only
    rw [readDigits_append hDigits.2 hRest.digitless]
    cases digits with
    | nil => exact absurd rfl hDigits.1
    | cons d more => rfl
  cases h with
  | none =>
      cases rest with
      | nil => rfl
      | cons c cs => simp [readExponent, hRest.head.2.2.1, hRest.head.2.2.2]
  | plain hMark hDigits => exact hRead false hMark hDigits (splitSign_digits hDigits)
  | plus hMark hDigits => exact hRead false hMark hDigits rfl
  | minus hMark hDigits => exact hRead true hMark hDigits rfl

/-- A whole number has all its digits, so it is not small. -/
theorem pow_length_le_digitsValue {digits : List Char} (h : IsWhole digits)
    (hZero : digits ≠ ['0']) : 10 ^ (digits.length - 1) ≤ digitsValue digits := by
  have hFold (digits : List Char) (start : Nat) : start * 10 ^ digits.length ≤
      (digits.map fun c => c.toNat - '0'.toNat).foldl (fun n d => 10 * n + d) start := by
    induction digits generalizing start with
    | nil => simp
    | cons c rest ih =>
        calc start * 10 ^ (c :: rest).length
            = (10 * start) * 10 ^ rest.length := by
              rw [List.length_cons, Nat.pow_succ', ← Nat.mul_assoc, Nat.mul_comm start]
          _ ≤ (10 * start + (c.toNat - '0'.toNat)) * 10 ^ rest.length :=
              Nat.mul_le_mul_right _ (Nat.le_add_right _ _)
          _ ≤ _ := ih _
  obtain ⟨⟨hSome, hDigits⟩, hFirst⟩ := h.resolve_left hZero
  cases digits with
  | nil => exact absurd rfl hSome
  | cons c rest =>
      have hPositive : 1 ≤ c.toNat - '0'.toNat := by
        have hDigit := hDigits c List.mem_cons_self
        simp only [isDigit, Bool.and_eq_true, decide_eq_true_eq, Char.le_def,
          UInt32.le_iff_toNat_le] at hDigit
        change 0x30 ≤ c.toNat ∧ c.toNat ≤ 0x39 at hDigit
        have hNumber : c.toNat ≠ 0x30 := fun hEq => hFirst (congrArg some (Char.toNat_inj.mp hEq))
        change 1 ≤ c.toNat - 0x30
        omega
      calc 10 ^ ((c :: rest).length - 1)
          = 1 * 10 ^ rest.length := by simp
        _ ≤ (c.toNat - '0'.toNat) * 10 ^ rest.length := Nat.mul_le_mul_right _ hPositive
        _ = (10 * 0 + (c.toNat - '0'.toNat)) * 10 ^ rest.length := by simp
        _ ≤ digitsValue (c :: rest) := hFold rest _

/-- The digits of an integer are few enough to be read exactly if they are few enough to be
written. -/
theorem length_le_maxDigits_iff {digits : List Char} (h : IsWhole digits) (negative : Bool) :
    digits.length ≤ Integer.maxDigits ↔
      (Value.int (signed negative (digitsValue digits))).isShort = true := by
  have hSize : (signed negative (digitsValue digits)).natAbs = digitsValue digits := by
    cases negative <;> simp [signed]
  rw [Value.int, Value.isShort, Scalar.isShort, Integer.isWritable_iff, hSize, Nat.pow_eq]
  by_cases hZero : digits = ['0']
  · subst hZero
    have hValue : digitsValue ['0'] = 0 := rfl
    rw [hValue]
    refine iff_of_true (by decide) ?_
    generalize Integer.maxDigits = limit
    exact Nat.pow_pos (by decide)
  generalize Integer.maxDigits = limit
  have hDigits := (h.resolve_left hZero).1
  have hLower := pow_length_le_digitsValue h hZero
  have hUpper := digitsValue_lt hDigits.2
  have hLength := List.length_pos_iff.mpr hDigits.1
  constructor
  · intro hLe
    exact Nat.lt_of_lt_of_le hUpper (Nat.pow_le_pow_right (by decide) hLe)
  · intro hLt
    have hPower := (Nat.pow_lt_pow_iff_right (by decide)).mp (Nat.lt_of_le_of_lt hLower hLt)
    omega

/-- A number stands for no word. -/
theorem find?_words_of_digit {c : Char} (h : isDigit c = true) (cs : List Char) :
    (words.find? fun word => word.1.isPrefixOf (c :: cs)) = none ∧
    (words.find? fun word => word.1.isPrefixOf ('-' :: c :: cs)) = none := by
  have hLetter (letter : Char) (hLetter : isDigit letter = false) : letter ≠ c := by
    rintro rfl
    rw [h] at hLetter
    cases hLetter
  have hn := hLetter 'n' rfl
  have ht := hLetter 't' rfl
  have hf := hLetter 'f' rfl
  have hN := hLetter 'N' rfl
  have hI := hLetter 'I' rfl
  have hMinus := hLetter '-' rfl
  constructor <;> simp [words, hn, ht, hf, hN, hI, hMinus]

/-- A sign with digits is taken for a number. -/
theorem readPlain_numeral {sign digits rest : List Char} {negative : Bool}
    (hSign : Sign sign negative) (hWhole : IsWhole digits) :
    readPlain (sign ++ (digits ++ rest)) =
      readMagnitude (sign ++ (digits ++ rest)) negative (digits ++ rest) := by
  obtain ⟨c, more, rfl, hDigit⟩ := hWhole.exists_cons
  have hWords := find?_words_of_digit hDigit (more ++ rest)
  have hMinus : c ≠ '-' := by
    rintro rfl
    cases hDigit
  cases hSign with
  | none => simp [readPlain, hWords.1, hMinus]
  | minus => simp [readPlain, hWords.2]

/-- A number that nothing continues is read as what it denotes. -/
theorem yields_numeral {numeral rest : List Char} {value : Value} (h : Numeral numeral value)
    (hRest : Stops rest) : Yields value.isShort value rest (readPlain (numeral ++ rest)) := by
  cases h with
  | @whole sign digits negative hSign hWhole =>
      have hShort := length_le_maxDigits_iff hWhole negative
      have hFraction := readFraction_append .none (Exponent.none.head hRest)
      have hExponent := readExponent_append .none hRest
      rw [List.append_assoc, readPlain_numeral hSign hWhole, readMagnitude,
        readWhole?_append hWhole hRest.digitless]
      simp only [List.nil_append] at hFraction hExponent
      simp only [hFraction, hExponent]
      split
      case isTrue hLong =>
        exact .refused (Bool.eq_false_iff.mpr fun hEq => absurd (hShort.mpr hEq) (by omega)) _
      case isFalse hLong => exact .found (hShort.mp (by omega))
  | decimal hSign hWhole hFraction hExponent hParts =>
      have hHead := hExponent.head hRest
      simp only [List.append_assoc]
      rw [readPlain_numeral hSign hWhole, readMagnitude,
        readWhole?_append hWhole (hFraction.digitless fun c hc => (hHead c hc).1)]
      simp only [readFraction_append hFraction hHead, readExponent_append hExponent hRest]
      split
      · simp at hParts
      · exact .found rfl

end Numbers

end Tailnet.Json
