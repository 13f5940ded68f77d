import Tailnet.Policy.Document
import Tailnet.Proofs.Json.Conformance

/-!
Texts that have bytes. A JSON text has the characters of the texts in its value, and besides them
only ASCII, so that the value alone decides whether surrogates are among them. That is so whatever
the indentation, and a document is written exactly if its data has a JSON text and no surrogates.
-/

namespace Tailnet

namespace Text.Halves

variable {halves : Halves}

theorem code?_of_ascii {c : Char} (h : c.toNat < 0x80) : halves.code? c = none := by
  have hFirst : ¬halves.first ≤ c.toNat := by have := halves.isPrivate; omega
  simp [code?, hFirst]

end Text.Halves

/-- Characters of ASCII only. -/
def Text.Ascii (cs : List Char) : Prop := ∀ c ∈ cs, c.toNat < 0x80

namespace Text.Ascii

instance (cs : List Char) : Decidable (Ascii cs) :=
  List.decidableBAll (fun c : Char => c.toNat < 0x80) cs

theorem cons {c : Char} {cs : List Char} (h : c.toNat < 0x80) (more : Ascii cs) :
    Ascii (c :: cs) := List.forall_mem_cons.mpr ⟨h, more⟩

theorem append {front back : List Char} (hFront : Ascii front) (hBack : Ascii back) :
    Ascii (front ++ back) := List.forall_mem_append.mpr ⟨hFront, hBack⟩

theorem replicate {c : Char} (h : c.toNat < 0x80) (n : Nat) : Ascii (List.replicate n c) :=
  fun _ hc => List.eq_of_mem_replicate hc ▸ h

theorem toDigits (n : Nat) : Ascii (Nat.toDigits 10 n) := by
  intro c hc
  have hDigit := isDigit_of_mem_toDigits hc
  rw [Json.isDigit, Bool.and_eq_true, decide_eq_true_iff, decide_eq_true_iff] at hDigit
  exact Nat.lt_of_le_of_lt hDigit.2 (by decide)

theorem hex (width n : Nat) : Ascii (Text.hex width n) :=
  (replicate (by decide) _).append fun _ hc =>
    Nat.lt_of_le_of_lt (hexDigit_bounds hc).2.1 (by decide)

end Text.Ascii

theorem Text.Halves.areAbsent_of_ascii (halves : Text.Halves) {cs : List Char}
    (h : Text.Ascii cs) : halves.areAbsent cs = true := by
  rw [areAbsent, List.all_eq_true]
  intro c hc
  rw [code?_of_ascii (h c hc)]
  rfl

theorem Text.Halves.areAbsent_append (halves : Text.Halves) (front back : List Char) :
    halves.areAbsent (front ++ back) = (halves.areAbsent front && halves.areAbsent back) :=
  List.all_append

namespace Decimal

open Text (Ascii)

theorem ascii_exponentText (width : Nat) (exponent : Int) :
    Ascii (exponentText width exponent) := by
  refine .cons (by decide) (.cons ?_ ((Ascii.replicate (by decide) _).append (.toDigits _)))
  split <;> decide

/-- A decimal is laid out in digits, signs, points and exponents. -/
theorem ascii_text (layout : Layout) (d : Scaled) : Ascii (layout.text d) := by
  have hDigits := Ascii.toDigits d.digits
  have hZeros (n : Nat) : Ascii (List.replicate n '0') := .replicate (by decide) n
  unfold Layout.text
  dsimp only
  split_ifs
  · exact (hDigits.append (hZeros _)).append (by decide)
  · exact Ascii.append (fun c hc => hDigits c (List.mem_of_mem_take hc))
      (.cons (by decide) fun c hc => hDigits c (List.mem_of_mem_drop hc))
  · exact .cons (by decide) (.cons (by decide) ((hZeros _).append hDigits))
  · split
    case h_1 => decide
    case h_2 first hEq =>
      rw [hEq] at hDigits
      exact .cons (hDigits first List.mem_cons_self) (ascii_exponentText _ _)
    case h_3 first more _ hEq =>
      rw [hEq] at hDigits
      refine Ascii.append (.cons (hDigits first List.mem_cons_self) (.cons (by decide) ?_))
        (ascii_exponentText _ _)
      exact fun c hc => hDigits c (List.mem_cons_of_mem _ hc)

end Decimal

section Characters

variable {p : Char → Bool}

/-- Whether all characters of a scalar have a property, if it is a text. -/
def Scalar.allChars (p : Char → Bool) : Scalar → Bool
  | text s => s.toList.all p
  | _ => true

namespace Value

mutual

/-- Whether all characters of the texts in a value, also those of its keys, have a property. -/
def allChars (p : Char → Bool) : Value → Bool
  | .scalar s => s.allChars p
  | .list items | .tuple items => itemsChars p items
  | .set members => members.all fun s => s.allChars p
  | .map entries => entriesChars p entries
  | .loop .. => true

/-- Whether all characters of the texts in the items of a list have a property. -/
def itemsChars (p : Char → Bool) : List Value → Bool
  | [] => true
  | item :: rest => allChars p item && itemsChars p rest

/-- Whether all characters of the texts in the entries of a mapping have a property. -/
def entriesChars (p : Char → Bool) : List (Scalar × Value) → Bool
  | [] => true
  | (key, value) :: rest => key.allChars p && (allChars p value && entriesChars p rest)

end

theorem itemsChars_iff {items : List Value} :
    itemsChars p items = true ↔ ∀ item ∈ items, item.allChars p = true := by
  induction items with
  | nil => simp [itemsChars]
  | cons item rest ih => simp [itemsChars, ih]

theorem allChars_texts_iff {ss : List String} :
    (texts ss).allChars p = true ↔ ∀ s ∈ ss, s.toList.all p = true := by
  rw [texts, allChars, itemsChars_iff, List.forall_mem_map]
  rfl

theorem allChars_record_iff {fields : List (String × Value)} :
    (record fields).allChars p = true ↔
      ∀ field ∈ fields, field.1.toList.all p = true ∧ field.2.allChars p = true := by
  rw [record, allChars]
  induction fields with
  | nil => simp [entriesChars]
  | cons field rest ih =>
      rw [List.map_cons, entriesChars, Bool.and_eq_true, Bool.and_eq_true, ih, List.forall_mem_cons,
        and_assoc]
      rfl

end Value

namespace Json

variable {format : Format}

section Pieces

variable (hAscii : ∀ c : Char, c.toNat < 0x80 → p c = true)

include hAscii

theorem all_of_ascii {cs : List Char} (h : Text.Ascii cs) : cs.all p = true := by
  rw [List.all_eq_true]
  exact fun c hc => hAscii c (h c hc)

theorem all_unitEscape (unit : Nat) : (unitEscape unit).all p = true :=
  all_of_ascii hAscii (.cons (by decide) (.cons (by decide) (.hex 4 unit)))

/-- An escape is ASCII, unless it is the character itself. -/
theorem all_escape (asciiOnly : Bool) (c : Char) :
    (escape asciiOnly c).all p = (asciiOnly || p c) := by
  by_cases hShort : c ∈ ['"', '\\', '\n', '\r', '\t', '\x08', '\x0c']
  · simp only [List.mem_cons, List.not_mem_nil, or_false] at hShort
    rcases hShort with rfl | rfl | rfl | rfl | rfl | rfl | rfl <;>
      simp [escape, hAscii, Char.toNat]
  · simp only [List.mem_cons, List.not_mem_nil, or_false, not_or] at hShort
    simp only [escape, hShort, if_false]
    split_ifs with hControl hOutside hSmall
    · rw [all_unitEscape hAscii, hAscii c (by omega), Bool.or_true]
    · rw [all_unitEscape hAscii, (Bool.and_eq_true_iff.mp hOutside).1, Bool.true_or]
    · rw [List.all_append, all_unitEscape hAscii, all_unitEscape hAscii,
        (Bool.and_eq_true_iff.mp hOutside).1]
      rfl
    · cases asciiOnly with
      | false => simp
      | true =>
          have hInside : c.toNat < 0x80 := by
            have := hOutside
            simp at this
            omega
          simp [hAscii c hInside]

theorem all_string (asciiOnly : Bool) (s : String) :
    (string asciiOnly s).all p = (asciiOnly || s.toList.all p) := by
  have hQuote : p '"' = true := hAscii _ (by decide)
  have hChars (cs : List Char) :
      (cs.flatMap (escape asciiOnly)).all p = (asciiOnly || cs.all p) := by
    induction cs with
    | nil => simp
    | cons c rest ih =>
        rw [List.flatMap_cons, List.all_append, ih, all_escape hAscii, List.all_cons,
          Bool.or_and_distrib_left]
  rw [string, List.cons_append, List.all_cons, List.all_append, hChars, List.all_cons, hQuote]
  simp

theorem all_render (x : Float) : (Decimal.data.render x).toList.all p = true := by
  refine all_of_ascii hAscii ?_
  unfold Decimal.Layout.render
  cases Decimal.Parts.ofFloat x with
  | nan => decide
  | infinite negative => cases negative <;> decide
  | finite negative magnitude =>
      have hBody : Text.Ascii (if magnitude.mantissa == 0 then ['0', '.', '0']
          else Decimal.data.text magnitude.shortest) := by
        split
        · decide
        · exact Decimal.ascii_text _ _
      dsimp only
      rw [String.toList_ofList]
      cases negative with
      | true => exact .cons (by decide) hBody
      | false => exact hBody

theorem all_integer {n : Int} {cs : List Char} (h : integer n = .ok cs) : cs.all p = true := by
  refine all_of_ascii hAscii ?_
  obtain rfl := eq_of_integer h
  cases n with
  | ofNat m =>
      rw [toList_ofNat]
      exact .toDigits m
  | negSucc m =>
      rw [toList_negSucc]
      exact .cons (by decide) (.toDigits (m + 1))

theorem all_number {x : Float} {cs : List Char} (h : number format x = .ok cs) :
    cs.all p = true := by
  unfold number at h
  split at h
  · cases h
    exact all_render hAscii x
  · cases h

theorem all_scalar {s : Scalar} {cs : List Char} (h : scalar format s = .ok cs) :
    cs.all p = (format.asciiOnly || s.allChars p) := by
  have hPlain {cs : List Char} (h : cs.all p = true) : cs.all p = (format.asciiOnly || true) := by
    rw [h, Bool.or_true]
  cases s with
  | null =>
      cases h
      exact hPlain (all_of_ascii hAscii (by decide))
  | bool b =>
      cases b <;> cases h <;> exact hPlain (all_of_ascii hAscii (by decide))
  | int n =>
      rw [scalar] at h
      exact hPlain (all_integer hAscii h)
  | float x => exact hPlain (all_number hAscii h)
  | nan => exact hPlain (all_number hAscii h)
  | text s =>
      cases h
      exact all_string hAscii format.asciiOnly s
  | bytes | date | time => cases h

theorem all_key {s : Scalar} {cs : List Char} (h : key format s = .ok cs) :
    cs.all p = (format.asciiOnly || s.allChars p) := by
  have hQuoted (hNoText : s.allChars p = true)
      (h : (do return string format.asciiOnly (String.ofList (← scalar format s))) =
        (.ok cs : Except WriteError (List Char))) :
      cs.all p = (format.asciiOnly || s.allChars p) := by
    obtain ⟨written, hWritten, h⟩ := bind_eq_ok_iff.mp h
    cases h
    rw [all_string hAscii, String.toList_ofList, all_scalar hAscii hWritten, hNoText]
    simp
  cases s with
  | text s =>
      cases h
      exact all_string hAscii format.asciiOnly s
  | bytes | date | time => cases h
  | _ => exact hQuoted rfl h

end Pieces

/-- A format whose separators are ASCII. -/
structure Format.SeparatesInAscii (format : Format) : Prop where
  comma : Text.Ascii format.comma
  colon : Text.Ascii format.colon

theorem Format.separatesInAscii_compact : Format.compact.SeparatesInAscii := ⟨by decide, by decide⟩

theorem Format.separatesInAscii_report : Format.report.SeparatesInAscii := ⟨by decide, by decide⟩

theorem Format.separatesInAscii_readable (indent : Option Nat) :
    (Format.readable indent).SeparatesInAscii := by
  cases indent with
  | none => exact ⟨by decide, by decide⟩
  | some indent => exact ⟨.cons (by decide) nofun, .cons (by decide) (.cons (by decide) nofun)⟩

section Values

variable (hAscii : ∀ c : Char, c.toNat < 0x80 → p c = true) (hFormat : format.SeparatesInAscii)

include hAscii

theorem all_lineBreak (depth : Nat) : (lineBreak format depth).all p = true := by
  refine all_of_ascii hAscii ?_
  unfold lineBreak
  split
  · exact .cons (by decide) (.replicate (by decide) _)
  · decide

include hFormat

mutual

/-- The characters of a JSON text are those of the texts in the value, and ASCII besides. -/
theorem all_chars :
    ∀ (depth : Nat) (value : Value) (cs : List Char), chars format depth value = .ok cs →
      cs.all p = (format.asciiOnly || value.allChars p)
  | _, .scalar s, _, h => by
      rw [chars] at h
      rw [Value.allChars, all_scalar hAscii h]
  | _, .set _, _, h | _, .loop .., _, h => by
      rw [chars] at h
      cases h
  | _, .list [], _, h | _, .tuple [], _, h | _, .map [], _, h => by
      rw [chars] at h
      cases h
      rw [all_of_ascii hAscii (by decide), Value.allChars]
      simp [Value.itemsChars, Value.entriesChars]
  | depth, .list (item :: rest), _, h | depth, .tuple (item :: rest), _, h => by
      rw [chars] at h
      obtain ⟨first, hFirst, h⟩ := bind_eq_ok_iff.mp h
      obtain ⟨others, hOthers, h⟩ := bind_eq_ok_iff.mp h
      cases h
      rw [Value.allChars, Value.itemsChars, Bool.or_and_distrib_left,
        ← all_chars (depth + 1) item first hFirst,
        ← all_moreItems (depth + 1) rest others hOthers]
      simp [all_lineBreak hAscii, hAscii]
  | depth, .map ((k, value) :: rest), _, h => by
      rw [chars] at h
      obtain ⟨name, hName, h⟩ := bind_eq_ok_iff.mp h
      obtain ⟨first, hFirst, h⟩ := bind_eq_ok_iff.mp h
      obtain ⟨others, hOthers, h⟩ := bind_eq_ok_iff.mp h
      cases h
      rw [Value.allChars, Value.entriesChars, Bool.or_and_distrib_left, Bool.or_and_distrib_left,
        ← all_key hAscii hName, ← all_chars (depth + 1) value first hFirst,
        ← all_moreEntries (depth + 1) rest others hOthers]
      simp [all_lineBreak hAscii, all_of_ascii hAscii hFormat.colon, hAscii]

theorem all_moreItems :
    ∀ (depth : Nat) (items : List Value) (cs : List Char), moreItems format depth items = .ok cs →
      cs.all p = (format.asciiOnly || Value.itemsChars p items)
  | _, [], _, h => by
      rw [moreItems] at h
      cases h
      simp [Value.itemsChars]
  | depth, item :: rest, _, h => by
      rw [moreItems] at h
      obtain ⟨first, hFirst, h⟩ := bind_eq_ok_iff.mp h
      obtain ⟨others, hOthers, h⟩ := bind_eq_ok_iff.mp h
      cases h
      rw [Value.itemsChars, Bool.or_and_distrib_left, ← all_chars depth item first hFirst,
        ← all_moreItems depth rest others hOthers]
      simp [all_lineBreak hAscii, all_of_ascii hAscii hFormat.comma]

theorem all_moreEntries :
    ∀ (depth : Nat) (entries : List (Scalar × Value)) (cs : List Char),
      moreEntries format depth entries = .ok cs →
        cs.all p = (format.asciiOnly || Value.entriesChars p entries)
  | _, [], _, h => by
      rw [moreEntries] at h
      cases h
      simp [Value.entriesChars]
  | depth, (k, value) :: rest, _, h => by
      rw [moreEntries] at h
      obtain ⟨name, hName, h⟩ := bind_eq_ok_iff.mp h
      obtain ⟨first, hFirst, h⟩ := bind_eq_ok_iff.mp h
      obtain ⟨others, hOthers, h⟩ := bind_eq_ok_iff.mp h
      cases h
      rw [Value.entriesChars, Bool.or_and_distrib_left, Bool.or_and_distrib_left,
        ← all_key hAscii hName, ← all_chars depth value first hFirst,
        ← all_moreEntries depth rest others hOthers]
      simp [all_lineBreak hAscii, all_of_ascii hAscii hFormat.comma,
        all_of_ascii hAscii hFormat.colon]

end

end Values

end Json

end Characters

/-- Whether a value has no surrogates in its texts. -/
def Value.isEncodable (halves : Text.Halves) (value : Value) : Bool :=
  value.allChars fun c => (halves.code? c).isNone

namespace Value

variable {halves : Text.Halves}

theorem isEncodable_record_nil : (record []).isEncodable halves = true := by
  rw [record, List.map_nil, isEncodable, allChars, entriesChars]

/-- A name of ASCII characters has no surrogates. -/
theorem isEncodable_record_cons {name : String} (hName : Text.Ascii name.toList) (value : Value)
    (fields : List (String × Value)) :
    (record ((name, value) :: fields)).isEncodable halves =
      (value.isEncodable halves && (record fields).isEncodable halves) := by
  have hAbsent := halves.areAbsent_of_ascii hName
  rw [Text.Halves.areAbsent] at hAbsent
  rw [record, isEncodable, List.map_cons, allChars, entriesChars, Scalar.allChars, hAbsent,
    Bool.true_and, record, isEncodable, isEncodable, allChars]

end Value

namespace Json

variable {format : Format} {value : Value}

theorem write_eq_ok_iff {text : String} :
    write format value = .ok text ↔
      ∃ cs, chars format 0 value = .ok cs ∧ text = String.ofList cs := by
  rw [write, bind_eq_ok_iff]
  simp only [pure_eq_ok_iff]
  exact exists_congr fun _ => and_congr_right fun _ => eq_comm

/-- A JSON text has bytes exactly if its format leaves nothing but ASCII, or the value has no
surrogates. -/
theorem areAbsent_of_chars (hFormat : format.SeparatesInAscii) {cs : List Char}
    (h : chars format 0 value = .ok cs) (halves : Text.Halves) :
    halves.areAbsent cs = (format.asciiOnly || value.isEncodable halves) := by
  have hAscii (c : Char) (hc : c.toNat < 0x80) : (halves.code? c).isNone = true := by
    rw [halves.code?_of_ascii hc]
    rfl
  exact all_chars hAscii hFormat 0 value cs h

theorem areAbsent_of_write (hFormat : format.SeparatesInAscii) {text : String}
    (h : write format value = .ok text) (halves : Text.Halves) :
    halves.areAbsent text.toList = (format.asciiOnly || value.isEncodable halves) := by
  obtain ⟨cs, hChars, rfl⟩ := write_eq_ok_iff.mp h
  rw [String.toList_ofList]
  exact areAbsent_of_chars hFormat hChars halves

end Json

namespace Document

variable {document : Document} {indent : Option Int}

theorem areAbsent_of_readable {cs : List Char}
    (h : Json.chars (.readable (indent.map Int.toNat)) 0 document.toValue = .ok cs) :
    document.halves.areAbsent cs = document.toValue.isEncodable document.halves := by
  rw [Json.areAbsent_of_chars (Json.Format.separatesInAscii_readable _) h]
  cases indent <;> rfl

/-- A document is written if its data is checked, has a text and no surrogates. The text then ends
with a line break. -/
theorem serialize_eq_ok_iff {text : String} :
    document.serialize indent = .ok text ↔
      document.toValue.checkWritable [] = .ok () ∧
        document.toValue.isEncodable document.halves = true ∧
        ∃ written, Json.write (.readable (indent.map Int.toNat)) document.toValue = .ok written ∧
          text = written ++ "\n" := by
  simp only [Json.write_eq_ok_iff]
  unfold serialize
  constructor
  · intro h
    obtain ⟨⟨⟩, hCheck, h⟩ := bind_eq_ok_iff.mp h
    obtain ⟨cs, hChars, h⟩ := bind_eq_ok_iff.mp h
    rw [mapError_eq_ok_iff] at hChars
    rw [areAbsent_of_readable hChars] at h
    split at h
    case isTrue hWhole =>
      cases h
      exact ⟨hCheck, hWhole, _, ⟨cs, hChars, rfl⟩, rfl⟩
    case isFalse => cases h
  · rintro ⟨hCheck, hWhole, _, ⟨cs, hChars, rfl⟩, rfl⟩
    rw [← areAbsent_of_readable hChars] at hWhole
    dsimp only
    rw [hCheck, hChars]
    simp only [ok_bind, Except.mapError, if_pos hWhole]
    rfl

/-- The text of a document has no surrogates. -/
theorem areAbsent_of_serialize {text : String} (h : document.serialize indent = .ok text) :
    document.halves.areAbsent text.toList = true := by
  obtain ⟨-, hWhole, written, hWritten, rfl⟩ := serialize_eq_ok_iff.mp h
  obtain ⟨cs, hChars, rfl⟩ := Json.write_eq_ok_iff.mp hWritten
  rw [← areAbsent_of_readable hChars] at hWhole
  rw [String.toList_append, String.toList_ofList, Text.Halves.areAbsent_append, hWhole,
    Bool.true_and]
  exact document.halves.areAbsent_of_ascii (by decide)

/-- A document whose data is checked and has a text with surrogates is refused with the text. -/
theorem serialize_eq_unencodable (hCheck : document.toValue.checkWritable [] = .ok ())
    {written : String}
    (hWritten : Json.write (.readable (indent.map Int.toNat)) document.toValue = .ok written)
    (h : document.toValue.isEncodable document.halves = false) :
    document.serialize indent = .error (.unencodable document.halves written) := by
  obtain ⟨cs, hChars, rfl⟩ := Json.write_eq_ok_iff.mp hWritten
  rw [← areAbsent_of_readable hChars] at h
  rw [serialize, hCheck, hChars]
  simp only [ok_bind, Except.mapError, h]
  rfl

end Document

end Tailnet
