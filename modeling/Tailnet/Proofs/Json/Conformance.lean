import Tailnet.Json.Writer
import Tailnet.Proofs.Address.Numeral
import Tailnet.Proofs.Json.Grammar
import Tailnet.Proofs.Plain
import Tailnet.Proofs.Success

/-!
What the writer writes is JSON. In every format with the standard's separators that escapes no more
than it has to, the text of a plain value without floats denotes just that value, with lists for its
tuples.
-/

namespace Tailnet

/-- Whether a scalar is no float. -/
def Scalar.isExact : Scalar → Bool
  | float _ | nan => false
  | _ => true

/-- A value in which no number is a float. -/
inductive Value.Exact : Value → Prop where
  | scalar {s : Scalar} (h : s.isExact = true) : Exact (.scalar s)
  | list {items : List Value} (h : ∀ item ∈ items, Exact item) : Exact (.list items)
  | tuple {items : List Value} (h : ∀ item ∈ items, Exact item) : Exact (.tuple items)
  | set {members : List Scalar} (h : ∀ s ∈ members, s.isExact = true) : Exact (.set members)
  | map {entries : Mapping} (h : ∀ entry ∈ entries, Exact entry.2) : Exact (.map entries)
  | loop (up : Nat) (shape : Shape) : Exact (.loop up shape)

namespace Value

mutual

/-- A value with lists in the place of its tuples. JSON has arrays for both. -/
def untupled : Value → Value
  | .list items | .tuple items => .list (untupledItems items)
  | .map entries => .map (untupledEntries entries)
  | .scalar s => .scalar s
  | .set members => .set members
  | .loop up shape => .loop up shape

/-- Items with lists in the place of tuples. -/
def untupledItems : List Value → List Value
  | [] => []
  | item :: rest => untupled item :: untupledItems rest

/-- Entries with lists in the place of tuples. -/
def untupledEntries : List (Scalar × Value) → List (Scalar × Value)
  | [] => []
  | (key, value) :: rest => (key, untupled value) :: untupledEntries rest

end

/-- Fields with lists in the place of tuples. -/
def untupledFields (fields : List (String × Value)) : List (String × Value) :=
  fields.map fun field => (field.1, field.2.untupled)

theorem untupled_list (items : List Value) :
    (Value.list items).untupled = .list (items.map untupled) := by
  rw [untupled]
  congr 1
  induction items with
  | nil => rw [untupledItems, List.map_nil]
  | cons item rest ih => rw [untupledItems, ih, List.map_cons]

theorem untupled_tuple (items : List Value) :
    (Value.tuple items).untupled = .list (items.map untupled) := by
  rw [← untupled_list, untupled, untupled]

theorem untupled_record (fields : List (String × Value)) :
    (record fields).untupled = record (untupledFields fields) := by
  rw [record, untupled, record]
  congr 1
  induction fields with
  | nil => rfl
  | cons field rest ih =>
      rw [List.map_cons, untupledEntries, ih]
      rfl

theorem keys_untupledFields (fields : List (String × Value)) :
    Table.keys (untupledFields fields) = Table.keys fields := by
  simp [Table.keys, untupledFields, Function.comp_def]

end Value

namespace Value.Exact

theorem isExact {s : Scalar} (h : (Value.scalar s).Exact) : s.isExact = true := by
  cases h with
  | scalar h => exact h

theorem of_mem_items {items : List Value} (h : (Value.list items).Exact) :
    ∀ item ∈ items, item.Exact := by
  cases h with
  | list h => exact h

theorem of_mem_tuple {items : List Value} (h : (Value.tuple items).Exact) :
    ∀ item ∈ items, item.Exact := by
  cases h with
  | tuple h => exact h

theorem of_mem_fields {fields : List (String × Value)} (h : (Value.record fields).Exact) :
    ∀ field ∈ fields, field.2.Exact := by
  cases h with
  | map h => exact fun field hField => h _ (List.mem_map_of_mem hField)

theorem record {fields : List (String × Value)} (h : ∀ field ∈ fields, field.2.Exact) :
    (Value.record fields).Exact := .map (List.forall_mem_map.mpr h)

end Value.Exact

namespace Json

section Strings

/-- The escape of a control character has its unit. -/
theorem exists_isUnit_hex {n : Nat} (h : n < 32) :
    ∃ a b c d, Text.hex 4 n = [a, b, c, d] ∧ IsUnit a b c d n := by
  have hDigits : ∀ n < 32, Text.hex 4 n =
      ['0', '0', Nat.digitChar (n / 16), Nat.digitChar (n % 16)] := by decide
  refine ⟨_, _, _, _, hDigits n h, 0, 0, n / 16, n % 16, rfl, rfl, ?_, ?_, ?_⟩
  · exact hexValue?_digitChar (by omega)
  · exact hexValue?_digitChar (by omega)
  · omega

theorem quoted_escape (c : Char) {cs meant rest : List Char} (h : Quoted cs meant rest) :
    Quoted (escape false c ++ cs) (c :: meant) rest := by
  by_cases hShort : c ∈ ['"', '\\', '\n', '\r', '\t', '\x08', '\x0c']
  · simp only [List.mem_cons, List.not_mem_nil, or_false] at hShort
    rcases hShort with rfl | rfl | rfl | rfl | rfl | rfl | rfl <;> exact .letter (by decide) h
  · simp only [List.mem_cons, List.not_mem_nil, or_false, not_or] at hShort
    by_cases hControl : c.toNat < 0x20
    · obtain ⟨x, y, z, w, hHex, hUnit⟩ := exists_isUnit_hex hControl
      have hEscape : escape false c = ['\\', 'u', x, y, z, w] := by
        simp [escape, hShort, hControl, unitEscape, hHex]
      rw [hEscape, ← Char.ofNat_toNat c]
      exact .unit hUnit (.inl (by omega)) h
    · have hEscape : escape false c = [c] := by simp [escape, hShort, hControl]
      rw [hEscape]
      exact .plain hShort.1 hShort.2.1 (Nat.not_lt.mp hControl) h

theorem quoted_string (s : String) (rest : List Char) :
    ∃ cs, string false s ++ rest = '"' :: cs ∧ Quoted cs s.toList rest := by
  refine ⟨s.toList.flatMap (escape false) ++ '"' :: rest, by simp [string], ?_⟩
  induction s.toList with
  | nil => exact .close rest
  | cons c cs ih =>
      rw [List.flatMap_cons, List.append_assoc]
      exact quoted_escape c ih

end Strings

section Numbers

theorem isWhole_toDigits (n : Nat) : IsWhole (Nat.toDigits 10 n) := by
  by_cases hZero : n = 0
  · subst hZero
    exact .inl rfl
  · exact .inr ⟨⟨Nat.toDigits_ne_nil, fun c hc => isDigit_of_mem_toDigits hc⟩,
      head?_toDigits_ne_zero hZero⟩

theorem eq_of_integer {n : Int} {cs : List Char} (h : integer n = .ok cs) :
    cs = (toString n).toList := by
  unfold integer Integer.write at h
  split at h
  case h_1 s hWrite =>
    split at hWrite
    · cases hWrite
      cases h
      rfl
    · cases hWrite
  case h_2 => cases h

theorem toList_ofNat (m : Nat) : (toString (Int.ofNat m)).toList = Nat.toDigits 10 m := by
  simp [toString, Int.repr]

theorem toList_negSucc (m : Nat) :
    (toString (Int.negSucc m)).toList = '-' :: Nat.toDigits 10 (m + 1) := by
  simp [toString, Int.repr]

/-- An integer is written as its numeral. -/
theorem numeral_integer {n : Int} {cs : List Char} (h : integer n = .ok cs) :
    Numeral cs (.int n) := by
  rw [eq_of_integer h]
  cases n with
  | ofNat m =>
      have hNumeral := Numeral.whole .none (isWhole_toDigits m)
      rw [digitsValue_toDigits] at hNumeral
      rw [toList_ofNat]
      exact hNumeral
  | negSucc m =>
      have hNumeral := Numeral.whole .minus (isWhole_toDigits (m + 1))
      rw [digitsValue_toDigits] at hNumeral
      rw [toList_negSucc]
      exact hNumeral

end Numbers

theorem Gap.append {spaces : List Char} (h : ∀ c ∈ spaces, isSpace c = true) {cs rest : List Char}
    (more : Gap cs rest) : Gap (spaces ++ cs) rest := by
  induction spaces with
  | nil => exact more
  | cons c others ih =>
      rw [List.forall_mem_cons] at h
      exact .space h.1 (ih h.2)

/-- A format that separates with a comma and a colon and white space after them, and that writes
characters outside ASCII as they are. -/
structure Format.IsStandard (format : Format) : Prop where
  comma : ∃ spaces, format.comma = ',' :: spaces ∧ ∀ c ∈ spaces, isSpace c = true
  colon : ∃ spaces, format.colon = ':' :: spaces ∧ ∀ c ∈ spaces, isSpace c = true
  verbatim : format.asciiOnly = false

theorem Format.isStandard_readable (indent : Option Nat) : (Format.readable indent).IsStandard := by
  have hSpace : ∀ c ∈ [' '], isSpace c = true := List.forall_mem_singleton.mpr rfl
  cases indent with
  | none => exact ⟨⟨_, rfl, hSpace⟩, ⟨_, rfl, hSpace⟩, rfl⟩
  | some indent => exact ⟨⟨_, rfl, List.forall_mem_nil _⟩, ⟨_, rfl, hSpace⟩, rfl⟩

theorem isSpace_of_mem_lineBreak {format : Format} {depth : Nat} :
    ∀ c ∈ lineBreak format depth, isSpace c = true := by
  intro c hc
  unfold lineBreak at hc
  split at hc
  · rcases List.mem_cons.mp hc with rfl | hc
    · rfl
    · rw [List.eq_of_mem_replicate hc]
      rfl
  · cases hc

/-- The line break before an item is white space. -/
theorem gap_lineBreak (format : Format) (depth : Nat) (cs : List Char) :
    Gap (lineBreak format depth ++ cs) cs :=
  .append isSpace_of_mem_lineBreak (.none cs)

section Values

variable {format : Format} (hFormat : format.IsStandard)

include hFormat

theorem gap_comma (depth : Nat) (cs : List Char) :
    ∃ others, format.comma ++ lineBreak format depth ++ cs = ',' :: others ∧ Gap others cs := by
  obtain ⟨spaces, hComma, hSpaces⟩ := hFormat.comma
  refine ⟨spaces ++ (lineBreak format depth ++ cs), by simp [hComma], ?_⟩
  exact .append hSpaces (gap_lineBreak format depth cs)

theorem denotes_scalar {s : Scalar} (hExact : s.isExact = true) {cs : List Char}
    (h : scalar format s = .ok cs) (rest : List Char) : Denotes (cs ++ rest) (.scalar s) rest := by
  cases s with
  | null =>
      cases h
      exact .nullWord rest
  | bool b =>
      cases b with
      | true =>
          cases h
          exact .trueWord rest
      | false =>
          cases h
          exact .falseWord rest
  | int n =>
      rw [scalar] at h
      exact .number (numeral_integer h) rest
  | float x => cases hExact
  | nan => cases hExact
  | text s =>
      cases h
      obtain ⟨cs, hString, hQuoted⟩ := quoted_string s rest
      rw [hFormat.verbatim, hString]
      have hDenotes := Denotes.string hQuoted
      rwa [String.ofList_toList] at hDenotes
  | bytes data => cases h
  | date day => cases h
  | time moment => cases h

/-- The items that are written one after the other, the first of them after white space and the last
of them before the closing bracket. -/
theorem items_moreItems {items : List Value}
    (hItems : ∀ item ∈ items, ∀ depth cs, chars format depth item = .ok cs →
      ∀ rest, Denotes (cs ++ rest) item.untupled rest) {depth : Nat} {others : List Char}
    (h : moreItems format depth items = .ok others) {value : Value} {before first : List Char}
    {closing rest : List Char} (hBefore : Gap before (first ++ (others ++ closing)))
    (hFirst : ∀ rest, Denotes (first ++ rest) value rest) (hClosing : Gap closing (']' :: rest)) :
    Items before (value :: items.map Value.untupled) rest := by
  induction items generalizing others value before first with
  | nil =>
      cases h
      exact .last hBefore (hFirst _) hClosing
  | cons item more ih =>
      rw [List.forall_mem_cons] at hItems
      obtain ⟨written, hWritten, h⟩ := bind_eq_ok_iff.mp h
      obtain ⟨last, hLast, h⟩ := bind_eq_ok_iff.mp h
      cases h
      obtain ⟨inner, hInner, hGap⟩ := gap_comma hFormat depth (written ++ (last ++ closing))
      have hComma : format.comma ++ lineBreak format depth ++ written ++ last ++ closing =
          ',' :: inner := by
        rw [← hInner]
        simp only [List.append_assoc]
      rw [hComma] at hBefore
      exact .more hBefore (hFirst _) (.none _)
        (ih hItems.2 hLast hGap (hItems.1 depth written hWritten))

theorem member_key {name : String} {written : List Char} (h : key format (.text name) = .ok written)
    {value : Value} {before first rest : List Char}
    (hBefore : Gap before (written ++ (format.colon ++ (first ++ rest))))
    (hFirst : Denotes (first ++ rest) value rest) : Member before (name, value) rest := by
  cases h
  obtain ⟨spaces, hColon, hSpaces⟩ := hFormat.colon
  obtain ⟨cs, hString, hQuoted⟩ := quoted_string name (format.colon ++ (first ++ rest))
  rw [hFormat.verbatim, hString] at hBefore
  rw [hColon] at hQuoted
  have hMember := Member.mk hBefore hQuoted (.none _) (.append hSpaces (.none _)) hFirst
  rwa [String.ofList_toList] at hMember

/-- The members that are written one after the other, the first of them after white space and the
last of them before the closing brace. -/
theorem members_moreEntries {fields : List (String × Value)}
    (hFields : ∀ field ∈ fields, ∀ depth cs, chars format depth field.2 = .ok cs →
      ∀ rest, Denotes (cs ++ rest) field.2.untupled rest) {depth : Nat} {others : List Char}
    (h : moreEntries format depth (recordEntries fields) = .ok others) {field : String × Value}
    {before closing rest : List Char}
    (hField : Member before field (others ++ closing)) (hClosing : Gap closing ('\x7d' :: rest)) :
    Members before (field :: Value.untupledFields fields) rest := by
  induction fields generalizing others field before with
  | nil =>
      cases h
      exact .last hField hClosing
  | cons next more ih =>
      rw [List.forall_mem_cons] at hFields
      obtain ⟨name, hName, h⟩ := bind_eq_ok_iff.mp h
      obtain ⟨written, hWritten, h⟩ := bind_eq_ok_iff.mp h
      obtain ⟨last, hLast, h⟩ := bind_eq_ok_iff.mp h
      cases h
      obtain ⟨inner, hInner, hGap⟩ := gap_comma hFormat depth
        (name ++ (format.colon ++ (written ++ (last ++ closing))))
      have hComma : format.comma ++ lineBreak format depth ++ name ++ format.colon ++ written ++
          last ++ closing = ',' :: inner := by
        rw [← hInner]
        simp only [List.append_assoc]
      rw [hComma] at hField
      exact .more hField (.none _) (ih hFields.2 hLast
        (member_key hFormat hName hGap (hFields.1 depth written hWritten _)))

/-- The text of a list denotes the list of what the texts of its items denote. -/
theorem denotes_list {items : List Value}
    (hItems : ∀ item ∈ items, ∀ depth cs, chars format depth item = .ok cs →
      ∀ rest, Denotes (cs ++ rest) item.untupled rest) {depth : Nat} {cs : List Char}
    (h : chars format depth (.list items) = .ok cs) (rest : List Char) :
    Denotes (cs ++ rest) (.list (items.map Value.untupled)) rest := by
  cases items with
  | nil =>
      cases h
      exact .emptyList (.none _)
  | cons item more =>
      rw [List.forall_mem_cons] at hItems
      obtain ⟨first, hFirst, h⟩ := bind_eq_ok_iff.mp h
      obtain ⟨others, hOthers, h⟩ := bind_eq_ok_iff.mp h
      cases h
      simp only [List.append_assoc, List.cons_append]
      exact .list (items_moreItems hFormat hItems.2 hOthers (gap_lineBreak ..)
        (hItems.1 _ first hFirst) (gap_lineBreak ..))

omit hFormat in
theorem chars_tuple (depth : Nat) (items : List Value) :
    chars format depth (.tuple items) = chars format depth (.list items) := by
  cases items <;> rw [chars, chars]

/-- The text of a plain value without floats denotes just that value, with lists for its tuples. -/
theorem denotes_chars {value : Value} (hPlain : value.Plain) (hExact : value.Exact) :
    ∀ depth cs, chars format depth value = .ok cs →
      ∀ rest, Denotes (cs ++ rest) value.untupled rest := by
  induction hPlain with
  | scalar s =>
      intro depth cs h rest
      rw [Value.untupled]
      exact denotes_scalar hFormat hExact.isExact h rest
  | set members =>
      intro depth cs h
      cases h
  | @list items hItems ih =>
      intro depth cs h rest
      rw [Value.untupled_list]
      exact denotes_list hFormat
        (fun item hItem => ih item hItem (hExact.of_mem_items item hItem)) h rest
  | @tuple items hItems ih =>
      intro depth cs h rest
      rw [Value.untupled_tuple]
      rw [chars_tuple] at h
      exact denotes_list hFormat
        (fun item hItem => ih item hItem (hExact.of_mem_tuple item hItem)) h rest
  | @record fields hNames hFields ih =>
      intro depth cs h rest
      rw [Value.untupled_record]
      rw [← Value.keys_untupledFields] at hNames
      have hDenotes (field : String × Value) (hField : field ∈ fields) :=
        ih field hField (hExact.of_mem_fields field hField)
      cases fields with
      | nil =>
          cases h
          exact .emptyRecord (.none _)
      | cons field more =>
          rw [List.forall_mem_cons] at hDenotes
          obtain ⟨name, hName, h⟩ := bind_eq_ok_iff.mp h
          obtain ⟨first, hFirst, h⟩ := bind_eq_ok_iff.mp h
          obtain ⟨others, hOthers, h⟩ := bind_eq_ok_iff.mp h
          cases h
          simp only [List.append_assoc, List.cons_append]
          exact .record (members_moreEntries hFormat hDenotes.2 hOthers
            (member_key hFormat hName (gap_lineBreak ..) (hDenotes.1 _ first hFirst _))
            (gap_lineBreak ..)) hNames

end Values

/-- The text of a plain value without floats is JSON for just that value, with lists for its
tuples. -/
theorem isText_write {format : Format} (hFormat : format.IsStandard) {value : Value}
    (hPlain : value.Plain) (hExact : value.Exact) {text : String}
    (h : write format value = .ok text) : IsText (text ++ "\n") value.untupled := by
  obtain ⟨cs, hChars, h⟩ := bind_eq_ok_iff.mp h
  cases h
  refine ⟨cs ++ ['\n'], ['\n'], ?_, denotes_chars hFormat hPlain hExact 0 cs hChars _,
    .space rfl (.none [])⟩
  rw [String.toList_append, String.toList_ofList]
  exact .none _

end Json

end Tailnet
