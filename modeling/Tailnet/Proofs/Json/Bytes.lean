import Tailnet.Json.Bytes
import Tailnet.Proofs.Json.Completeness
import Tailnet.Proofs.Text.Encoding

/-!
Objects in bytes. An object begins with two ASCII characters, one of which may be white space. By
these the form of its bytes is told, so it is read as the text that it was.
-/

namespace Tailnet.Json

/-- A character by which bytes are told to be those of the characters one by one. -/
def TellsBytes (c : Char) : Prop := 0 < c.toNat ∧ c.toNat < 0x80

theorem TellsBytes.of_isSpace {c : Char} (h : isSpace c = true) : TellsBytes c := by
  simp only [isSpace, Bool.or_eq_true, beq_iff_eq, or_assoc] at h
  rcases h with rfl | rfl | rfl | rfl <;> exact ⟨by decide, by decide⟩

theorem TellsBytes.exists_byte {c : Char} (h : TellsBytes c) :
    ∃ b, String.utf8EncodeChar c = [b] ∧ b ≠ 0 := by
  refine ⟨UInt8.ofNat c.toNat, ?_, fun hZero => ?_⟩
  · have hAscii : c.val.toNat ≤ 127 := Nat.le_of_lt_succ h.2
    rw [String.utf8EncodeChar, if_pos hAscii]
    rfl
  · have hByte := Text.toNat_byte (n := c.toNat) (Nat.lt_trans h.2 (by decide))
    rw [hZero] at hByte
    exact Nat.ne_of_lt h.1 hByte

/-- What is before a token begins with white space or with the token. -/
theorem exists_cons_of_skipSpace {c : Char} {cs rest : List Char} (h : skipSpace cs = c :: rest)
    (hToken : TellsBytes c) : ∃ d more, cs = d :: more ∧ TellsBytes d := by
  cases cs with
  | nil => cases h
  | cons d more =>
      refine ⟨d, more, rfl, ?_⟩
      cases hSpace : isSpace d with
      | true => exact .of_isSpace hSpace
      | false =>
          rw [skipSpace_cons hSpace] at h
          obtain ⟨rfl, -⟩ := List.cons.inj h
          exact hToken

theorem Denotes.object_begins {cs rest : List Char} {value : Value} (h : Denotes cs value rest)
    {data : Mapping} (hObject : value = .map data) :
    ∃ d more, cs = '\x7b' :: d :: more ∧ TellsBytes d := by
  cases h with
  | emptyRecord hGap =>
      obtain ⟨d, more, rfl, hTells⟩ :=
        exists_cons_of_skipSpace (hGap.skipSpace_token rfl) ⟨by decide, by decide⟩
      exact ⟨d, more, rfl, hTells⟩
  | record hMembers =>
      obtain ⟨quoted, hQuoted⟩ := hMembers.exists_cons
      obtain ⟨d, more, rfl, hTells⟩ := exists_cons_of_skipSpace hQuoted ⟨by decide, by decide⟩
      exact ⟨d, more, rfl, hTells⟩
  | number hNumeral =>
      subst hObject
      cases hNumeral
  | _ => cases hObject

/-- The first two characters of an object and the white space around it. -/
theorem IsText.object_begins {text : String} {data : Mapping} (h : IsText text (.map data)) :
    ∃ c d more, text.toList = c :: d :: more ∧ TellsBytes c ∧ TellsBytes d := by
  obtain ⟨first, after, hBefore, hValue, -⟩ := h
  obtain ⟨d, more, rfl, hTells⟩ := hValue.object_begins rfl
  have hBrace : TellsBytes '\x7b' := ⟨by decide, by decide⟩
  generalize text.toList = cs at hBefore
  cases hBefore with
  | none => exact ⟨_, d, more, rfl, hBrace, hTells⟩
  | space hSpace hMore =>
      obtain ⟨second, others, rfl, hSecond⟩ :=
        exists_cons_of_skipSpace (hMore.skipSpace_token rfl) hBrace
      exact ⟨_, second, others, rfl, .of_isSpace hSpace, hSecond⟩

/-- A text that begins with two ASCII characters is told from its bytes. -/
theorem textOf_bytesOf {s : String} {c d : Char} {more : List Char} (h : s.toList = c :: d :: more)
    (hFirst : TellsBytes c) (hSecond : TellsBytes d) : textOf (Text.bytesOf s) = .ok s.toList := by
  obtain ⟨a, hA, hNonzero⟩ := hFirst.exists_byte
  obtain ⟨b, hB, hOther⟩ := hSecond.exists_byte
  have hForm : Form.ofBytes (Text.bytesOf s) = .bytes := by
    rw [Text.bytesOf_eq_flatMap, h, List.flatMap_cons, List.flatMap_cons, hA, hB]
    simp only [List.singleton_append]
    unfold Form.ofBytes
    split <;> simp_all
  have hMark : c ≠ Text.byteOrderMark := by
    rintro rfl
    exact absurd hFirst.2 (by decide)
  rw [textOf, hForm]
  simp only [Text.ofBytes_bytesOf]
  rw [h, Text.withoutMark, if_neg hMark]

theorem IsText.textOf_bytesOf {text : String} {data : Mapping} (h : IsText text (.map data)) :
    textOf (Text.bytesOf text) = .ok text.toList := by
  obtain ⟨c, d, more, hText, hFirst, hSecond⟩ := h.object_begins
  exact Json.textOf_bytesOf hText hFirst hSecond

/-- Names and numbers are read as scalars. -/
theorem exists_scalar_of_readPlain {cs rest : List Char} {value : Value}
    (h : readPlain cs = .ok (value, rest)) : ∃ s, value = .scalar s := by
  have hWords : ∀ word ∈ words, ∃ s, word.2 = .scalar s := by
    simp [words, Value.null, Value.bool]
  have hMagnitude {start cs rest : List Char} {negative : Bool} {value : Value}
      (h : readMagnitude start negative cs = .ok (value, rest)) : ∃ s, value = .scalar s := by
    unfold readMagnitude at h
    split at h
    · cases h
    · dsimp only at h
      split at h
      · split at h
        · cases h
        · cases h
          exact ⟨_, rfl⟩
      · cases h
        exact ⟨_, rfl⟩
  unfold readPlain at h
  split at h
  case h_1 hFound =>
    cases h
    exact hWords _ (List.mem_of_find?_eq_some hFound)
  case h_2 =>
    split at h
    · exact hMagnitude h
    · exact hMagnitude h

/-- An object is read from two characters or more. -/
theorem two_le_length_of_readChars {cs : List Char} {data : Mapping}
    (h : readChars cs = .ok (.map data)) : 2 ≤ cs.length := by
  by_contra hShort
  have hRest : (skipSpace cs).length ≤ 1 :=
    Nat.le_trans (List.length_dropWhile_le _ _) (by omega)
  obtain ⟨⟨value, rest⟩, hRead, hEnd⟩ := bind_eq_ok_iff.mp h
  have hMap : value = .map data := by
    dsimp only at hEnd
    split at hEnd
    · exact pure_eq_ok_iff.mp hEnd
    · cases hEnd
  subst hMap
  generalize skipSpace cs = first at hRead hRest
  unfold readValue at hRead
  split at hRead
  case h_1 =>
    obtain ⟨_, -, hText⟩ := bind_eq_ok_iff.mp hRead
    cases hText
  case h_2 =>
    split at hRead
    · cases hRead
    · obtain ⟨_, -, hList⟩ := bind_eq_ok_iff.mp hRead
      cases hList
  case h_3 more =>
    -- Nothing can follow the brace in so short a text.
    obtain rfl : more = [] := List.eq_nil_of_length_eq_zero (by simpa using hRest)
    cases hLength : cs.length with
    | zero =>
        rw [hLength] at hRead
        cases hRead
    | succ fuel =>
        rw [hLength] at hRead
        cases hRead
  case h_4 =>
    obtain ⟨s, hScalar⟩ := exists_scalar_of_readPlain hRead
    cases hScalar

/-- Bytes that are read as an object are at least two. -/
theorem two_le_length_of_textOf {data : List UInt8} {cs : List Char} {entries : Mapping}
    (hText : textOf data = .ok cs) (hRead : readChars cs = .ok (.map entries)) :
    2 ≤ data.length := by
  have hLength := two_le_length_of_readChars hRead
  by_contra hShort
  cases data with
  | nil =>
      cases hText
      rw [Text.ofBytes] at hLength
      exact absurd hLength (by decide)
  | cons b rest =>
      obtain rfl : rest = [] := List.eq_nil_of_length_eq_zero (by simpa using hShort)
      cases hText
      simp only [Text.ofBytes, List.drop_nil, Text.withoutMark] at hLength
      split at hLength
      · exact absurd hLength (by simp)
      · exact absurd hLength (by simp)

end Tailnet.Json
