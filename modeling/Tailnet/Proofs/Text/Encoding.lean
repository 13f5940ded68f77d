import Mathlib.Data.List.TakeWhile
import Tailnet.Text.Encoding

/-!
Texts and the bytes that they are written in. The first byte of a character says how many belong to
it, so a text is read again from its bytes character by character.
-/

namespace Tailnet.Text

theorem toList_loop_eq (data : ByteArray) (i : Nat) (before : List UInt8) :
    ByteArray.toList.loop data i before = before.reverse ++ data.data.toList.drop i := by
  fun_induction ByteArray.toList.loop data i before with
  | case1 i before h ih =>
      have hi : i < data.data.toList.length := by simpa using h
      rw [ih, List.drop_eq_getElem_cons hi]
      simp [ByteArray.get!, h]
  | case2 i before h =>
      rw [List.drop_eq_nil_of_le (by simpa using Nat.le_of_not_lt h), List.append_nil]

/-- The bytes of a text are those of its characters. -/
theorem bytesOf_eq_flatMap (s : String) :
    bytesOf s = s.toList.flatMap String.utf8EncodeChar := by
  rw [bytesOf, String.toUTF8_eq_toByteArray, ← String.utf8Encode_toList, ByteArray.toList,
    toList_loop_eq, List.utf8Encode]
  simp

/-- The byte of a small number. -/
theorem toNat_byte {n : Nat} (h : n < 256) : (UInt8.ofNat n).toNat = n := by
  rw [UInt8.toNat_ofNat']
  exact Nat.mod_eq_of_lt h

/-- A first byte that others must follow, and these others. -/
theorem firstChar_of_lead {b next : UInt8} {lead : Lead} (others : List UInt8)
    (hHigh : 0x80 ≤ b.toNat) (hLead : lead? b.toNat = some lead)
    (hLength : lead.following = others.length + 1)
    (hNext : lead.least ≤ next.toNat ∧ next.toNat ≤ lead.greatest)
    (hOthers : ∀ c ∈ others, 0x80 ≤ c.toNat ∧ c.toNat ≤ 0xBF) (rest : List UInt8) :
    firstChar b (next :: others ++ rest) =
      (Char.ofNat ((next :: others).foldl (fun code c => code * 64 + c.toNat % 64) lead.bits),
        (next :: others).length) := by
  have hTaken : (others ++ rest).take (lead.following - 1) = others := by
    rw [hLength, Nat.add_sub_cancel, List.take_left]
  have hAll : others.takeWhile (fun c => 0x80 ≤ c.toNat && c.toNat ≤ 0xBF) = others := by
    rw [List.takeWhile_eq_self_iff]
    exact fun c hc => by simpa using hOthers c hc
  have hMore : continuation lead (next :: (others ++ rest)) = next :: others := by
    rw [continuation, if_pos (by simpa using hNext), hTaken, hAll]
  rw [firstChar, if_neg (Nat.not_lt.mpr hHigh), hLead]
  simp only [List.cons_append, hMore, List.length_cons, hLength, if_true]

/-- The first of two bytes. -/
theorem exists_lead_two (code : Nat) (hLeast : 0x80 ≤ code) (hGreatest : code < 0x800) :
    ∃ lead, lead? (code / 64 % 32 + 192) = some lead ∧ lead.following = 1 ∧
      lead.bits = code / 64 ∧ lead.least = 0x80 ∧ lead.greatest = 0xBF := by
  simp only [lead?, Bool.and_eq_true, decide_eq_true_eq]
  rw [if_pos (by omega)]
  exact ⟨_, rfl, rfl, by dsimp only; omega, rfl, rfl⟩

/-- The first of three bytes, and what it asks of the second. -/
theorem exists_lead_three (code : Nat) (hLeast : 0x800 ≤ code) (hGreatest : code < 0x10000)
    (hWhole : code < 0xD800 ∨ 0xDFFF < code) :
    ∃ lead, lead? (code / 4096 % 16 + 224) = some lead ∧ lead.following = 2 ∧
      lead.bits = code / 4096 ∧ lead.least ≤ code / 64 % 64 + 128 ∧
      code / 64 % 64 + 128 ≤ lead.greatest := by
  simp only [lead?, Bool.and_eq_true, decide_eq_true_eq]
  rw [if_neg (by omega)]
  split
  · exact ⟨_, rfl, rfl, by dsimp only; omega, by dsimp only; omega, by dsimp only; omega⟩
  split
  · exact ⟨_, rfl, rfl, by dsimp only; omega, by dsimp only; omega, by dsimp only; omega⟩
  rw [if_pos (by omega)]
  exact ⟨_, rfl, rfl, by dsimp only; omega, by dsimp only; omega, by dsimp only; omega⟩

/-- The first of four bytes, and what it asks of the second. -/
theorem exists_lead_four (code : Nat) (hLeast : 0x10000 ≤ code) (hGreatest : code < 0x110000) :
    ∃ lead, lead? (code / 262144 % 8 + 240) = some lead ∧ lead.following = 3 ∧
      lead.bits = code / 262144 ∧ lead.least ≤ code / 4096 % 64 + 128 ∧
      code / 4096 % 64 + 128 ≤ lead.greatest := by
  simp only [lead?, Bool.and_eq_true, decide_eq_true_eq]
  rw [if_neg (by omega), if_neg (by omega), if_neg (by omega), if_neg (by omega)]
  split
  · exact ⟨_, rfl, rfl, by dsimp only; omega, by dsimp only; omega, by dsimp only; omega⟩
  split
  · exact ⟨_, rfl, rfl, by dsimp only; omega, by dsimp only; omega, by dsimp only; omega⟩
  rw [if_pos (by omega)]
  exact ⟨_, rfl, rfl, by dsimp only; omega, by dsimp only; omega, by dsimp only; omega⟩

/-- A character is read from the bytes that it is written in. -/
theorem firstChar_utf8EncodeChar (c : Char) :
    ∃ b more, String.utf8EncodeChar c = b :: more ∧
      ∀ rest, firstChar b (more ++ rest) = (c, more.length) := by
  have hValid := c.valid
  simp only [UInt32.isValidChar, Nat.isValidChar] at hValid
  have hBack {code : Nat} (h : code = c.val.toNat) : Char.ofNat code = c := by
    rw [h]
    exact Char.ofNat_toNat c
  unfold String.utf8EncodeChar
  dsimp only
  generalize c.val.toNat = code at hValid hBack
  split
  · refine ⟨_, [], rfl, fun rest => ?_⟩
    rw [List.nil_append, firstChar, toNat_byte (by omega), if_pos (by omega), hBack rfl]
    rfl
  split
  · obtain ⟨lead, hLead, hFollowing, hBits, hLeast, hGreatest⟩ :=
      exists_lead_two code (by omega) (by omega)
    have hFirst := toNat_byte (n := code / 64 % 32 + 192) (by omega)
    rw [← hFirst] at hLead
    have hSecond := toNat_byte (n := code % 64 + 128) (by omega)
    refine ⟨_, [_], rfl, fun rest => ?_⟩
    rw [firstChar_of_lead [] (by omega) hLead hFollowing (by omega)
      (List.forall_mem_nil _)]
    simp only [List.foldl_cons, List.foldl_nil, hSecond]
    rw [hBack (by omega)]
  split
  · obtain ⟨lead, hLead, hFollowing, hBits, hLeast, hGreatest⟩ :=
      exists_lead_three code (by omega) (by omega) (by omega)
    have hFirst := toNat_byte (n := code / 4096 % 16 + 224) (by omega)
    rw [← hFirst] at hLead
    have hSecond := toNat_byte (n := code / 64 % 64 + 128) (by omega)
    have hThird := toNat_byte (n := code % 64 + 128) (by omega)
    refine ⟨_, [_, _], rfl, fun rest => ?_⟩
    rw [firstChar_of_lead [_] (by omega) hLead hFollowing (by omega)
      (List.forall_mem_singleton.mpr (by omega))]
    simp only [List.foldl_cons, List.foldl_nil, hSecond, hThird]
    rw [hBack (by omega)]
  · obtain ⟨lead, hLead, hFollowing, hBits, hLeast, hGreatest⟩ :=
      exists_lead_four code (by omega) (by omega)
    have hFirst := toNat_byte (n := code / 262144 % 8 + 240) (by omega)
    rw [← hFirst] at hLead
    have hSecond := toNat_byte (n := code / 4096 % 64 + 128) (by omega)
    have hThird := toNat_byte (n := code / 64 % 64 + 128) (by omega)
    have hFourth := toNat_byte (n := code % 64 + 128) (by omega)
    refine ⟨_, [_, _, _], rfl, fun rest => ?_⟩
    rw [firstChar_of_lead [_, _] (by omega) hLead hFollowing (by omega)
      (List.forall_mem_cons.mpr ⟨by omega, List.forall_mem_singleton.mpr (by omega)⟩)]
    simp only [List.foldl_cons, List.foldl_nil, hSecond, hThird, hFourth]
    rw [hBack (by omega)]

/-- A text is read from its bytes. -/
theorem ofBytes_bytesOf (s : String) : ofBytes (bytesOf s) = s.toList := by
  rw [bytesOf_eq_flatMap]
  induction s.toList with
  | nil => rw [List.flatMap_nil, ofBytes]
  | cons c rest ih =>
      obtain ⟨b, more, hBytes, hFirst⟩ := firstChar_utf8EncodeChar c
      rw [List.flatMap_cons, hBytes, List.cons_append, ofBytes, hFirst]
      simp only [List.drop_left, ih]

end Tailnet.Text
