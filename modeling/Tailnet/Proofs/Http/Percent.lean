import Tailnet.Http.Url
import Tailnet.Proofs.Text.Encoding

/-!
Percent escapes. A text is read again from its escapes, and a segment consists of nothing but
unreserved characters and escapes, so that nothing in it ends a segment or a path.
-/

namespace Tailnet.Http

/-- The digits of an escape. Letters are capitals. -/
def escapeDigits : List Char := "0123456789ABCDEF".toList

/-- The characters that need no escape. -/
theorem isUnreserved_iff {c : Char} :
    isUnreserved c = true ↔ c.isAlphanum = true ∨ c ∈ ['_', '.', '-', '~'] := by
  simp only [isUnreserved, Bool.or_eq_true, beq_iff_eq, List.mem_cons, List.not_mem_nil, or_false]
  grind

theorem hexDigit_mem_escapeDigits {n : Nat} (h : n < 16) : hexDigit n ∈ escapeDigits := by
  revert n
  decide

theorem hexValue?_hexDigit {n : Nat} (h : n < 16) : Json.hexValue? (hexDigit n) = some n := by
  revert n
  decide

/-- The digits of a byte denote it. -/
theorem byte?_hexDigit (b : UInt8) :
    byte? (hexDigit (b.toNat / 16)) (hexDigit (b.toNat % 16)) = some b := by
  have hSize := b.toNat_lt
  rw [byte?, hexValue?_hexDigit (by omega), hexValue?_hexDigit (by omega)]
  simp only [Nat.div_add_mod, UInt8.ofNat_toNat]

theorem unescape_cons_of_ne {c : Char} (h : c ≠ '%') (rest : List Char) :
    unescape (c :: rest) = String.utf8EncodeChar c ++ unescape rest := by
  rw [unescape]
  rintro _ _ _ rfl
  exact absurd rfl h

theorem unescape_escapeByte (b : UInt8) (rest : List Char) :
    unescape (escapeByte b ++ rest) = b :: unescape rest := by
  rw [escapeByte, List.cons_append, List.cons_append, List.cons_append, List.nil_append, unescape,
    byte?_hexDigit]

theorem unescape_escapeChar (c : Char) (rest : List Char) :
    unescape (escapeChar c ++ rest) = String.utf8EncodeChar c ++ unescape rest := by
  rw [escapeChar]
  induction String.utf8EncodeChar c with
  | nil => rfl
  | cons b bytes ih =>
      rw [List.flatMap_cons, List.append_assoc, unescape_escapeByte, ih, List.cons_append]

/-- The bytes of a text are found again, whichever characters are kept as they are, if only percent
signs are escaped. -/
theorem unescape_escape {isKept : Char → Bool} (h : isKept '%' = false) (cs : List Char) :
    unescape (escape isKept cs) = cs.flatMap String.utf8EncodeChar := by
  induction cs with
  | nil => simp [escape, unescape]
  | cons c rest ih =>
      rw [escape, List.flatMap_cons, ← escape, List.flatMap_cons, ← ih]
      split
      case isTrue hKept =>
        have hNe : c ≠ '%' := by
          rintro rfl
          exact Bool.false_ne_true (h.symm.trans hKept)
        exact unescape_cons_of_ne hNe _
      case isFalse => exact unescape_escapeChar c _

theorem unescape_segment (s : String) : unescape (segment s) = Text.bytesOf s := by
  rw [segment, unescape_escape (by decide), Text.bytesOf_eq_flatMap]

/-- A segment stands for the text that it was made of. -/
theorem Url.plain_segment (s : String) : Url.plain (String.ofList (segment s)) = s := by
  rw [Url.plain, String.toList_ofList, unescape_segment, Text.ofBytes_bytesOf, String.ofList_toList]

theorem escapeMore_eq_self {isKept : Char → Bool} {cs : List Char}
    (h : ∀ c ∈ cs, isKept c = true) : escapeMore isKept cs = cs := by
  fun_induction escapeMore isKept cs with
  | case1 high low rest hEscape ih =>
      simp only [List.forall_mem_cons] at h
      rw [ih h.2.2.2]
  | case2 high low rest hEscape ih =>
      rw [List.forall_mem_cons] at h
      rw [ih h.2]
      simp [escape, h.1]
  | case3 c rest hNot ih =>
      rw [List.forall_mem_cons] at h
      rw [ih h.2]
      simp [escape, h.1]
  | case4 => rfl

/-- Texts of unreserved characters and escapes. -/
inductive Escaped : List Char → Prop where
  | nil : Escaped []
  | unreserved {c : Char} {rest : List Char}
      (hChar : c.isAlphanum = true ∨ c ∈ ['_', '.', '-', '~']) (hRest : Escaped rest) :
      Escaped (c :: rest)
  | escape {high low : Char} {rest : List Char} (hHigh : high ∈ escapeDigits)
      (hLow : low ∈ escapeDigits) (hRest : Escaped rest) : Escaped ('%' :: high :: low :: rest)

namespace Escaped

theorem append {front back : List Char} (hFront : Escaped front) (hBack : Escaped back) :
    Escaped (front ++ back) := by
  induction hFront with
  | nil => exact hBack
  | unreserved hChar _ ih => exact .unreserved hChar ih
  | escape hHigh hLow _ ih => exact .escape hHigh hLow ih

theorem flatMap {α : Type} {f : α → List Char} (h : ∀ a, Escaped (f a)) (items : List α) :
    Escaped (items.flatMap f) := by
  induction items with
  | nil => exact .nil
  | cons item rest ih => exact (h item).append ih

theorem ofByte (b : UInt8) : Escaped (escapeByte b) := by
  have hSize := b.toNat_lt
  exact .escape (hexDigit_mem_escapeDigits (by omega)) (hexDigit_mem_escapeDigits (by omega)) .nil

theorem ofSegment (s : String) : Escaped (segment s) := by
  refine flatMap (fun c => ?_) s.toList
  split
  case isTrue hKept => exact .unreserved (isUnreserved_iff.mp hKept) .nil
  case isFalse => exact flatMap ofByte _

/-- Of all other characters only the percent sign occurs. -/
theorem isUnreserved_or {cs : List Char} (h : Escaped cs) {c : Char} (hc : c ∈ cs) :
    isUnreserved c = true ∨ c = '%' := by
  have hDigits : escapeDigits.all isUnreserved = true := by decide
  rw [List.all_eq_true] at hDigits
  induction h with
  | nil => cases hc
  | unreserved hChar _ ih =>
      rcases List.mem_cons.mp hc with rfl | hc
      · exact .inl (isUnreserved_iff.mpr hChar)
      · exact ih hc
  | escape hHigh hLow _ ih =>
      simp only [List.mem_cons] at hc
      rcases hc with rfl | rfl | rfl | hc
      · exact .inr rfl
      · exact .inl (hDigits _ hHigh)
      · exact .inl (hDigits _ hLow)
      · exact ih hc

theorem notMem {cs : List Char} (h : Escaped cs) {c : Char} (hReserved : isUnreserved c = false)
    (hNe : c ≠ '%') : c ∉ cs := by
  intro hc
  rcases h.isUnreserved_or hc with hOther | rfl
  · exact Bool.false_ne_true (hReserved.symm.trans hOther)
  · exact hNe rfl

end Escaped

end Tailnet.Http
