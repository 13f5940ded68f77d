import Tailnet.Proofs.Json.Token

/-!
The reader accepts the whole grammar. A text that is JSON for a value is read as that value, unless
an integer in it has too many digits to be read. So a text that is read at all is JSON for no value
but the one that is read.
-/

namespace Tailnet.Json

section Lengths

theorem Gap.length_le {cs rest : List Char} (h : Gap cs rest) : rest.length ≤ cs.length := by
  induction h with
  | none => exact Nat.le_refl _
  | space _ _ ih => exact Nat.le_succ_of_le ih

/-- The value of a member begins after its name. -/
theorem length_lt_of_name {cs quoted meant after others first : List Char}
    (before : Gap cs ('"' :: quoted)) (name : Quoted quoted meant after)
    (colon : Gap after (':' :: others)) (gap : Gap others first) : first.length < cs.length := by
  have hBefore := before.length_le
  have hName := name.length_lt
  have hColon := colon.length_le
  have hGap := gap.length_le
  rw [List.length_cons] at hBefore hColon
  omega

mutual

theorem Denotes.length_lt {cs rest : List Char} {value : Value} :
    Denotes cs value rest → rest.length < cs.length
  | .nullWord rest | .trueWord rest | .falseWord rest => by simp only [List.length_cons]; omega
  | .number h rest => by
      obtain ⟨c, more, rfl, -⟩ := h.exists_cons
      simp only [List.length_append, List.length_cons]
      omega
  | .string h => Nat.lt_succ_of_lt h.length_lt
  | .emptyList h | .emptyRecord h => Nat.lt_succ_of_lt h.length_le
  | .list h => Nat.lt_succ_of_lt h.length_lt
  | .record h _ => Nat.lt_succ_of_lt h.length_lt

theorem Items.length_lt {cs rest : List Char} {items : List Value} :
    Items cs items rest → rest.length < cs.length
  | .last before item closing => by
      have hBefore := before.length_le
      have hItem := item.length_lt
      have hClosing := closing.length_le
      rw [List.length_cons] at hClosing
      omega
  | .more before item comma more => by
      have hBefore := before.length_le
      have hItem := item.length_lt
      have hComma := comma.length_le
      have hMore := more.length_lt
      rw [List.length_cons] at hComma
      omega

theorem Member.length_lt {cs rest : List Char} {field : String × Value} :
    Member cs field rest → rest.length < cs.length
  | .mk before name colon gap item =>
      Nat.lt_trans item.length_lt (length_lt_of_name before name colon gap)

theorem Members.length_lt {cs rest : List Char} {fields : List (String × Value)} :
    Members cs fields rest → rest.length < cs.length
  | .last member closing => by
      have hMember := member.length_lt
      have hClosing := closing.length_le
      rw [List.length_cons] at hClosing
      omega
  | .more member comma more => by
      have hMember := member.length_lt
      have hComma := comma.length_le
      have hMore := more.length_lt
      rw [List.length_cons] at hComma
      omega

end

end Lengths

section Values

theorem skipSpace_cons {c : Char} (h : isSpace c = false) (cs : List Char) :
    skipSpace (c :: cs) = c :: cs := by
  simp [skipSpace, h]

theorem Gap.skipSpace_eq {cs rest : List Char} (h : Gap cs rest) :
    skipSpace cs = skipSpace rest := by
  induction h with
  | none => rfl
  | space hSpace _ ih =>
      rw [← ih]
      simp [skipSpace, hSpace]

/-- After white space stands the token that follows it. -/
theorem Gap.skipSpace_token {c : Char} {cs rest : List Char} (h : Gap cs (c :: rest))
    (hToken : isSpace c = false) : skipSpace cs = c :: rest := by
  rw [h.skipSpace_eq, skipSpace_cons hToken]

theorem Gap.stops {cs rest : List Char} (h : Gap cs rest) (hRest : Stops rest) : Stops cs := by
  cases h with
  | none => exact hRest
  | space hSpace _ => exact .inl hSpace

theorem isSpace_eq_false_of_isDigit {c : Char} (h : isDigit c = true) : isSpace c = false := by
  rw [Bool.eq_false_iff]
  intro hSpace
  simp only [isSpace, Bool.or_eq_true, beq_iff_eq, or_assoc] at hSpace
  rcases hSpace with rfl | rfl | rfl | rfl <;> cases h

/-- A value begins with neither white space nor a bracket that closes a list. -/
theorem Denotes.exists_cons {cs rest : List Char} {value : Value} (h : Denotes cs value rest) :
    ∃ c more, cs = c :: more ∧ isSpace c = false ∧ c ≠ ']' := by
  cases h with
  | number h =>
      obtain ⟨c, more, rfl, hFirst⟩ := h.exists_cons
      refine ⟨c, more ++ rest, rfl, ?_⟩
      rcases hFirst with rfl | hDigit
      · decide
      · refine ⟨isSpace_eq_false_of_isDigit hDigit, ?_⟩
        rintro rfl
        cases hDigit
  | _ => exact ⟨_, _, rfl, by decide⟩

theorem Denotes.skipSpace_eq {cs rest : List Char} {value : Value} (h : Denotes cs value rest) :
    skipSpace cs = cs := by
  obtain ⟨c, more, rfl, hFirst, -⟩ := h.exists_cons
  exact skipSpace_cons hFirst more

theorem Items.exists_cons {cs rest : List Char} {items : List Value} (h : Items cs items rest) :
    ∃ c more, skipSpace cs = c :: more ∧ c ≠ ']' := by
  cases h with
  | last before item | more before item =>
      obtain ⟨c, more, rfl, hFirst, hOpen⟩ := item.exists_cons
      exact ⟨c, more, before.skipSpace_token hFirst, hOpen⟩

theorem Members.exists_cons {cs rest : List Char} {fields : List (String × Value)}
    (h : Members cs fields rest) : ∃ quoted, skipSpace cs = '"' :: quoted := by
  cases h with
  | last member | more member =>
      cases member with
      | mk before => exact ⟨_, before.skipSpace_token rfl⟩

variable {fuel : Nat} {cs more : List Char}

theorem readValue_items {c : Char} (h : skipSpace cs = c :: more) (hOpen : c ≠ ']') :
    readValue (fuel + 1) ('[' :: cs) = (do
      let (items, rest) ← readItems fuel (c :: more)
      return (.list items, rest)) := by
  simp only [readValue, h]
  split
  case h_1 heq => exact absurd (List.cons.inj heq).1 hOpen
  case h_2 => rfl

theorem readValue_entries {c : Char} (h : skipSpace cs = c :: more) (hOpen : c ≠ '\x7d') :
    readValue (fuel + 1) ('\x7b' :: cs) = (do
      let (entries, rest) ← readEntries fuel (c :: more)
      return (.map (Table.ofPairs entries), rest)) := by
  simp only [readValue, h]
  split
  case h_1 heq => exact absurd (List.cons.inj heq).1 hOpen
  case h_2 => rfl

theorem readValue_plain {c : Char} (hFirst : c = '-' ∨ isDigit c = true) :
    readValue (fuel + 1) (c :: cs) = readPlain (c :: cs) := by
  have hOther : c ≠ '"' ∧ c ≠ '[' ∧ c ≠ '{' := by
    refine ⟨?_, ?_, ?_⟩ <;> rintro rfl <;> revert hFirst <;> decide
  simp [readValue, hOther]

theorem readEntries_name {quoted meant after others : List Char} (before : Gap cs ('"' :: quoted))
    (name : Quoted quoted meant after) (colon : Gap after (':' :: others)) :
    readEntries (fuel + 1) (skipSpace cs) = (do
      let (value, rest) ← readValue fuel (skipSpace others)
      let entry := (Scalar.text (String.ofList meant), value)
      match skipSpace rest with
      | '\x7d' :: rest => return ([entry], rest)
      | ',' :: rest =>
        let (entries, rest) ← readEntries fuel (skipSpace rest)
        return (entry :: entries, rest)
      | rest => failAt .expectingComma rest) := by
  rw [before.skipSpace_token rfl, readEntries, readString_of_quoted name _ _ (by omega), ok_bind]
  dsimp only
  rw [colon.skipSpace_token rfl]
  rfl

mutual

/-- A value is read from a text that denotes it. -/
theorem Denotes.yields {cs rest : List Char} {value : Value} :
    Denotes cs value rest → Stops rest → ∀ fuel, cs.length ≤ fuel + rest.length →
      Yields value.isShort value rest (readValue fuel cs)
  | h, hRest, 0, hFuel => absurd h.length_lt (by omega)
  | .nullWord rest, _, fuel + 1, _ => .found rfl
  | .trueWord rest, _, fuel + 1, _ => .found rfl
  | .falseWord rest, _, fuel + 1, _ => .found rfl
  | .number h rest, hRest, fuel + 1, _ => by
      have hYields := yields_numeral h hRest
      obtain ⟨c, more, rfl, hFirst⟩ := h.exists_cons
      rw [List.cons_append] at hYields ⊢
      rwa [readValue_plain hFirst]
  | .string h, _, fuel + 1, _ => by
      rw [readValue, readString_of_quoted h _ _ (by omega)]
      exact .found rfl
  | .emptyList h, _, fuel + 1, _ => by
      simp only [readValue, h.skipSpace_token (c := ']') rfl]
      exact .found rfl
  | .emptyRecord h, _, fuel + 1, _ => by
      simp only [readValue, h.skipSpace_token (c := '\x7d') rfl]
      exact .found rfl
  | .list h, _, fuel + 1, hFuel => by
      obtain ⟨c, more, hSkip, hOpen⟩ := h.exists_cons
      have hItems := h.yields fuel (by simp at hFuel; omega)
      rw [hSkip] at hItems
      rw [readValue_items hSkip hOpen]
      exact hItems.map Value.list
  | .record h hNames, _, fuel + 1, hFuel => by
      obtain ⟨quoted, hSkip⟩ := h.exists_cons
      have hMembers := h.yields fuel (by simp at hFuel; omega)
      rw [hSkip] at hMembers
      rw [readValue_entries hSkip (by decide)]
      have hMap := hMembers.map fun entries => Value.map (Table.ofPairs entries)
      rw [ofPairs_recordEntries hNames] at hMap
      exact hMap

theorem Items.yields {cs rest : List Char} {items : List Value} :
    Items cs items rest → ∀ fuel, cs.length ≤ fuel + rest.length →
      Yields (Value.itemsShort items) items rest (readItems fuel (skipSpace cs))
  | h, 0, hFuel => absurd h.length_lt (by omega)
  | .last before item closing, fuel + 1, hFuel => by
      have hBefore := before.length_le
      have hClosing := closing.length_le
      rw [List.length_cons] at hClosing
      have hItem := item.yields (closing.stops (.inr (.inr (.inl rfl)))) fuel (by omega)
      rw [before.skipSpace_eq, item.skipSpace_eq, readItems, Value.itemsShort]
      refine hItem.bind ?_
      dsimp only
      rw [closing.skipSpace_token rfl]
      exact .found rfl
  | .more before item comma more, fuel + 1, hFuel => by
      have hBefore := before.length_le
      have hLength := item.length_lt
      have hComma := comma.length_le
      have hRest := more.length_lt
      rw [List.length_cons] at hComma
      have hItem := item.yields (comma.stops (.inr (.inl rfl))) fuel (by omega)
      have hMore := more.yields fuel (by omega)
      rw [before.skipSpace_eq, item.skipSpace_eq, readItems, Value.itemsShort]
      refine hItem.bind ?_
      dsimp only
      rw [comma.skipSpace_token rfl]
      exact hMore.map (_ :: ·)

theorem Members.yields {cs rest : List Char} {fields : List (String × Value)} :
    Members cs fields rest → ∀ fuel, cs.length ≤ fuel + rest.length →
      Yields (Value.entriesShort (recordEntries fields)) (recordEntries fields) rest
        (readEntries fuel (skipSpace cs))
  | h, 0, hFuel => absurd h.length_lt (by omega)
  | .last (.mk before name colon gap item) closing, fuel + 1, hFuel => by
      have hFirst := length_lt_of_name before name colon gap
      have hClosing := closing.length_le
      rw [List.length_cons] at hClosing
      have hItem := item.yields (closing.stops (.inr (.inr (.inr rfl)))) fuel (by omega)
      rw [readEntries_name before name colon, gap.skipSpace_eq, item.skipSpace_eq]
      refine hItem.bind ?_
      dsimp only
      rw [closing.skipSpace_token rfl]
      exact .found rfl
  | .more (.mk before name colon gap item) comma more, fuel + 1, hFuel => by
      have hFirst := length_lt_of_name before name colon gap
      have hLength := item.length_lt
      have hComma := comma.length_le
      have hRest := more.length_lt
      rw [List.length_cons] at hComma
      have hItem := item.yields (comma.stops (.inr (.inl rfl))) fuel (by omega)
      have hMore := more.yields fuel (by omega)
      rw [readEntries_name before name colon, gap.skipSpace_eq, item.skipSpace_eq]
      refine hItem.bind ?_
      dsimp only
      rw [comma.skipSpace_token rfl]
      exact hMore.map (_ :: ·)

end

/-- A text that is JSON for a value is read as that value, or an integer in it is refused. -/
theorem IsText.read_or_refused {text : String} {value : Value} (h : IsText text value) :
    value.isShort = true ∧ read text = .ok value ∨
      value.isShort = false ∧ ∃ cause, read text = .error (.numeral cause) := by
  obtain ⟨first, after, hBefore, hValue, hAfter⟩ := h
  have hLength := hBefore.length_le
  have hYields := hValue.yields (hAfter.stops trivial) (text.toList.length + 1) (by omega)
  rw [read, readChars, hBefore.skipSpace_eq, hValue.skipSpace_eq]
  generalize readValue (text.toList.length + 1) first = outcome at hYields
  cases hYields with
  | found hShort =>
      left
      rw [ok_bind]
      dsimp only
      rw [hAfter.skipSpace_eq]
      exact ⟨hShort, rfl⟩
  | refused hLong cause => exact .inr ⟨hLong, cause, rfl⟩

/-- A text that is JSON for a value without integers of too many digits is read as that value. -/
theorem IsText.read_eq {text : String} {value : Value} (h : IsText text value)
    (hShort : value.isShort = true) : read text = .ok value := by
  rcases h.read_or_refused with ⟨-, hRead⟩ | ⟨hLong, -⟩
  · exact hRead
  · rw [hShort] at hLong
    cases hLong

end Values

end Tailnet.Json
