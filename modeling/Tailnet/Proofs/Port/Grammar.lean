import Tailnet.Proofs.Port
import Tailnet.Proofs.Text.Digit

/-!
The grammar of port specifications. A specification is read exactly if each of its entries is a port
or a range of ports, and the ranges are then those of the entries, in their order. Since ranges are
printed in the grammar, printed ranges are read as themselves.
-/

namespace Tailnet

open Text

/-- A port number between 1 and 65535 in digits that count. -/
structure IsPort (counts : Char → Bool) (cs : List Char) (port : Nat) : Prop where
  ne_nil : cs ≠ []
  digits : ∀ c ∈ cs, counts c = true
  value : port = Integer.ofDigits (cs.filterMap decimalValue?)
  one_le : 1 ≤ port
  le : port ≤ 65535

/-- A port is read from digits that denote it, of which there are not too many. -/
theorem readPort_eq_ok_iff {cs : List Char} {port : Port} :
    readPort cs = .ok port ↔ IsPort isDecimal cs port ∧ cs.length ≤ Integer.maxDigits := by
  by_cases hDigits : cs ≠ [] ∧ ∀ c ∈ cs, isDigit c = true
  case neg =>
    refine iff_of_false (fun h => ?_) fun h => hDigits ⟨h.1.ne_nil, fun c hc => ?_⟩
    · refine hDigits ⟨?_, all_isDigit_of_readPort h⟩
      rintro rfl
      cases h
    · rw [isDigit, h.1.digits c hc, Bool.true_or]
  case pos =>
    obtain ⟨hNe, hAll⟩ := hDigits
    have hSome : (cs.isEmpty || !cs.all isDigit) = false := by
      rw [Bool.or_eq_false_iff, List.isEmpty_eq_false_iff, Bool.not_eq_false', List.all_eq_true]
      exact ⟨hNe, hAll⟩
    have hRead {n : Int} : Integer.read (String.ofList cs) = .ok n ↔
        (∀ c ∈ cs, isDecimal c = true) ∧ cs.length ≤ Integer.maxDigits ∧
          n = Integer.ofDigits (cs.filterMap decimalValue?) := by
      rw [Integer.read, String.toList_ofList]
      exact Integer.readChars_digits_iff hNe hAll
    rw [readPort, hSome, if_neg Bool.false_ne_true]
    constructor
    · intro h
      split at h
      case h_1 => cases h
      case h_2 n hNumber =>
        obtain ⟨hDecimal, hLength, rfl⟩ := hRead.mp hNumber
        split at h
        case isTrue hRange =>
          cases h
          exact ⟨⟨hNe, hDecimal, rfl, hRange.1, hRange.2⟩, hLength⟩
        case isFalse => cases h
    · rintro ⟨hPort, hLength⟩
      have hValue : ((Integer.ofDigits (cs.filterMap decimalValue?) : Nat) : Int).toNat = port.1 :=
        hPort.value.symm
      rw [hRead.mpr ⟨hPort.digits, hLength, rfl⟩]
      dsimp only
      rw [dif_pos (hValue.symm ▸ port.2)]
      exact congrArg Except.ok (Subtype.ext hValue)

theorem IsPort.hyphen_notMem {cs : List Char} {port : Nat} (h : IsPort isDecimal cs port) :
    '-' ∉ cs := fun hIn => absurd (h.digits '-' hIn) (by decide)

namespace PortRange

/-- What is written where a range is meant: its only port, or its ends with a hyphen between them,
each in no more digits than a numeral may have. -/
inductive IsSpelled (range : PortRange) : List Char → Prop where
  | port {cs : List Char} (hPort : IsPort isDecimal cs range.first)
      (hLength : cs.length ≤ Integer.maxDigits) (hAlone : range.first = range.last) :
      IsSpelled range cs
  | ends {before after : List Char} (hFirst : IsPort isDecimal before range.first)
      (hFirstLength : before.length ≤ Integer.maxDigits)
      (hLast : IsPort isDecimal after range.last)
      (hLastLength : after.length ≤ Integer.maxDigits) :
      IsSpelled range (before ++ '-' :: after)

variable {range : PortRange}

theorem IsSpelled.isDecimal_or_hyphen {cs : List Char} (h : range.IsSpelled cs) :
    ∀ c ∈ cs, isDecimal c = true ∨ c = '-' := by
  cases h with
  | port hPort => exact fun c hc => .inl (hPort.digits c hc)
  | ends hFirst _ hLast =>
      rw [List.forall_mem_append, List.forall_mem_cons]
      exact ⟨fun c hc => .inl (hFirst.digits c hc), .inr rfl, fun c hc => .inl (hLast.digits c hc)⟩

/-- A range without a hyphen is one port. -/
theorem isSpelled_iff_of_notMem {cs : List Char} (h : '-' ∉ cs) :
    range.IsSpelled cs ↔
      IsPort isDecimal cs range.first ∧ cs.length ≤ Integer.maxDigits ∧
        range.first = range.last := by
  constructor
  · intro hSpelled
    cases hSpelled with
    | port hPort hLength hAlone => exact ⟨hPort, hLength, hAlone⟩
    | ends => exact absurd (List.mem_append_right _ List.mem_cons_self) h
  · exact fun ⟨hPort, hLength, hAlone⟩ => .port hPort hLength hAlone

/-- The first hyphen of a range stands between its ends. -/
theorem isSpelled_iff_of_cut {before after : List Char} (h : '-' ∉ before) :
    range.IsSpelled (before ++ '-' :: after) ↔
      (IsPort isDecimal before range.first ∧ before.length ≤ Integer.maxDigits) ∧
        IsPort isDecimal after range.last ∧ after.length ≤ Integer.maxDigits := by
  constructor
  · intro hSpelled
    generalize hWhole : before ++ '-' :: after = cs at hSpelled
    cases hSpelled with
    | port hPort =>
        refine absurd ?_ hPort.hyphen_notMem
        rw [← hWhole]
        exact List.mem_append_right _ List.mem_cons_self
    | ends hFirst hFirstLength hLast hLastLength =>
        have hCut : cutFirst? '-' (before ++ '-' :: after) = some (before, after) :=
          cutFirst?_eq_some_iff.mpr ⟨rfl, h⟩
        rw [hWhole, cutFirst?_eq_some_iff.mpr ⟨rfl, hFirst.hyphen_notMem⟩] at hCut
        cases hCut
        exact ⟨⟨hFirst, hFirstLength⟩, hLast, hLastLength⟩
  · exact fun ⟨⟨hFirst, hFirstLength⟩, hLast, hLastLength⟩ =>
      .ends hFirst hFirstLength hLast hLastLength

theorem eq_of_ends {a b : PortRange} (hFirst : a.first = b.first) (hLast : a.last = b.last) :
    a = b := by
  cases a
  cases b
  cases hFirst
  cases hLast
  rfl

/-- An entry of a list is read as the range that it spells. -/
theorem read_eq_ok_iff {specification entry : List Char} :
    read specification entry = .ok range ↔ range.IsSpelled entry := by
  by_cases hStar : '*' ∈ entry
  case pos =>
    refine iff_of_false (fun h => ?_) fun h =>
      absurd (h.isDecimal_or_hyphen '*' hStar) (by decide)
    rw [read, if_pos (List.contains_iff_mem.mpr hStar)] at h
    cases h
  case neg =>
    rw [read, if_neg (mt List.contains_iff_mem.mp hStar)]
    split
    case h_1 hCut =>
      rw [isSpelled_iff_of_notMem (cutFirst?_eq_none_iff.mp hCut), map_eq_ok_iff]
      constructor
      · rintro ⟨port, hPort, rfl⟩
        obtain ⟨hIs, hLength⟩ := readPort_eq_ok_iff.mp hPort
        exact ⟨hIs, hLength, rfl⟩
      · rintro ⟨hPort, hLength, hAlone⟩
        exact ⟨⟨range.first, hPort.one_le, hPort.le⟩, readPort_eq_ok_iff.mpr ⟨hPort, hLength⟩,
          eq_of_ends rfl hAlone⟩
    case h_2 before after hCut =>
      obtain ⟨rfl, hHyphen⟩ := cutFirst?_eq_some_iff.mp hCut
      rw [isSpelled_iff_of_cut hHyphen, bind_eq_ok_iff]
      constructor
      · rintro ⟨first, hFirst, hRest⟩
        obtain ⟨last, hLast, hMade⟩ := bind_eq_ok_iff.mp hRest
        split at hMade
        case isTrue =>
          cases hMade
          exact ⟨readPort_eq_ok_iff.mp hFirst, readPort_eq_ok_iff.mp hLast⟩
        case isFalse => cases hMade
      · rintro ⟨hFirst, hLast⟩
        refine ⟨⟨range.first, hFirst.1.one_le, hFirst.1.le⟩, readPort_eq_ok_iff.mpr hFirst,
          bind_eq_ok_iff.mpr ⟨⟨range.last, hLast.1.one_le, hLast.1.le⟩,
            readPort_eq_ok_iff.mpr hLast, ?_⟩⟩
        rw [dif_pos range.first_le]
        exact congrArg Except.ok (eq_of_ends rfl rfl)

theorem isPort_toDigits {port : Nat} (hLow : 1 ≤ port) (hHigh : port ≤ 65535) :
    IsPort isDecimal (Nat.toDigits 10 port) port ∧
      (Nat.toDigits 10 port).length ≤ Integer.maxDigits := by
  obtain ⟨hDecimal, hValue⟩ := filterMap_decimalValue?_toDigits port
  have hLength : (Nat.toDigits 10 port).length ≤ 5 :=
    (Nat.length_toDigits_le_iff (by decide) (by decide)).mpr (by omega)
  exact ⟨⟨Nat.toDigits_ne_nil, hDecimal, hValue.symm, hLow, hHigh⟩, hLength.trans (by decide)⟩

/-- A range is printed as one of its spellings. -/
theorem isSpelled_text (range : PortRange) : range.IsSpelled range.text.toList := by
  obtain ⟨hFirst, hFirstLength⟩ := isPort_toDigits range.one_le (range.first_le.trans range.last_le)
  obtain ⟨hLast, hLastLength⟩ := isPort_toDigits (range.one_le.trans range.first_le) range.last_le
  rw [text]
  split
  case isTrue hAlone =>
    rw [toList_toString]
    exact .port hFirst hFirstLength hAlone
  case isFalse =>
    rw [String.toList_append, String.toList_append, toList_toString, toList_toString,
      List.append_assoc]
    exact .ends hFirst hFirstLength hLast hLastLength

end PortRange


/-- White space around a text only comes on top of that around its first and its last part. -/
theorem map_trimChars_splitAt {sep : Char} (hSep : isBlank sep = false) (cs : List Char) :
    (splitAt sep (trimChars cs)).map trimChars = (splitAt sep cs).map trimChars := by
  have hFront (cs : List Char) :
      (splitAt sep (cs.dropWhile isBlank)).map trimChars = (splitAt sep cs).map trimChars := by
    induction cs with
    | nil => rfl
    | cons c rest ih =>
        by_cases hBlank : isBlank c = true
        · have hNe : c ≠ sep := fun hEq => by simp [hEq, hSep] at hBlank
          obtain ⟨part, parts, hRest⟩ := List.exists_cons_of_ne_nil (splitAt_ne_nil sep rest)
          rw [List.dropWhile_cons_of_pos hBlank, ih, splitAt_cons_of_ne hNe hRest, hRest,
            List.map_cons, List.map_cons, trimChars_eq_rdropWhile (c :: part),
            List.dropWhile_cons_of_pos hBlank, trimChars_eq_rdropWhile part]
        · rw [List.dropWhile_cons_of_neg hBlank]
  have hBack (cs : List Char) :
      (splitAt sep (cs.rdropWhile isBlank)).map trimChars = (splitAt sep cs).map trimChars := by
    induction cs using List.reverseRecOn with
    | nil => rfl
    | append_singleton front c ih =>
        by_cases hBlank : isBlank c = true
        · have hNe : c ≠ sep := fun hEq => by simp [hEq, hSep] at hBlank
          have hTrim (ds : List Char) : trimChars (ds ++ [c]) = trimChars ds := by
            rw [← trimChars_rdropWhile (ds ++ [c]), List.rdropWhile_concat_pos _ _ _ hBlank,
              trimChars_rdropWhile]
          rw [List.rdropWhile_concat_pos _ _ _ hBlank, ih]
          cases hCut : cutLast? sep front with
          | none =>
              have hFree := cutLast?_eq_none_iff.mp hCut
              have hFreeBack : sep ∉ front ++ [c] := by simp [hFree, hNe.symm]
              rw [splitAt_of_notMem hFree, splitAt_of_notMem hFreeBack, List.map_singleton,
                List.map_singleton, hTrim]
          | some parts =>
              obtain ⟨rfl, hFree⟩ := cutLast?_eq_some_iff.mp hCut
              have hFreeBack : sep ∉ parts.2 ++ [c] := by simp [hFree, hNe.symm]
              rw [List.append_assoc, List.cons_append, splitAt_append_sep, splitAt_append_sep,
                splitAt_of_notMem hFree, splitAt_of_notMem hFreeBack, List.map_append,
                List.map_append, List.map_singleton, List.map_singleton, hTrim]
        · rw [List.rdropWhile_concat_neg _ _ _ hBlank]
  rw [trimChars_eq_rdropWhile, hBack, hFront]

theorem PortRange.IsSpelled.ne_nil {range : PortRange} {cs : List Char} (h : range.IsSpelled cs) :
    cs ≠ [] := by
  cases h with
  | port hPort => exact hPort.ne_nil
  | ends => exact List.append_ne_nil_of_right_ne_nil _ (List.cons_ne_nil _ _)

theorem PortRange.IsSpelled.count_hyphen_le {range : PortRange} {cs : List Char}
    (h : range.IsSpelled cs) : cs.count '-' ≤ 1 := by
  cases h with
  | port hPort => simp [List.count_eq_zero_of_not_mem hPort.hyphen_notMem]
  | ends hFirst _ hLast =>
      simp [List.count_eq_zero_of_not_mem hFirst.hyphen_notMem,
        List.count_eq_zero_of_not_mem hLast.hyphen_notMem]

namespace PortSet

/-- The entries of a specification: what stands between its commas, without the white space around
it. -/
def entries (s : String) : List (List Char) := (splitAt ',' s.toList).map trimChars

/-- Entries that spell ranges, one by one. -/
def Spells (s : String) (list : List PortRange) : Prop :=
  List.Forall₂ (fun entry range => PortRange.IsSpelled range entry) (entries s) list

/-- Specifications with a mistake in them: an asterisk beside something else, an entry that is left
out, a range whose first number is larger than its second, or an entry with two hyphens. -/
inductive IsMalformed (s : String) : Prop where
  | mixed (hStar : '*' ∈ s.toList) (hBeside : trim s ≠ "*")
  | missing (hEntry : [] ∈ entries s)
  | reversed {before after : List Char} (hEntry : before ++ '-' :: after ∈ entries s)
      (hHyphen : '-' ∉ before)
      (hOrder : Integer.ofDigits (after.filterMap decimalValue?) <
        Integer.ofDigits (before.filterMap decimalValue?))
  | hyphens {entry : List Char} (hEntry : entry ∈ entries s) (hCount : 2 ≤ entry.count '-')

variable {s : String} {list : List PortRange}

theorem Spells.exists_isSpelled (h : Spells s list) {entry : List Char}
    (hEntry : entry ∈ entries s) : ∃ range : PortRange, range.IsSpelled entry := by
  obtain ⟨i, hi, rfl⟩ := List.getElem_of_mem hEntry
  exact ⟨_, h.get hi (h.length_eq ▸ hi)⟩

theorem Spells.star_notMem (h : Spells s list) : '*' ∉ s.toList := by
  intro hStar
  obtain ⟨part, hPart, hIn⟩ := exists_mem_splitAt hStar (by decide : '*' ≠ ',')
  obtain ⟨range, hSpelled⟩ := h.exists_isSpelled (List.mem_map_of_mem hPart)
  exact absurd (hSpelled.isDecimal_or_hyphen '*' (mem_trimChars hIn (by decide))) (by decide)

/-- No mistake can be spelled. -/
theorem Spells.not_isMalformed (h : Spells s list) : ¬IsMalformed s := by
  intro hMistake
  cases hMistake with
  | mixed hStar => exact h.star_notMem hStar
  | missing hEntry =>
      obtain ⟨range, hSpelled⟩ := h.exists_isSpelled hEntry
      exact hSpelled.ne_nil rfl
  | reversed hEntry hHyphen hOrder =>
      obtain ⟨range, hSpelled⟩ := h.exists_isSpelled hEntry
      obtain ⟨⟨hFirst, -⟩, hLast, -⟩ := (PortRange.isSpelled_iff_of_cut hHyphen).mp hSpelled
      rw [← hFirst.value, ← hLast.value] at hOrder
      exact Nat.not_lt.mpr range.first_le hOrder
  | hyphens hEntry hCount =>
      obtain ⟨range, hSpelled⟩ := h.exists_isSpelled hEntry
      exact absurd (hCount.trans hSpelled.count_hyphen_le) (by decide)

theorem trimChars_eq_star_iff : trimChars s.toList = ['*'] ↔ trim s = "*" := by
  rw [← toList_trim, ← String.toList_inj]
  rfl

theorem entries_eq (s : String) :
    entries s = (splitAt ',' (trimChars s.toList)).map trimChars :=
  (map_trimChars_splitAt (by decide) s.toList).symm

theorem entries_of_trim_eq_star (h : trim s = "*") : entries s = [['*']] := by
  rw [entries_eq, trimChars_eq_star_iff.mpr h]
  decide

/-- Ranges are read exactly from their spellings. -/
theorem read_eq_ok_ranges_iff : read s = .ok (.ranges list) ↔ Spells s list := by
  rw [PortSet.read]
  split
  case isTrue hStar =>
    have hIn : '*' ∈ trimChars s.toList := beq_iff_eq.mp hStar ▸ List.mem_singleton_self '*'
    refine iff_of_false (fun hRead => ?_) fun h => h.star_notMem (trimChars_subset _ hIn)
    cases hRead
  case isFalse =>
    split
    case isTrue hEmpty =>
      have hMissing : [] ∈ entries s := by
        rw [entries_eq, List.isEmpty_iff.mp hEmpty]
        decide
      refine iff_of_false (fun hRead => ?_) fun h => h.not_isMalformed (.missing hMissing)
      cases hRead
    case isFalse =>
      rw [Spells, entries_eq, List.forall₂_map_left_iff, map_eq_ok_iff]
      simp only [mapM_eq_ok_iff, PortRange.read_eq_ok_iff, ranges.injEq, exists_eq_right]

theorem read_eq_ok_all_iff : read s = .ok .all ↔ trim s = "*" := by
  rw [← trimChars_eq_star_iff, PortSet.read]
  split
  case isTrue hStar => exact iff_of_true rfl (beq_iff_eq.mp hStar)
  case isFalse hStar =>
    refine iff_of_false (fun h => ?_) (mt beq_iff_eq.mpr hStar)
    split at h
    · cases h
    · obtain ⟨list, -, hList⟩ := map_eq_ok_iff.mp h
      cases hList

/-- Mistakes are found. -/
theorem exists_error_of_isMalformed (h : IsMalformed s) : ∃ cause, read s = .error cause := by
  cases hRead : read s with
  | error cause => exact ⟨cause, rfl⟩
  | ok ports =>
      cases ports with
      | ranges list => exact absurd h (read_eq_ok_ranges_iff.mp hRead).not_isMalformed
      | all =>
          have hStar := read_eq_ok_all_iff.mp hRead
          have hEntries := entries_of_trim_eq_star hStar
          cases h with
          | mixed _ hBeside => exact absurd hStar hBeside
          | missing hEntry => simp [hEntries] at hEntry
          | @reversed before after hEntry =>
              rw [hEntries, List.mem_singleton] at hEntry
              have hIn : '-' ∈ ['*'] := hEntry ▸ List.mem_append_right before List.mem_cons_self
              simp at hIn
          | hyphens hEntry hCount =>
              rw [hEntries, List.mem_singleton] at hEntry
              rw [hEntry] at hCount
              exact absurd hCount (by decide)

/-- Printed ranges spell themselves. -/
theorem spells_text (h : list ≠ []) : Spells (ranges list).text list := by
  have hComma : ∀ part ∈ list.map PortRange.text, ',' ∉ part.toList := by
    rw [List.forall_mem_map]
    exact fun range _ hIn => absurd (range.isSpelled_text.isDecimal_or_hyphen ',' hIn) (by decide)
  have hTrimmed (range : PortRange) : trimChars range.text.toList = range.text.toList := by
    have hVisible : ∀ c ∈ range.text.toList, isBlank c = false := by
      intro c hc
      rcases range.isSpelled_text.isDecimal_or_hyphen c hc with hDecimal | rfl
      · exact isBlank_of_isDigit (by rw [isDigit, hDecimal, Bool.true_or])
      · decide
    exact trimChars_of_isTrimmed ⟨fun c hc => hVisible c (List.mem_of_mem_head? hc),
      fun c hc => hVisible c (List.mem_of_mem_getLast? hc)⟩
  have hParts : splitAt ',' (ranges list).text.toList =
      (list.map PortRange.text).map String.toList :=
    splitAt_joinWith ',' (by simpa using h) hComma
  rw [Spells, entries, hParts, List.map_map, List.map_map, List.forall₂_map_left_iff]
  refine List.forall₂_same.mpr fun range _ => ?_
  rw [Function.comp_apply, Function.comp_apply, hTrimmed]
  exact range.isSpelled_text

/-- Port specifications and what is read from them. Printed ranges are read as themselves. Whatever
is read as ranges has an entry for each, which spells it, so that the ranges are within bounds and
are read again when they are printed. Only an asterisk stands for all ports. No specification with a
mistake is read. -/
theorem read_conforms :
    (∀ list : List PortRange, list ≠ [] → read (ranges list).text = .ok (ranges list)) ∧
    (∀ s list, read s = .ok (ranges list) →
      List.Forall₂ (fun entry range => PortRange.IsSpelled range entry) (entries s) list ∧
      (∀ range ∈ list, 1 ≤ range.first ∧ range.first ≤ range.last ∧ range.last ≤ 65535) ∧
      read (ranges list).text = .ok (ranges list)) ∧
    (∀ s, read s = .ok all ↔ trim s = "*") ∧
    ∀ s, IsMalformed s → ∃ cause, read s = .error cause := by
  have hPrinted (list : List PortRange) (hNe : list ≠ []) :
      read (ranges list).text = .ok (ranges list) :=
    read_eq_ok_ranges_iff.mpr (spells_text hNe)
  refine ⟨hPrinted, fun s list hRead => ?_, fun s => read_eq_ok_all_iff,
    fun s => exists_error_of_isMalformed⟩
  have hSpells := read_eq_ok_ranges_iff.mp hRead
  refine ⟨hSpells, fun range _ => ⟨range.one_le, range.first_le, range.last_le⟩, hPrinted list ?_⟩
  rintro rfl
  exact splitAt_ne_nil ',' s.toList (List.map_eq_nil_iff.mp (List.forall₂_nil_right_iff.mp hSpells))

/-- White space, zeros in front and digits of another script do not come back. -/
theorem read_conforms_spaced :
    ∃ list, read " 022, ８０-443 " = .ok (ranges list) ∧ (ranges list).text = "22,80-443" ∧
      read "22,80-443" = .ok (ranges list) ∧ ∃ cause, read "22,443-80" = .error cause := by
  obtain ⟨-, hRead, -, hMistake⟩ := read_conforms
  let list : List PortRange :=
    [⟨22, 22, by decide, by decide, by decide⟩, ⟨80, 443, by decide, by decide, by decide⟩]
  have hRanges : read " 022, ８０-443 " = .ok (ranges list) := by decide +kernel
  have hText : (ranges list).text = "22,80-443" := by decide +kernel
  refine ⟨list, hRanges, hText, hText ▸ (hRead _ _ hRanges).2.2, hMistake _ ?_⟩
  exact @IsMalformed.reversed _ "443".toList "80".toList (by decide +kernel) (by decide)
    (by decide +kernel)

end PortSet

end Tailnet
