import Tailnet.Proofs.Catalog.Invariant
import Tailnet.Proofs.Plan.Dns
import Tailnet.Proofs.Text.Digit

/-!
Which addresses rules take for addresses. A rule knows an address by its shape, and the shape leaves
room for neither a zone nor a mask. So an address that a host may have is also one in a rule, unless
it is written with one of these: then it is taken for a host, and none can be declared under it.
-/

namespace Tailnet

open Text

/-- Whether a spelling has a zone, or behind its slash a mask instead of a number of bits. -/
def hasZoneOrMask (cs : List Char) : Bool :=
  cs.contains '%' ||
    match cutFirst? '/' cs with
    | some (_, length) => length.contains '.'
    | none => false

section Characters

/-- Whether a character may stand in an address that has neither zone nor length. -/
def isAddressChar (c : Char) : Bool := isHexDigit c || c == ':' || c == '.'

theorem isHexDigit_of_hexValue? {c : Char} {d : Nat} (h : Json.hexValue? c = some d) :
    isHexDigit c = true := by
  unfold Json.hexValue? at h
  unfold isHexDigit
  split at h
  case isTrue hDigit => simp [hDigit]
  split at h
  case isTrue hSmall => simp [hSmall]
  split at h
  case isTrue hCapital => simp [hCapital]
  case isFalse => cases h

theorem IsGroup.isHexDigit {g : Nat} {cs : List Char} (h : IsGroup g cs) :
    ∀ c ∈ cs, isHexDigit c = true := by
  intro c hc
  obtain ⟨-, hNumeral⟩ := h
  obtain ⟨digits, -, hDigits, hSpelled, -⟩ := (isNumeral_iff (by decide)).mp hNumeral
  have hLower : c.toLower ∈ digits.map Nat.digitChar := hSpelled ▸ List.mem_map_of_mem hc
  obtain ⟨d, hd, hDigit⟩ := List.mem_map.mp hLower
  exact isHexDigit_of_hexValue? (hexValue?_eq_some_iff.mpr ⟨hDigits d hd, hDigit.symm⟩)

theorem isDecimal_of_isDigit {c : Char} (h : Json.isDigit c = true) : isDecimal c = true := by
  have hDigits : ∀ d < 10, isDecimal (Nat.digitChar d) = true := by decide
  obtain ⟨d, hd, rfl⟩ := isDigit_iff.mp h
  exact hDigits d hd

theorem isAddressChar_of_mem_dottedText {number : Nat} {c : Char}
    (h : c ∈ (dottedText number).toList) : isAddressChar c = true := by
  by_contra hChar
  simp only [isAddressChar, Bool.or_eq_true, beq_iff_eq, not_or] at hChar
  refine notMem_dottedText ?_ hChar.2 number h
  rw [Option.eq_none_iff_forall_ne_some]
  exact fun d hd => hChar.1.1 (isHexDigit_of_hexValue? hd)

theorem IsGroups.isAddressChar {dotted : Bool} {groups : List Nat} {cs : List Char}
    (h : IsGroups dotted groups cs) : ∀ c ∈ cs, isAddressChar c = true := by
  induction h with
  | last h => exact fun c hc => by simp [Tailnet.isAddressChar, h.isHexDigit c hc]
  | lastTwo _ _ => exact fun c hc => isAddressChar_of_mem_dottedText hc
  | cons hFirst _ ih =>
      refine List.forall_mem_append.mpr ⟨fun c hc => ?_, List.forall_mem_cons.mpr ⟨rfl, ih⟩⟩
      simp [Tailnet.isAddressChar, hFirst.isHexDigit c hc]

theorem IsSide.isAddressChar {dotted : Bool} {groups : List Nat} {cs : List Char}
    (h : IsSide dotted groups cs) : ∀ c ∈ cs, isAddressChar c = true := by
  cases h with
  | nothing => exact List.forall_mem_nil _
  | groups h => exact h.isAddressChar

/-- Groups before which no dotted address may stand are digits up to their first colon. -/
theorem IsColons.exists_cut {groups : List Nat} {cs : List Char} (h : IsColons groups cs) :
    ∃ before after, cs = before ++ ':' :: after ∧ (∀ c ∈ before, isHexDigit c = true) ∧
      ∀ c ∈ after, isAddressChar c = true := by
  cases h with
  | whole h hLength =>
      cases h with
      | last => cases hLength
      | lastTwo => cases hLength
      | cons hFirst hRest => exact ⟨_, _, rfl, hFirst.isHexDigit, hRest.isAddressChar⟩
  | gap hBefore hAfter hZeros hLength =>
      have hBack : ∀ c ∈ ':' :: _, isAddressChar c = true :=
        List.forall_mem_cons.mpr ⟨rfl, hAfter.isAddressChar⟩
      cases hBefore with
      | nothing => exact ⟨[], _, rfl, List.forall_mem_nil _, hBack⟩
      | groups hGroups =>
          cases hGroups with
          | last hGroup => exact ⟨_, _, rfl, hGroup.isHexDigit, hBack⟩
          | lastTwo hDotted => cases hDotted
          | cons hFirst hRest =>
              refine ⟨_, _, by rw [List.append_assoc, List.cons_append], hFirst.isHexDigit, ?_⟩
              exact List.forall_mem_append.mpr
                ⟨hRest.isAddressChar, List.forall_mem_cons.mpr ⟨rfl, hBack⟩⟩

theorem IsColons.isAddressChar {groups : List Nat} {cs : List Char} (h : IsColons groups cs) :
    ∀ c ∈ cs, isAddressChar c = true := by
  obtain ⟨before, after, rfl, hBefore, hAfter⟩ := h.exists_cut
  refine List.forall_mem_append.mpr ⟨fun c hc => ?_, List.forall_mem_cons.mpr ⟨rfl, hAfter⟩⟩
  simp [Tailnet.isAddressChar, hBefore c hc]

end Characters

section Shapes

theorem isDottedDigits_dottedText (number : Nat) :
    isDottedDigits (dottedText number).toList = true := by
  have hPoint (n : Nat) : '.' ∉ Nat.toDigits 10 n := fun hIn =>
    absurd (isDigit_of_mem_toDigits hIn) (by decide)
  have hDigits (n : Nat) : (!(Nat.toDigits 10 n).isEmpty &&
      (Nat.toDigits 10 n).all isDecimal) = true := by
    rw [Bool.and_eq_true, Bool.not_eq_true', List.isEmpty_eq_false_iff, List.all_eq_true]
    exact ⟨Nat.toDigits_ne_nil, (filterMap_decimalValue?_toDigits n).1⟩
  rw [isDottedDigits, dottedText_eq_joinWith,
    splitAt_joinWith '.' (List.cons_ne_nil _ _) (by simp [hPoint])]
  simp only [List.map_cons, List.map_nil, toList_toString, List.all_cons, List.all_nil, hDigits,
    List.length_cons, List.length_nil, Bool.and_true]
  decide

theorem IsColons.isColonHex {groups : List Nat} {cs : List Char} (h : IsColons groups cs) :
    isColonHex cs = true := by
  obtain ⟨before, after, rfl, hBefore, hAfter⟩ := h.exists_cut
  have hColon : ':' ∉ before := fun hIn => absurd (hBefore ':' hIn) (by decide)
  rw [Tailnet.isColonHex, cutFirst?_eq_some_iff.mpr ⟨rfl, hColon⟩]
  rw [Bool.and_eq_true, List.all_eq_true, List.all_eq_true]
  exact ⟨hBefore, hAfter⟩

/-- An address without a zone has the shape of one. -/
theorem Address.IsSpelled.shape {address : Address} {cs : List Char} (h : address.IsSpelled cs)
    (hZone : '%' ∉ cs) : (isDottedDigits cs || isColonHex cs) = true := by
  cases hFamily : address.family with
  | v4 =>
      rw [((isSpelled_v4_iff hFamily).mp h).2, isDottedDigits_dottedText, Bool.true_or]
  | v6 =>
      obtain ⟨body, hColons, ⟨-, rfl⟩ | ⟨zone, -, rfl, -⟩⟩ := (isSpelled_v6_iff hFamily).mp h
      · rw [hColons.isColonHex, Bool.or_true]
      · simp at hZone

/-- A length is a number of bits, unless there are points in it. -/
theorem IsLength.all_isDecimal_iff {family : Family} {length : Nat} {cs : List Char}
    (h : IsLength family length cs) :
    (!cs.isEmpty && cs.all isDecimal) = true ↔ cs.contains '.' = false := by
  have hMask (number : Nat) : (!(dottedText number).toList.isEmpty &&
      (dottedText number).toList.all isDecimal) = true ↔
        (dottedText number).toList.contains '.' = false := by
    have hPoint := point_mem_dottedText number
    refine iff_of_false (fun hAll => ?_) (by simp [hPoint])
    rw [Bool.and_eq_true, List.all_eq_true] at hAll
    exact absurd (hAll.2 '.' hPoint) (by decide)
  cases h with
  | bits _ hNumeral =>
      obtain ⟨hNe, hDigits, -⟩ := isNumeral_ten_iff.mp hNumeral
      rw [List.all_eq_true] at hDigits
      refine iff_of_true ?_ ?_
      · rw [Bool.and_eq_true, Bool.not_eq_true', List.isEmpty_eq_false_iff, List.all_eq_true]
        exact ⟨hNe, fun c hc => isDecimal_of_isDigit (hDigits c hc)⟩
      · rw [List.contains_eq_mem, decide_eq_false_iff_not]
        exact fun hIn => absurd (hDigits '.' hIn) (by decide)
  | fixed => exact hMask _
  | free => exact hMask _

/-- Nothing of the shape of an address has a percent sign. -/
theorem percent_notMem_of_shape {cs : List Char}
    (h : (isDottedDigits cs || isColonHex cs) = true) : '%' ∉ cs := by
  intro hIn
  rcases Bool.or_eq_true_iff.mp h with hDotted | hColons
  · rw [isDottedDigits, Bool.and_eq_true, List.all_eq_true] at hDotted
    obtain ⟨group, hGroup, hPart⟩ := exists_mem_splitAt hIn (by decide : '%' ≠ '.')
    have hAll := hDotted.2 group hGroup
    rw [Bool.and_eq_true, List.all_eq_true] at hAll
    exact absurd (hAll.2 '%' hPart) (by decide)
  · unfold isColonHex at hColons
    split at hColons
    case h_1 before after hCut =>
      obtain ⟨rfl, -⟩ := cutFirst?_eq_some_iff.mp hCut
      rw [Bool.and_eq_true, List.all_eq_true, List.all_eq_true] at hColons
      rcases List.mem_append.mp hIn with hBefore | hAfter
      · exact absurd (hColons.1 '%' hBefore) (by decide)
      · rcases List.mem_cons.mp hAfter with hColon | hAfter
        · cases hColon
        · exact absurd (hColons.2 '%' hAfter) (by decide)
    case h_2 => cases hColons

/-- An address has the shape of one exactly if it is written without a zone. -/
theorem Address.IsSpelled.hasAddressShape_iff {address : Address} {cs : List Char}
    (h : address.IsSpelled cs) : hasAddressShape cs = true ↔ hasZoneOrMask cs = false := by
  have hCut : cutFirst? '/' cs = none := cutFirst?_eq_none_iff.mpr h.slash_notMem
  rw [hasAddressShape, hasZoneOrMask, hCut, Bool.or_false, List.contains_eq_mem,
    decide_eq_false_iff_not]
  exact ⟨percent_notMem_of_shape, h.shape⟩

/-- A network has the shape of an address exactly if it is written with neither a zone nor a
mask. -/
theorem Network.IsSpelled.hasAddressShape_iff {network : Network} {cs : List Char}
    (h : network.IsSpelled cs) : hasAddressShape cs = true ↔ hasZoneOrMask cs = false := by
  cases h with
  | alone h => exact h.hasAddressShape_iff
  | @withLength front back h hLength =>
      have hCut : cutFirst? '/' (front ++ '/' :: back) = some (front, back) :=
        cutFirst?_eq_some_iff.mpr ⟨rfl, h.slash_notMem⟩
      have hBits := hLength.all_isDecimal_iff
      have hZone : (front ++ '/' :: back).contains '%' = false ↔
          '%' ∉ front ∧ back.contains '%' = false := by simp
      rw [hasAddressShape, hasZoneOrMask, hCut]
      dsimp only
      rw [Bool.and_assoc, Bool.and_eq_true, hBits, Bool.or_eq_false_iff, hZone]
      constructor
      · rintro ⟨hShape, hPoint⟩
        refine ⟨⟨percent_notMem_of_shape hShape, ?_⟩, hPoint⟩
        have hAll := hBits.mpr hPoint
        rw [Bool.and_eq_true, List.all_eq_true] at hAll
        rw [List.contains_eq_mem, decide_eq_false_iff_not]
        exact fun hIn => absurd (hAll.2 '%' hIn) (by decide)
      · rintro ⟨⟨hFront, -⟩, hPoint⟩
        exact ⟨h.shape hFront, hPoint⟩

end Shapes

section Tokens

/-- The first character that has no place in an address without zone and length begins a zone. -/
theorem Address.IsSpelled.find?_not {address : Address} {cs : List Char}
    (h : address.IsSpelled cs) : ∀ c ∈ cs.find? (!isAddressChar ·), c = '%' := by
  have hNothing {body : List Char} (hBody : ∀ c ∈ body, isAddressChar c = true) :
      body.find? (!isAddressChar ·) = none := by
    rw [List.find?_eq_none]
    exact fun c hc => by simp [hBody c hc]
  cases hFamily : address.family with
  | v4 =>
      rw [((isSpelled_v4_iff hFamily).mp h).2, hNothing fun c => isAddressChar_of_mem_dottedText]
      simp
  | v6 =>
      obtain ⟨body, hColons, ⟨-, rfl⟩ | ⟨zone, -, rfl, -⟩⟩ := (isSpelled_v6_iff hFamily).mp h
      · simp [hNothing hColons.isAddressChar]
      · rw [List.find?_append, hNothing hColons.isAddressChar, Option.none_or,
          List.find?_cons_of_pos (by decide)]
        exact fun c hc => (Option.mem_some.mp hc).symm

variable {token : String}

theorem find?_not_of_isSome_read? (h : (AddressRange.read? token).isSome = true) :
    ∀ c ∈ (trim token).toList.find? (!isAddressChar ·), c = '%' ∨ c = '/' := by
  have hAddress {address : Address} {cs : List Char} (hSpelled : address.IsSpelled cs) :
      ∀ c ∈ cs.find? (!isAddressChar ·), c = '%' ∨ c = '/' :=
    fun c hc => .inl (hSpelled.find?_not c hc)
  rcases AddressRange.isSome_read?_iff.mp h with ⟨address, hSpelled⟩ | ⟨-, network, hSpelled⟩
  · exact hAddress hSpelled
  generalize (trim token).toList = cs at hSpelled
  cases hSpelled with
  | alone hSpelled => exact hAddress hSpelled
  | withLength hSpelled =>
      rw [List.find?_append]
      intro c hc
      rcases Option.or_eq_some_iff.mp hc with hFront | ⟨-, hSlash⟩
      · exact hAddress hSpelled c hFront
      · rw [List.find?_cons_of_pos (by decide)] at hSlash
        exact .inr (Option.some.inj hSlash).symm

/-- No marker and no mark begins like an address. -/
theorem startsWith_eq_false_of_isSome_read? (h : (AddressRange.read? token).isSome = true) :
    ∀ start ∈ "*" :: specialMarkers ++ [autogroupMark, tagMark, groupMark],
      startsWith start (trim token) = false := by
  have hForeign : ∀ start ∈ "*" :: specialMarkers ++ [autogroupMark, tagMark, groupMark],
      (start.toList.find? (!isAddressChar ·)).any (fun c => c != '%' && c != '/') = true := by
    decide
  intro start hStart
  obtain ⟨c, hc, hOther⟩ := (Option.any_eq_true _ _).mp (hForeign start hStart)
  rw [Bool.and_eq_true, bne_iff_ne, bne_iff_ne] at hOther
  rw [← Bool.not_eq_true]
  intro hStarts
  obtain ⟨rest, hToken⟩ := startsWith_iff.mp hStarts
  have hFirst : c ∈ (trim token).toList.find? (!isAddressChar ·) := by
    rw [hToken, String.toList_append, List.find?_append, hc, Option.some_or]
    rfl
  exact (find?_not_of_isSome_read? h c hFirst).elim hOther.1 hOther.2

theorem looksLikeAddress_iff (h : (AddressRange.read? token).isSome = true) :
    looksLikeAddress (trim token) = true ↔ hasZoneOrMask (trim token).toList = false := by
  have hShape : hasAddressShape (trim token).toList = true ↔
      hasZoneOrMask (trim token).toList = false := by
    rcases AddressRange.isSome_read?_iff.mp h with ⟨address, hSpelled⟩ | ⟨-, network, hSpelled⟩
    · exact hSpelled.hasAddressShape_iff
    · exact hSpelled.hasAddressShape_iff
  have hBreak : ((trim token).toList.getLast? == some '\n') = false := by
    rw [beq_eq_false_iff_ne]
    intro hLast
    have hTrimmed : IsTrimmed (trim token).toList := toList_trim token ▸ isTrimmed_trimChars _
    exact absurd (hTrimmed.2 '\n' hLast) (by decide)
  rw [looksLikeAddress, hBreak, Bool.false_and, Bool.or_false, hShape]

/-- What can be read as an address is taken for one in a rule if it has neither zone nor mask, and
else for a host. -/
theorem Principal.read_of_isSome_read? (h : (AddressRange.read? token).isSome = true)
    (hAt : '@' ∉ token.toList) :
    read token = ⟨if hasZoneOrMask (trim token).toList then .host else .address,
      trim token, trim token⟩ := by
  have hStarts := startsWith_eq_false_of_isSome_read? h
  have hNot {start : String}
      (hStart : start ∈ "*" :: specialMarkers ++ [autogroupMark, tagMark, groupMark]) :
      trim token ≠ start := by
    intro hEq
    have hSelf : startsWith start (trim token) = true :=
      startsWith_iff.mpr ⟨"", by rw [String.append_empty, hEq]⟩
    rw [hStarts start hStart] at hSelf
    cases hSelf
  have hStar : trim token ≠ "*" := hNot (by decide)
  have hSpecial : trim token ∉ specialMarkers := fun hIn =>
    hNot (List.mem_cons_of_mem _ (List.mem_append_left _ hIn)) rfl
  have hMentions : mentions '@' (trim token) = false := by
    rw [mentions, List.contains_eq_mem, decide_eq_false_iff_not, toList_trim]
    exact fun hIn => hAt (trimChars_subset _ hIn)
  rw [read, ofToken, if_neg hStar, if_neg hSpecial,
    afterStart?_eq_none_iff.mpr (hStarts autogroupMark (by decide)),
    afterStart?_eq_none_iff.mpr (hStarts tagMark (by decide)),
    afterStart?_eq_none_iff.mpr (hStarts groupMark (by decide)), hMentions]
  cases hZone : hasZoneOrMask (trim token).toList with
  | false => simp [(looksLikeAddress_iff h).mpr hZone]
  | true =>
      have hLooks : looksLikeAddress (trim token) = false := by
        rw [← Bool.not_eq_true, looksLikeAddress_iff h, hZone]
        exact Bool.noConfusion
      simp [hLooks]

/-- A name that can be declared has neither zone nor mask. -/
theorem hasZoneOrMask_of_isName {name : String} (h : isName name.toList = true) :
    hasZoneOrMask name.toList = false := by
  have hSlash : cutFirst? '/' name.toList = none :=
    cutFirst?_eq_none_iff.mpr (notMem_of_isName h (by decide))
  rw [hasZoneOrMask, hSlash, Bool.or_false, List.contains_eq_mem, decide_eq_false_iff_not]
  exact notMem_of_isName h (by decide)

/-- What a rule makes of an address that a host may have, if there is no at sign in it. Written
without a zone and without a mask, it is accepted, whatever is declared. Written with one of these,
it is taken for a host that nobody declared, and nobody can. -/
theorem AddressRange.checkReference_read (h : (read? token).isSome = true)
    (hAt : '@' ∉ token.toList) :
    Catalog.hostAddress token = .ok (trim token) ∧
      ((Principal.read token).kind = .address ↔ hasZoneOrMask (trim token).toList = false) ∧
      ∀ catalog : Catalog, catalog.Reached → ∀ location : Path,
        catalog.checkReference ⟨Principal.read token, location⟩ = .ok
          (if hasZoneOrMask (trim token).toList then
            [⟨.unknownHost (trim token) (trim token) false false, .text (trim token), location⟩]
          else []) := by
  have hRead := Principal.read_of_isSome_read? h hAt
  refine ⟨Catalog.hostAddress_eq_ok_iff.mpr ⟨h, rfl⟩, ?_, fun catalog hReached location => ?_⟩
  · rw [hRead]
    cases hasZoneOrMask (trim token).toList <;> simp
  rw [hRead]
  cases hZone : hasZoneOrMask (trim token).toList with
  | false =>
      simp [Catalog.checkReference, Catalog.finding?, read?_trim, h, bind_eq_ok_iff, pure_eq_ok_iff]
  | true =>
      have hStarts := startsWith_eq_false_of_isSome_read? h
      have hBare (kind : DeclarationKind) : unmarked kind (trim token) = trim token := by
        cases kind with
        | tag => exact unmarked_of_startsWith_eq_false (hStarts tagMark (by decide))
        | group => exact unmarked_of_startsWith_eq_false (hStarts groupMark (by decide))
        | host => rfl
      -- Only names are claimed, for whatever kind.
      have hFree (kind : DeclarationKind) : catalog.declares kind (trim token) = false := by
        rw [← Bool.not_eq_true, Catalog.declares, hBare, beq_iff_eq,
          hReached.consistent.claimed_iff]
        rintro ⟨hName, -⟩
        have hNone := hasZoneOrMask_of_isName (hReached.consistent.admissible kind _ hName).1
        rw [hZone] at hNone
        cases hNone
      simp [Catalog.checkReference, Catalog.finding?, hFree, bind_eq_ok_iff, pure_eq_ok_iff]

/-- The address of an interface is known with the number of its fixed bits. -/
theorem AddressRange.checkReference_interface : (read? " 10.0.0.7/8 ").isSome = true ∧
    (Principal.read " 10.0.0.7/8 ").kind = .address ∧
    Catalog.empty.checkReference ⟨Principal.read " 10.0.0.7/8 ", []⟩ = .ok [] := by
  have h : (read? " 10.0.0.7/8 ").isSome = true := by decide +kernel
  have hZone : hasZoneOrMask (trim " 10.0.0.7/8 ").toList = false := by decide +kernel
  obtain ⟨-, hKind, hCheck⟩ := checkReference_read h (by decide)
  refine ⟨h, hKind.mpr hZone, ?_⟩
  rw [hCheck _ .empty, hZone, if_neg Bool.false_ne_true]

/-- With a mask in place of this number it is not. -/
theorem Principal.exists_misread_address :
    ¬ ∀ token : String,
      (∀ mark ∈ [tagMark, groupMark, autogroupMark], startsWith mark token = false) →
        '@' ∉ token.toList → (AddressRange.read? token).isSome = true →
          (read token).kind = .address := by
  intro hAll
  have hHost : (read "10.0.0.0/255.0.0.0").kind = .host := by decide +kernel
  have hAddress := hAll "10.0.0.0/255.0.0.0" (by decide) (by decide) (by decide +kernel)
  rw [hHost] at hAddress
  cases hAddress

end Tokens

end Tailnet
