import Tailnet.Proofs.Address.Spelling

/-!
Addresses and networks are read from their spellings and from nothing else. The parts between colons
are compared with what was spelled: first the groups of one side, then the sides of a gap.
-/

namespace Tailnet

open Text

section Parts

/-- The parts between colons in which groups are looked for. A dotted address in the last place is
cut into two groups where that is allowed. -/
def groupParts? (dotted : Bool) : List (List Char) → Option (List (List Char))
  | [] => none
  | [last] =>
    if dotted && last.contains '.' then
      (dotted? last).map fun number =>
        [Nat.toDigits 16 (number / 65536), Nat.toDigits 16 (number % 65536)]
    else some [last]
  | part :: rest => (groupParts? dotted rest).map (part :: ·)

variable {dotted : Bool}

theorem groupParts?_last (last : List Char) :
    groupParts? dotted [last] =
      if dotted && last.contains '.' then
        (dotted? last).map fun number =>
          [Nat.toDigits 16 (number / 65536), Nat.toDigits 16 (number % 65536)]
      else some [last] := rfl

theorem groupParts?_cons (part : List Char) {parts : List (List Char)} (h : parts ≠ []) :
    groupParts? dotted (part :: parts) = (groupParts? dotted parts).map (part :: ·) := by
  obtain ⟨next, rest, rfl⟩ := List.exists_cons_of_ne_nil h
  rfl

theorem groupParts?_append (front : List (List Char)) {back : List (List Char)} (h : back ≠ []) :
    groupParts? dotted (front ++ back) = (groupParts? dotted back).map (front ++ ·) := by
  induction front with
  | nil => simp
  | cons part front ih =>
      rw [List.cons_append, groupParts?_cons part (List.append_ne_nil_of_right_ne_nil front h), ih,
        Option.map_map]
      rfl

/-- A part without a point stays as it is. -/
theorem groupParts?_singleton {part : List Char} (h : '.' ∉ part) :
    groupParts? dotted [part] = some [part] := by
  have hPoint : part.contains '.' = false := by simpa using h
  rw [groupParts?_last, hPoint, Bool.and_false, if_neg Bool.false_ne_true]

theorem groupParts?_dottedText {number : Nat} (h : number < Nat.pow 2 32) :
    groupParts? true [(dottedText number).toList] =
      some [Nat.toDigits 16 (number / 65536), Nat.toDigits 16 (number % 65536)] := by
  have hPoint : (dottedText number).toList.contains '.' = true := by
    simpa using point_mem_dottedText number
  rw [groupParts?_last, hPoint, Bool.true_and, if_pos rfl, dotted?_dottedText h, Option.map_some]

/-- The last part is all or the last two of the parts that groups are looked for in. -/
theorem groupParts?_singleton_cases {last : List Char} {found : List (List Char)}
    (h : groupParts? dotted [last] = some found) :
    found = [last] ∨ ∃ number < Nat.pow 2 32, dotted = true ∧ last = (dottedText number).toList ∧
      found = [Nat.toDigits 16 (number / 65536), Nat.toDigits 16 (number % 65536)] := by
  rw [groupParts?_last] at h
  split at h
  case isTrue hPoint =>
    obtain ⟨number, hNumber, rfl⟩ := Option.map_eq_some_iff.mp h
    obtain ⟨hSmall, hLast⟩ := dotted?_eq_some_iff.mp hNumber
    exact .inr ⟨number, hSmall, (Bool.and_eq_true _ _ ▸ hPoint).1, hLast, rfl⟩
  case isFalse =>
    cases h
    exact .inl rfl

theorem groupParts?_false {parts : List (List Char)} (h : parts ≠ []) :
    groupParts? false parts = some parts := by
  induction parts with
  | nil => exact absurd rfl h
  | cons part rest ih =>
      by_cases hRest : rest = []
      · rw [hRest, groupParts?_last, Bool.false_and, if_neg Bool.false_ne_true]
      · rw [groupParts?_cons part hRest, ih hRest, Option.map_some]

/-- At most one part becomes two. -/
theorem length_groupParts? {parts found : List (List Char)}
    (h : groupParts? dotted parts = some found) :
    0 < found.length ∧ found.length ≤ parts.length + 1 := by
  induction parts generalizing found with
  | nil => cases h
  | cons part rest ih =>
      by_cases hRest : rest = []
      · subst hRest
        rcases groupParts?_singleton_cases h with rfl | ⟨-, -, -, -, rfl⟩
        · simp
        · simp
      · rw [groupParts?_cons part hRest, Option.map_eq_some_iff] at h
        obtain ⟨others, hOthers, rfl⟩ := h
        have hLength := ih hOthers
        simp only [List.length_cons]
        omega

/-- Only nothing at all has an empty part that stands alone. -/
theorem splitAt_of_groupParts?_eq_empty {cs : List Char}
    (h : groupParts? dotted (splitAt ':' cs) = some [[]]) : cs = [] := by
  obtain ⟨part, rest, hSplit⟩ := List.exists_cons_of_ne_nil (splitAt_ne_nil ':' cs)
  rw [hSplit] at h
  by_cases hRest : rest = []
  · subst hRest
    obtain ⟨rfl, -⟩ := splitAt_eq_singleton_iff.mp hSplit
    rcases groupParts?_singleton_cases h with hSame | ⟨number, -, -, -, hTwo⟩
    · exact (List.cons.inj hSame).1.symm
    · exact absurd (List.cons.inj hTwo).1.symm Nat.toDigits_ne_nil
  · rw [groupParts?_cons part hRest, Option.map_eq_some_iff] at h
    obtain ⟨others, hOthers, hEq⟩ := h
    have hLength := (length_groupParts? hOthers).1
    rw [(List.cons.inj hEq).2] at hLength
    cases hLength

/-- An empty part behind others was there before a dotted address was cut. -/
theorem exists_of_groupParts?_eq_gap {parts front back : List (List Char)} (hBack : back ≠ [])
    (h : groupParts? dotted parts = some (front ++ [] :: back)) :
    ∃ rest, parts = front ++ [] :: rest ∧ rest ≠ [] ∧ groupParts? dotted rest = some back := by
  induction front generalizing parts with
  | nil =>
      match parts with
      | [] => cases h
      | [last] =>
          rcases groupParts?_singleton_cases h with hSame | ⟨number, -, -, -, hTwo⟩
          · exact absurd (List.cons.inj hSame).2 hBack
          · exact absurd (List.cons.inj hTwo).1.symm Nat.toDigits_ne_nil
      | part :: next :: rest =>
          rw [groupParts?_cons part (List.cons_ne_nil next rest), Option.map_eq_some_iff] at h
          obtain ⟨found, hFound, hEq⟩ := h
          obtain ⟨rfl, rfl⟩ := List.cons.inj hEq
          exact ⟨next :: rest, rfl, List.cons_ne_nil _ _, hFound⟩
  | cons first front ih =>
      match parts with
      | [] => cases h
      | [last] =>
          rcases groupParts?_singleton_cases h with hSame | ⟨number, -, -, -, hTwo⟩
          · exact absurd (List.cons.inj hSame).2 (by simp)
          · have hLast := (List.cons.inj hTwo).2
            cases front with
            | nil => exact absurd (List.cons.inj hLast).1.symm Nat.toDigits_ne_nil
            | cons second front => exact absurd (List.cons.inj hLast).2 (by simp)
      | part :: next :: rest =>
          rw [groupParts?_cons part (List.cons_ne_nil next rest), Option.map_eq_some_iff] at h
          obtain ⟨found, hFound, hEq⟩ := h
          obtain ⟨rfl, rfl⟩ := List.cons.inj hEq
          obtain ⟨others, hOthers, hNe, hRest⟩ := ih hFound
          exact ⟨others, by rw [hOthers]; rfl, hNe, hRest⟩

theorem colonParts?_eq (cs : List Char) :
    colonParts? cs =
      if (splitAt ':' cs).length < 3 then none else groupParts? true (splitAt ':' cs) := by
  have hNe := splitAt_ne_nil ':' cs
  have hLast := List.getLast?_eq_getLast_of_ne_nil hNe
  have hParts :
      groupParts? true ((splitAt ':' cs).dropLast ++ [(splitAt ':' cs).getLast hNe]) = _ :=
    groupParts?_append (splitAt ':' cs).dropLast (List.cons_ne_nil _ _)
  rw [List.dropLast_append_getLast hNe] at hParts
  unfold colonParts?
  simp only [hLast]
  rw [hParts, groupParts?_last, Bool.true_and]
  split
  · rfl
  · split
    · rw [Option.map_map]
      rfl
    · rw [Option.map_some, List.dropLast_append_getLast hNe]

end Parts

section Groups

variable {dotted : Bool} {gs : List Nat} {cs : List Char}

theorem IsGroup.notMem {g : Nat} (h : IsGroup g cs) {c : Char} (hLower : c.toLower = c)
    (hOther : Json.hexValue? c = none) : c ∉ cs := by
  intro hIn
  obtain ⟨digits, -, hDigits, hSpelled, -⟩ := h.2.exists_digits (by decide)
  have hLowerIn : c ∈ cs.map Char.toLower := List.mem_map.mpr ⟨c, hIn, hLower⟩
  rw [hSpelled] at hLowerIn
  obtain ⟨d, hd, rfl⟩ := List.mem_map.mp hLowerIn
  rw [hexValue?_eq_some_iff.mpr ⟨hDigits d hd, hLower⟩] at hOther
  cases hOther

theorem mapM_group?_lastTwo {number : Nat} (h : number < Nat.pow 2 32) :
    [Nat.toDigits 16 (number / 65536), Nat.toDigits 16 (number % 65536)].mapM group? =
      some [number / 65536, number % 65536] := by
  have hSmall : ∀ g ∈ [number / 65536, number % 65536], g < 65536 := by
    change number < 4294967296 at h
    simp only [List.forall_mem_cons, List.not_mem_nil, false_imp_iff, implies_true, and_true]
    omega
  exact mapM_group?_toDigits hSmall

/-- Groups are read from their spellings and from nothing else. -/
theorem isGroups_iff :
    IsGroups dotted gs cs ↔
      ((groupParts? dotted (splitAt ':' cs)).bind fun parts => parts.mapM group?) = some gs := by
  constructor
  · intro h
    induction h with
    | @last g cs hGroup =>
        rw [splitAt_of_notMem (hGroup.notMem (by decide) (by decide)),
          groupParts?_singleton (hGroup.notMem (by decide) (by decide)), Option.bind_some,
          List.mapM_cons, group?_eq_some_iff.mpr hGroup]
        rfl
    | @lastTwo number hDotted hSmall =>
        subst hDotted
        rw [splitAt_of_notMem (notMem_dottedText (by decide) (by decide) number),
          groupParts?_dottedText hSmall, Option.bind_some, mapM_group?_lastTwo hSmall]
    | @cons g groups first rest hFirst _ ih =>
        obtain ⟨parts, hParts, hGroups⟩ := Option.bind_eq_some_iff.mp ih
        rw [splitAt_append_sep, splitAt_of_notMem (hFirst.notMem (by decide) (by decide)),
          List.singleton_append, groupParts?_cons first (splitAt_ne_nil ':' rest), hParts,
          Option.map_some, Option.bind_some, List.mapM_cons, group?_eq_some_iff.mpr hFirst, hGroups]
        rfl
  · intro h
    obtain ⟨parts, hSplit⟩ : ∃ parts, splitAt ':' cs = parts := ⟨_, rfl⟩
    rw [hSplit] at h
    induction parts generalizing cs gs with
    | nil => exact absurd hSplit (splitAt_ne_nil ':' cs)
    | cons part rest ih =>
        obtain ⟨found, hFound, hGroups⟩ := Option.bind_eq_some_iff.mp h
        by_cases hRest : rest = []
        · subst hRest
          obtain ⟨rfl, -⟩ := splitAt_eq_singleton_iff.mp hSplit
          rcases groupParts?_singleton_cases hFound with rfl | ⟨number, hSmall, rfl, hLast, rfl⟩
          · rw [mapM_eq_some_iff, List.forall₂_cons_left_iff] at hGroups
            obtain ⟨g, others, hGroup, hOthers, rfl⟩ := hGroups
            obtain rfl := List.forall₂_nil_left_iff.mp hOthers
            exact .last (group?_eq_some_iff.mp hGroup)
          · rw [mapM_group?_lastTwo hSmall, Option.some_inj] at hGroups
            rw [hLast, ← hGroups]
            exact .lastTwo rfl hSmall
        · rw [groupParts?_cons part hRest, Option.map_eq_some_iff] at hFound
          obtain ⟨others, hOthers, rfl⟩ := hFound
          rw [mapM_eq_some_iff, List.forall₂_cons_left_iff] at hGroups
          obtain ⟨g, more, hGroup, hMore, rfl⟩ := hGroups
          obtain ⟨back, rfl, -, hBack⟩ := exists_of_splitAt_eq_cons hRest hSplit
          refine .cons (group?_eq_some_iff.mp hGroup) (ih (Option.bind_eq_some_iff.mpr ?_) hBack)
          exact ⟨others, hOthers, mapM_eq_some_iff.mpr hMore⟩

/-- The groups on one side of a gap are read from their spellings and from nothing else. -/
theorem isSide_iff :
    IsSide dotted gs cs ↔ ((groupParts? dotted (splitAt ':' cs)).bind side?) = some gs := by
  constructor
  · rintro (_ | h)
    · rw [splitAt_nil, groupParts?_singleton List.not_mem_nil]
      rfl
    · obtain ⟨parts, hParts, hGroups⟩ := Option.bind_eq_some_iff.mp (isGroups_iff.mp h)
      rw [hParts, Option.bind_some, side?_of_mapM hGroups]
  · intro h
    obtain ⟨parts, hParts, hSide⟩ := Option.bind_eq_some_iff.mp h
    rw [side?] at hSide
    split at hSide
    case isTrue hAlone =>
      rw [beq_iff_eq.mp hAlone] at hParts
      cases hSide
      rw [splitAt_of_groupParts?_eq_empty hParts]
      exact .nothing
    case isFalse =>
      exact .groups (isGroups_iff.mpr (Option.bind_eq_some_iff.mpr ⟨parts, hParts, hSide⟩))

theorem length_of_mapM {α β : Type} {f : α → Option β} {items : List α} {results : List β}
    (h : items.mapM f = some results) : items.length = results.length :=
  (mapM_eq_some_iff.mp h).length_eq

/-- Eight groups are read from their spellings and from nothing else. -/
theorem isColons_iff : IsColons gs cs ↔ (colonParts? cs).bind groups? = some gs := by
  rw [colonParts?_eq]
  constructor
  · intro h
    cases h with
    | whole h hLength =>
        obtain ⟨parts, hParts, hGroups⟩ := Option.bind_eq_some_iff.mp (isGroups_iff.mp h)
        have hCount := length_of_mapM hGroups
        have hMany := (length_groupParts? hParts).2
        rw [if_neg (by omega), hParts, Option.bind_some, groups?_of_mapM (by omega) hGroups]
    | @gap before after front back zeros hBefore hAfter hZeros hLength =>
        have hFrontNe := splitAt_ne_nil ':' front
        have hBackNe := splitAt_ne_nil ':' back
        have hSplit : splitAt ':' (front ++ ':' :: ':' :: back) =
            splitAt ':' front ++ [] :: splitAt ':' back := by
          rw [splitAt_append_sep, splitAt_cons_sep]
        obtain ⟨parts, hParts, hSide⟩ := Option.bind_eq_some_iff.mp (isSide_iff.mp hAfter)
        rw [isSide_iff, groupParts?_false hFrontNe, Option.bind_some] at hBefore
        have hFrontPos := List.length_pos_iff.mpr hFrontNe
        have hBackPos := List.length_pos_iff.mpr hBackNe
        have hPartsNe : parts ≠ [] := List.length_pos_iff.mp (length_groupParts? hParts).1
        have hCount : (splitAt ':' front ++ [] :: splitAt ':' back).length =
            (splitAt ':' front).length + 1 + (splitAt ':' back).length := by
          simp only [List.length_append, List.length_cons]
          omega
        have hFree : 8 - (before.length + after.length) = zeros := by omega
        rw [hSplit, if_neg (by omega), groupParts?_append _ (List.cons_ne_nil _ _),
          groupParts?_cons _ hBackNe, hParts, Option.map_some, Option.map_some, Option.bind_some,
          groups?_of_sides hFrontNe hPartsNe hBefore hSide (by omega), hFree]
  · intro h
    obtain ⟨parts, hParts, hGroups⟩ := Option.bind_eq_some_iff.mp h
    rw [Option.ite_none_left_eq_some] at hParts
    obtain ⟨-, hParts⟩ := hParts
    rcases groups?_eq_some_iff.mp hGroups with ⟨hLength, hMap⟩ |
      ⟨front, back, before, after, rfl, hFront, hBack, hBefore, hAfter, hLength, rfl⟩
    · refine .whole (isGroups_iff.mpr (Option.bind_eq_some_iff.mpr ⟨parts, hParts, hMap⟩)) ?_
      rw [← length_of_mapM hMap, hLength]
    · obtain ⟨rest, hSplit, hRest, hFound⟩ := exists_of_groupParts?_eq_gap hBack hParts
      obtain ⟨a, b, rfl, rfl, hB⟩ :=
        exists_of_splitAt_eq_append hFront (List.cons_ne_nil [] rest) hSplit
      obtain ⟨c, rfl, -, rfl⟩ := exists_of_splitAt_eq_cons hRest hB
      refine .gap (isSide_iff.mpr ?_) (isSide_iff.mpr ?_) (by omega) (by omega)
      · rw [groupParts?_false hFront, Option.bind_some, hBefore]
      · rw [hFound, Option.bind_some, hAfter]

end Groups

section Bounds

variable {dotted : Bool} {gs : List Nat} {cs : List Char}

theorem IsGroup.lt {g : Nat} (h : IsGroup g cs) : g < 65536 := by
  obtain ⟨hLength, zeros, hSpelled⟩ := h
  have hShort : (Nat.toDigits 16 g).length ≤ 4 := by
    have hCount := congrArg List.length hSpelled
    rw [List.length_map, List.length_append] at hCount
    omega
  exact (Nat.length_toDigits_le_iff (by decide) (by decide)).mp hShort

theorem IsGroups.lt (h : IsGroups dotted gs cs) : ∀ g ∈ gs, g < 65536 := by
  induction h with
  | last h => exact List.forall_mem_singleton.mpr h.lt
  | lastTwo _ hSmall =>
      change _ < 4294967296 at hSmall
      simp only [List.forall_mem_cons, List.not_mem_nil, false_imp_iff, implies_true, and_true]
      omega
  | cons hFirst _ ih => exact List.forall_mem_cons.mpr ⟨hFirst.lt, ih⟩

theorem IsSide.lt (h : IsSide dotted gs cs) : ∀ g ∈ gs, g < 65536 := by
  cases h with
  | nothing => exact List.forall_mem_nil _
  | groups h => exact h.lt

theorem IsColons.fits (h : IsColons gs cs) : gs.length = 8 ∧ ∀ g ∈ gs, g < 65536 := by
  cases h with
  | whole h hLength => exact ⟨hLength, h.lt⟩
  | gap hBefore hAfter hZeros hLength =>
      rw [List.length_append, List.length_append, List.length_replicate]
      refine ⟨hLength, List.forall_mem_append.mpr ⟨List.forall_mem_append.mpr ⟨hBefore.lt, ?_⟩,
        hAfter.lt⟩⟩
      intro g hg
      rw [List.eq_of_mem_replicate hg]
      decide

/-- Eight groups are those of their number. -/
theorem eq_groupsOf_iff (hLength : gs.length = 8) (hSmall : ∀ g ∈ gs, g < 65536) {number : Nat}
    (hNumber : number < Nat.pow 2 128) : ofGroups gs = number ↔ gs = groupsOf number := by
  constructor
  · intro h
    refine placeValue_inj (by decide) ?_ hSmall (fun _ => groupsOf_lt) ?_
    · rw [hLength, length_groupsOf]
    · exact h.trans (ofGroups_groupsOf hNumber).symm
  · rintro rfl
    exact ofGroups_groupsOf hNumber

section Characters

variable {c : Char} (hLower : c.toLower = c) (hDigit : Json.hexValue? c = none) (hPoint : c ≠ '.')
  (hColon : c ≠ ':')

include hLower hDigit hPoint hColon

theorem IsGroups.notMem (h : IsGroups dotted gs cs) : c ∉ cs := by
  induction h with
  | last h => exact h.notMem hLower hDigit
  | lastTwo _ _ => exact notMem_dottedText hDigit hPoint _
  | cons hFirst _ ih =>
      rw [List.mem_append, List.mem_cons, not_or, not_or]
      exact ⟨hFirst.notMem hLower hDigit, hColon, ih⟩

theorem IsSide.notMem (h : IsSide dotted gs cs) : c ∉ cs := by
  cases h with
  | nothing => exact List.not_mem_nil
  | groups h => exact h.notMem hLower hDigit hPoint hColon

/-- Nothing but hexadecimal digits, points and colons stands in eight groups. -/
theorem IsColons.notMem (h : IsColons gs cs) : c ∉ cs := by
  cases h with
  | whole h _ => exact h.notMem hLower hDigit hPoint hColon
  | gap hBefore hAfter _ _ =>
      simp only [List.mem_append, List.mem_cons, not_or]
      exact ⟨hBefore.notMem hLower hDigit hPoint hColon, hColon, hColon,
        hAfter.notMem hLower hDigit hPoint hColon⟩

end Characters

end Bounds

namespace Address

theorem ofNumber?_eq_some_iff {family : Family} {number : Nat} {zone : Option String}
    {address : Address} :
    ofNumber? family number zone = some address ↔
      address.family = family ∧ address.number = number ∧ address.zone = zone := by
  constructor
  · intro h
    rw [ofNumber?] at h
    split at h
    · cases h
      exact ⟨rfl, rfl, rfl⟩
    · cases h
  · rintro ⟨rfl, rfl, rfl⟩
    rw [ofNumber?, dif_pos address.number_lt]

variable {address : Address} {cs : List Char}

theorem isSpelled_v4_iff (hFamily : address.family = .v4) :
    address.IsSpelled cs ↔ address.zone = none ∧ cs = (dottedText address.number).toList := by
  rw [IsSpelled, hFamily]

theorem isSpelled_v6_iff (hFamily : address.family = .v6) :
    address.IsSpelled cs ↔
      ∃ body, IsColons (groupsOf address.number) body ∧
        (address.zone = none ∧ cs = body ∨
          ∃ zone, address.zone = some zone ∧ cs = body ++ '%' :: zone.toList ∧ zone ≠ "" ∧
            '%' ∉ zone.toList ∧ '/' ∉ zone.toList) := by
  rw [IsSpelled, hFamily]
  cases address.zone with
  | none => simp
  | some zone => simp

theorem readV4?_eq_some_iff :
    readV4? cs = some address ↔ address.family = .v4 ∧ address.IsSpelled cs := by
  have hFits (hFamily : address.family = .v4) : address.number < Nat.pow 2 32 := by
    have hNumber := address.number_lt
    rw [hFamily] at hNumber
    exact hNumber
  simp only [readV4?, Option.bind_eq_bind, Option.bind_eq_some_iff, ofNumber?_eq_some_iff,
    dotted?_eq_some_iff]
  constructor
  · rintro ⟨-, ⟨-, hSpelled⟩, hFamily, rfl, hZone⟩
    exact ⟨hFamily, (isSpelled_v4_iff hFamily).mpr ⟨hZone, hSpelled⟩⟩
  · rintro ⟨hFamily, h⟩
    obtain ⟨hZone, hSpelled⟩ := (isSpelled_v4_iff hFamily).mp h
    exact ⟨address.number, ⟨hFits hFamily, hSpelled⟩, hFamily, rfl, hZone⟩

/-- The groups of an address are read together with the zone that was cut off. -/
theorem readGroups_iff {zone : Option String} :
    (do ofNumber? .v6 (ofGroups (← groups? (← colonParts? cs))) zone) = some address ↔
      address.family = .v6 ∧ address.zone = zone ∧ IsColons (groupsOf address.number) cs := by
  have hFits (hFamily : address.family = .v6) : address.number < Nat.pow 2 128 := by
    have hNumber := address.number_lt
    rw [hFamily] at hNumber
    exact hNumber
  have hNumber {gs : List Nat} (h : IsColons gs cs) (hFamily : address.family = .v6) :
      ofGroups gs = address.number ↔ gs = groupsOf address.number :=
    eq_groupsOf_iff h.fits.1 h.fits.2 (hFits hFamily)
  simp only [Option.bind_eq_bind, Option.bind_eq_some_iff, ofNumber?_eq_some_iff]
  constructor
  · rintro ⟨parts, hParts, gs, hGroups, hFamily, hValue, hZone⟩
    have hColons := isColons_iff.mpr (Option.bind_eq_some_iff.mpr ⟨parts, hParts, hGroups⟩)
    exact ⟨hFamily, hZone, (hNumber hColons hFamily).mp hValue.symm ▸ hColons⟩
  · rintro ⟨hFamily, hZone, hColons⟩
    obtain ⟨parts, hParts, hGroups⟩ := Option.bind_eq_some_iff.mp (isColons_iff.mp hColons)
    exact ⟨parts, hParts, _, hGroups, hFamily, ((hNumber hColons hFamily).mpr rfl).symm, hZone⟩

theorem readV6?_eq_some_iff (hSlash : '/' ∉ cs) :
    readV6? cs = some address ↔ address.family = .v6 ∧ address.IsSpelled cs := by
  have hBody {body : List Char} (h : IsColons (groupsOf address.number) body) : '%' ∉ body :=
    h.notMem (by decide) (by decide) (by decide) (by decide)
  unfold readV6?
  cases hCut : cutFirst? '%' cs with
  | none =>
      have hPercent := cutFirst?_eq_none_iff.mp hCut
      refine readGroups_iff.trans (and_congr_right fun hFamily => ?_)
      rw [isSpelled_v6_iff hFamily]
      constructor
      · rintro ⟨hZone, hColons⟩
        exact ⟨cs, hColons, .inl ⟨hZone, rfl⟩⟩
      · rintro ⟨body, hColons, ⟨hZone, rfl⟩ | ⟨zone, -, rfl, -⟩⟩
        · exact ⟨hZone, hColons⟩
        · simp at hPercent
  | some cut =>
      obtain ⟨body, written⟩ := cut
      obtain ⟨rfl, hPercent⟩ := cutFirst?_eq_some_iff.mp hCut
      have hSpelled (hFamily : address.family = .v6) :
          address.IsSpelled (body ++ '%' :: written) ↔
            (written ≠ [] ∧ '%' ∉ written) ∧
              address.zone = some (String.ofList written) ∧
                IsColons (groupsOf address.number) body := by
        rw [isSpelled_v6_iff hFamily]
        constructor
        · rintro ⟨front, hColons, ⟨-, hEq⟩ | ⟨zone, hZone, hEq, hNe, hOnce, -⟩⟩
          · exact absurd (hEq ▸ List.mem_append_right _ List.mem_cons_self) (hBody hColons)
          · rw [hEq, cutFirst?_eq_some_iff.mpr ⟨rfl, hBody hColons⟩] at hCut
            obtain ⟨rfl, rfl⟩ := Prod.mk.inj (Option.some_inj.mp hCut)
            exact ⟨⟨by simpa using hNe, hOnce⟩, by rw [hZone, String.ofList_toList], hColons⟩
        · rintro ⟨⟨hNe, hOnce⟩, hZone, hColons⟩
          refine ⟨body, hColons, .inr ⟨_, hZone, by rw [String.toList_ofList], ?_, ?_, ?_⟩⟩
          · rwa [Ne, String.ofList_eq_empty_iff]
          · rwa [String.toList_ofList]
          · rw [String.toList_ofList]
            exact fun hIn => hSlash (List.mem_append_right _ (List.mem_cons_of_mem _ hIn))
      have hValid : ¬ (written.isEmpty || written.contains '%') = true ↔
          written ≠ [] ∧ '%' ∉ written := by simp
      dsimp only
      split
      case isTrue hInvalid =>
        exact iff_of_false nofun fun h => hValid.mpr ((hSpelled h.1).mp h.2).1 hInvalid
      case isFalse h =>
        refine readGroups_iff.trans (and_congr_right fun hFamily => ?_)
        rw [hSpelled hFamily]
        exact (and_iff_right (hValid.mp h)).symm

theorem IsSpelled.slash_notMem (h : address.IsSpelled cs) : '/' ∉ cs := by
  cases hFamily : address.family with
  | v4 =>
      rw [((isSpelled_v4_iff hFamily).mp h).2]
      exact notMem_dottedText (by decide) (by decide) _
  | v6 =>
      obtain ⟨body, hColons, ⟨-, rfl⟩ | ⟨zone, -, rfl, -, -, hZone⟩⟩ :=
        (isSpelled_v6_iff hFamily).mp h
      · exact hColons.notMem (by decide) (by decide) (by decide) (by decide)
      · rw [List.mem_append, List.mem_cons, not_or, not_or]
        exact ⟨hColons.notMem (by decide) (by decide) (by decide) (by decide), by decide, hZone⟩

/-- A dotted address has no colon. -/
theorem readV4?_eq_none_of_colon (h : ':' ∈ cs) : readV4? cs = none := by
  rw [Option.eq_none_iff_forall_ne_some]
  intro address hRead
  obtain ⟨hFamily, hSpelled⟩ := readV4?_eq_some_iff.mp hRead
  exact notMem_dottedText (by decide) (by decide) _ (((isSpelled_v4_iff hFamily).mp hSpelled).2 ▸ h)

/-- A spelling of the newer family has a colon, so that it is none of the older. -/
theorem readV4?_eq_none_of_isSpelled (hFamily : address.family = .v6) (h : address.IsSpelled cs) :
    readV4? cs = none := by
  obtain ⟨body, hColons, hRest⟩ := (isSpelled_v6_iff hFamily).mp h
  obtain ⟨parts, hParts, -⟩ := Option.bind_eq_some_iff.mp (isColons_iff.mp hColons)
  have hColon := colon_mem_of_colonParts? hParts
  rcases hRest with ⟨-, rfl⟩ | ⟨zone, -, rfl, -⟩
  · exact readV4?_eq_none_of_colon hColon
  · exact readV4?_eq_none_of_colon (List.mem_append_left _ hColon)

/-- **Addresses are read from their spellings and from nothing else.** -/
theorem read?_eq_some_iff {s : String} (hSlash : '/' ∉ s.toList) :
    read? s = some address ↔ address.IsSpelled s.toList := by
  rw [read?, Option.or_eq_some_iff, readV4?_eq_some_iff, readV6?_eq_some_iff hSlash]
  constructor
  · rintro (⟨-, h⟩ | ⟨-, -, h⟩)
    · exact h
    · exact h
  · intro h
    cases hFamily : address.family with
    | v4 => exact .inl ⟨rfl, h⟩
    | v6 => exact .inr ⟨readV4?_eq_none_of_isSpelled hFamily h, rfl, h⟩

end Address

namespace Network

/-- The length of a network as it is written, or left out. -/
def HasLength (network : Network) : Option (List Char) → Prop
  | none => network.length = network.address.family.width
  | some written => IsLength network.address.family network.length written

variable {network : Network} {cs : List Char} {written : Option (List Char)}

theorem ofLength?_eq_some_iff {address : Address} {length : Nat} :
    ofLength? address length = some network ↔
      network.address = address ∧ network.length = length := by
  constructor
  · intro h
    rw [ofLength?] at h
    split at h
    · cases h
      exact ⟨rfl, rfl⟩
    · cases h
  · rintro ⟨rfl, rfl⟩
    rw [ofLength?, dif_pos network.length_le]

theorem readV4?_eq_some_iff :
    readV4? cs written = some network ↔
      Address.readV4? cs = some network.address ∧ network.HasLength written := by
  have hFamily (h : Address.readV4? cs = some network.address) : network.address.family = .v4 :=
    (Address.readV4?_eq_some_iff.mp h).1
  have hFits := network.length_le
  cases written with
  | none =>
      simp only [readV4?, Option.bind_eq_bind, Option.bind_eq_some_iff, ofLength?_eq_some_iff,
        HasLength]
      constructor
      · rintro ⟨_, hRead, rfl, hLength⟩
        exact ⟨hRead, by rw [hFamily hRead, hLength]; rfl⟩
      · rintro ⟨hRead, hLength⟩
        exact ⟨_, hRead, rfl, by rw [hLength, hFamily hRead]; rfl⟩
  | some back =>
      simp only [readV4?, Option.bind_eq_bind, Option.bind_eq_some_iff, ofLength?_eq_some_iff,
        HasLength, isLength_v4_iff]
      constructor
      · rintro ⟨_, hRead, _, ⟨hSmall, hLength⟩, rfl, rfl⟩
        exact ⟨hRead, by rw [hFamily hRead]; exact hLength⟩
      · rintro ⟨hRead, hLength⟩
        rw [hFamily hRead] at hLength hFits
        exact ⟨_, hRead, _, ⟨hFits, hLength⟩, rfl, rfl⟩

theorem readV6?_eq_some_iff (hSlash : '/' ∉ cs) :
    readV6? cs written = some network ↔
      Address.readV6? cs = some network.address ∧ network.HasLength written := by
  have hFamily (h : Address.readV6? cs = some network.address) : network.address.family = .v6 :=
    ((Address.readV6?_eq_some_iff hSlash).mp h).1
  have hFits := network.length_le
  cases written with
  | none =>
      simp only [readV6?, Option.bind_eq_bind, Option.bind_eq_some_iff, ofLength?_eq_some_iff,
        HasLength]
      constructor
      · rintro ⟨_, hRead, rfl, hLength⟩
        exact ⟨hRead, by rw [hFamily hRead, hLength]; rfl⟩
      · rintro ⟨hRead, hLength⟩
        exact ⟨_, hRead, rfl, by rw [hLength, hFamily hRead]; rfl⟩
  | some back =>
      simp only [readV6?, Option.bind_eq_bind, Option.bind_eq_some_iff, ofLength?_eq_some_iff,
        HasLength, isLength_v6_iff]
      constructor
      · rintro ⟨_, hRead, _, ⟨hSmall, hLength⟩, rfl, rfl⟩
        exact ⟨hRead, by rw [hFamily hRead]; exact hLength⟩
      · rintro ⟨hRead, hLength⟩
        rw [hFamily hRead] at hLength hFits
        exact ⟨_, hRead, _, ⟨hFits, hLength⟩, rfl, rfl⟩

theorem read_or_eq_some_iff (hSlash : '/' ∉ cs) :
    (readV4? cs written).or (readV6? cs written) = some network ↔
      network.address.IsSpelled cs ∧ network.HasLength written := by
  rw [Option.or_eq_some_iff, readV4?_eq_some_iff, readV6?_eq_some_iff hSlash,
    Address.readV4?_eq_some_iff, Address.readV6?_eq_some_iff hSlash]
  constructor
  · rintro (⟨⟨-, h⟩, hLength⟩ | ⟨-, ⟨-, h⟩, hLength⟩)
    · exact ⟨h, hLength⟩
    · exact ⟨h, hLength⟩
  · rintro ⟨h, hLength⟩
    cases hFamily : network.address.family with
    | v4 => exact .inl ⟨⟨rfl, h⟩, hLength⟩
    | v6 =>
        refine .inr ⟨?_, ⟨rfl, h⟩, hLength⟩
        rw [readV4?, Address.readV4?_eq_none_of_isSpelled hFamily h]
        rfl

theorem slash_notMem_of_isLength {family : Family} {length : Nat} (h : IsLength family length cs) :
    '/' ∉ cs := by
  cases h with
  | bits _ hNumeral =>
      intro hIn
      have hDigits := (isNumeral_ten_iff.mp hNumeral).2.1
      rw [List.all_eq_true] at hDigits
      exact absurd (hDigits _ hIn) (by decide)
  | fixed => exact notMem_dottedText (by decide) (by decide) _
  | free => exact notMem_dottedText (by decide) (by decide) _

/-- **Networks are read from their spellings and from nothing else.** -/
theorem readLoose?_eq_some_iff {s : String} :
    readLoose? s = some network ↔ network.IsSpelled s.toList := by
  constructor
  · intro h
    rw [readLoose?] at h
    split at h
    case h_1 address hSplit =>
      obtain ⟨rfl, hSlash⟩ := splitAt_eq_singleton_iff.mp hSplit
      obtain ⟨hAddress, hLength⟩ := (read_or_eq_some_iff hSlash).mp h
      exact .alone hAddress hLength
    case h_2 address length hSplit =>
      obtain ⟨rest, hSpelled, hSlash, hRest⟩ :=
        exists_of_splitAt_eq_cons (List.cons_ne_nil _ _) hSplit
      obtain ⟨rfl, -⟩ := splitAt_eq_singleton_iff.mp hRest
      obtain ⟨hAddress, hLength⟩ := (read_or_eq_some_iff hSlash).mp h
      rw [hSpelled]
      exact .withLength hAddress hLength
    case h_3 => cases h
  · intro h
    rw [readLoose?]
    generalize s.toList = cs at h
    cases h with
    | alone hAddress hAll =>
        rw [splitAt_of_notMem hAddress.slash_notMem]
        exact (read_or_eq_some_iff hAddress.slash_notMem).mpr ⟨hAddress, hAll⟩
    | withLength hAddress hLength =>
        rw [splitAt_append_sep, splitAt_of_notMem hAddress.slash_notMem,
          splitAt_of_notMem (slash_notMem_of_isLength hLength)]
        exact (read_or_eq_some_iff hAddress.slash_notMem).mpr ⟨hAddress, hLength⟩

end Network

end Tailnet
