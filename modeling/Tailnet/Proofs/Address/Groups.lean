import Mathlib.Data.List.GetD
import Mathlib.Data.List.Nodup
import Mathlib.Data.List.TakeWhile
import Tailnet.Proofs.Address.Numeral
import Tailnet.Proofs.Text.Cut

/-!
Addresses of the newer family as groups. The gap that is written for a run of zeros is filled again
with as many zeros when the text is read.
-/

namespace Tailnet

open Text

section Zeros

/-- What is said to be a run of zeros is one. -/
theorem longestZeros_le (groups : List Nat) :
    (longestZeros groups).2 ≤
      ((groups.drop (longestZeros groups).1).takeWhile (· == 0)).length := by
  let size (start : Nat) : Nat := ((groups.drop start).takeWhile (· == 0)).length
  have hFold (starts : List Nat) (best : Nat × Nat) (hBest : best.2 ≤ size best.1) :
      let last := starts.foldl
        (fun best start => if best.2 < size start then (start, size start) else best) best
      last.2 ≤ size last.1 := by
    induction starts generalizing best with
    | nil => exact hBest
    | cons start rest ih =>
        rw [List.foldl_cons]
        apply ih
        split
        · exact Nat.le_refl _
        · exact hBest
  exact hFold (List.range groups.length) (0, 0) (Nat.zero_le _)

theorem take_eq_replicate_zero {groups : List Nat} {size : Nat}
    (h : size ≤ (groups.takeWhile (· == 0)).length) :
    groups.take size = List.replicate size 0 := by
  have hPrefix : groups.take size = (groups.takeWhile (· == 0)).take size := by
    conv_lhs => rw [← List.takeWhile_append_dropWhile (p := (· == 0)) (l := groups)]
    exact List.take_append_of_le_length h
  rw [hPrefix, List.eq_replicate_iff]
  refine ⟨by rw [List.length_take, Nat.min_eq_left h], ?_⟩
  intro g hg
  simpa using List.mem_takeWhile_imp (List.mem_of_mem_take hg)

/-- The groups before the run, the run, and the groups behind it are all groups. -/
theorem take_append_zeros_append_drop {groups : List Nat} {start size : Nat}
    (h : size ≤ ((groups.drop start).takeWhile (· == 0)).length) :
    groups.take start ++ List.replicate size 0 ++ groups.drop (start + size) = groups := by
  rw [← take_eq_replicate_zero h, ← List.drop_drop, List.append_assoc, List.take_append_drop,
    List.take_append_drop]

end Zeros

section Sides

/-- The parts between colons of groups that stand on one side of a gap. -/
def sideParts (groups : List Nat) : List (List Char) :=
  if groups = [] then [[]] else groups.map (Nat.toDigits 16)

theorem sideParts_ne_nil (groups : List Nat) : sideParts groups ≠ [] := by
  unfold sideParts
  split
  · simp
  case isFalse h => simpa using h

theorem side?_sideParts {groups : List Nat} (h : ∀ g ∈ groups, g < 65536) :
    side? (sideParts groups) = some groups := by
  unfold side? sideParts
  cases groups with
  | nil => rfl
  | cons g rest =>
      have hNotGap : ((g :: rest).map (Nat.toDigits 16) == [[]]) = false := by
        simp [Nat.toDigits_ne_nil]
      rw [if_neg (List.cons_ne_nil g rest)]
      rw [hNotGap, if_neg Bool.false_ne_true, mapM_group?_toDigits h]

theorem colon_notMem_toDigits (g : Nat) : ':' ∉ Nat.toDigits 16 g := by
  intro hIn
  exact (hexDigit_bounds hIn).2.2 rfl

theorem splitAt_colonText (groups : List Nat) :
    splitAt ':' (colonText groups).toList = sideParts groups := by
  unfold colonText sideParts
  split
  case isTrue h =>
    subst h
    rfl
  case isFalse h =>
    have hNumerals : groups.map (fun g => String.ofList (Nat.toDigits 16 g)) ≠ [] := by
      simpa using h
    have hSplit := splitAt_joinWith ':' hNumerals
      (by simpa using fun g _ => colon_notMem_toDigits g)
    rw [show ":" = String.singleton ':' from rfl, hSplit]
    simp [Function.comp_def]

/-- The characters of groups between colons are digits, small letters and colons. -/
theorem colonText_bounds {groups : List Nat} {c : Char} (h : c ∈ (colonText groups).toList) :
    0x30 ≤ c.toNat ∧ c.toNat ≤ 0x66 := by
  rcases mem_toList_joinWith h with hColon | ⟨part, hPart, hIn⟩
  · obtain rfl : c = ':' := by simpa using hColon
    decide
  · obtain ⟨g, -, rfl⟩ := List.mem_map.mp hPart
    rw [String.toList_ofList] at hIn
    exact ⟨(hexDigit_bounds hIn).1, (hexDigit_bounds hIn).2.1⟩

theorem groupsText_bounds {groups : List Nat} {c : Char} (h : c ∈ (groupsText groups).toList) :
    0x30 ≤ c.toNat ∧ c.toNat ≤ 0x66 := by
  unfold groupsText at h
  dsimp only at h
  split at h
  · rw [String.toList_append, String.toList_append, List.mem_append, List.mem_append] at h
    rcases h with (hFront | hGap) | hBack
    · exact colonText_bounds hFront
    · obtain rfl : c = ':' := by simpa using hGap
      decide
    · exact colonText_bounds hBack
  · exact colonText_bounds h

end Sides

section Reading

variable {parts : List (List Char)} {groups : List Nat}

/-- Groups that are read are not empty. -/
theorem isEmpty_getD_of_mapM (h : parts.mapM group? = some groups) {i : Nat}
    (hi : i < parts.length) : (parts.getD i []).isEmpty = false := by
  rw [List.getD_eq_getElem _ _ hi, ← Bool.not_eq_true]
  intro hEmpty
  have hNone : group? parts[i] = none := by rw [group?, hEmpty, Bool.true_or, if_pos rfl]
  rw [mapM_eq_none_of_mem (List.getElem_mem hi) hNone] at h
  cases h

theorem side?_of_mapM (h : parts.mapM group? = some groups) : side? parts = some groups := by
  rw [side?, if_neg]
  · exact h
  · intro hAlone
    rw [beq_iff_eq.mp hAlone] at h
    cases h

/-- Only a part that stands alone may be empty. -/
theorem isEmpty_getD_of_side? (h : side? parts = some groups) {i : Nat} (hi : i < parts.length)
    (hMany : 1 < parts.length) : (parts.getD i []).isEmpty = false := by
  rw [side?] at h
  split at h
  case isTrue hAlone =>
    rw [beq_iff_eq.mp hAlone] at hMany
    simp at hMany
  case isFalse => exact isEmpty_getD_of_mapM h hi

/-- The positions of the empty parts that stand inside. -/
def innerGaps (parts : List (List Char)) : List Nat :=
  (List.range parts.length).filter fun i =>
    0 < i && i + 1 < parts.length && (parts.getD i []).isEmpty

theorem innerGaps_of_mapM (h : parts.mapM group? = some groups) : innerGaps parts = [] := by
  rw [innerGaps, List.filter_eq_nil_iff]
  intro i hi
  rw [isEmpty_getD_of_mapM h (List.mem_range.mp hi), Bool.and_false]
  exact Bool.false_ne_true

theorem filter_range_eq_singleton {n k : Nat} {p : Nat → Bool} (hk : k < n)
    (h : ∀ i < n, p i = true ↔ i = k) : (List.range n).filter p = [k] := by
  have hSame : (List.range n).filter p = (List.range n).filter (· == k) := by
    apply List.filter_congr
    intro i hi
    rw [Bool.eq_iff_iff, h i (List.mem_range.mp hi), beq_iff_eq]
  rw [hSame, List.filter_beq, List.count_eq_one_of_mem List.nodup_range (List.mem_range.mpr hk),
    List.replicate_one]

section Gap

variable {front back : List (List Char)} {before after : List Nat}

/-- The gap between two sides is the only empty part that stands inside. -/
theorem innerGaps_gap (hFront : front ≠ []) (hBack : back ≠ [])
    (hBefore : side? front = some before) (hAfter : side? back = some after) :
    innerGaps (front ++ [] :: back) = [front.length] := by
  have hFrontPos := List.length_pos_iff.mpr hFront
  have hBackPos := List.length_pos_iff.mpr hBack
  have hLength : (front ++ [] :: back).length = front.length + 1 + back.length := by
    simp only [List.length_append, List.length_cons]
    omega
  rw [innerGaps, hLength]
  apply filter_range_eq_singleton (by omega)
  intro i hi
  rw [List.getD_eq_getElem?_getD]
  rcases Nat.lt_trichotomy i front.length with hLeft | hGap | hRight
  · rw [List.getElem?_append_left hLeft, ← List.getD_eq_getElem?_getD]
    by_cases hZero : i = 0
    · subst hZero
      simp
      omega
    · rw [isEmpty_getD_of_side? hBefore hLeft (by omega)]
      simp
      omega
  · subst hGap
    simp
    omega
  · have hIndex : i - front.length = i - front.length - 1 + 1 := by omega
    rw [List.getElem?_append_right (by omega), hIndex, List.getElem?_cons_succ,
      ← List.getD_eq_getElem?_getD]
    by_cases hLast : i + 1 < front.length + 1 + back.length
    · rw [isEmpty_getD_of_side? hAfter (by omega) (by omega)]
      simp
      omega
    · simp [hLast]
      omega

/-- Groups on both sides of a gap are read with zeros between them. -/
theorem groups?_of_sides (hFront : front ≠ []) (hBack : back ≠ [])
    (hBefore : side? front = some before) (hAfter : side? back = some after)
    (hLength : before.length + after.length ≤ 7) :
    groups? (front ++ [] :: back) =
      some (before ++ List.replicate (8 - (before.length + after.length)) 0 ++ after) := by
  unfold groups?
  rw [← innerGaps, innerGaps_gap hFront hBack hBefore hAfter]
  have hTake : (front ++ [] :: back).take front.length = front := List.take_left
  have hDrop : (front ++ [] :: back).drop (front.length + 1) = back := by
    rw [List.drop_append]
    simp
  simp only [hTake, hDrop, hBefore, hAfter]
  exact if_pos hLength

end Gap

theorem groups?_of_mapM (hLength : parts.length = 8) (h : parts.mapM group? = some groups) :
    groups? parts = some groups := by
  unfold groups?
  rw [← innerGaps, innerGaps_of_mapM h]
  exact (if_pos hLength).trans h

/-- What is read is eight groups, or groups on both sides of one gap. -/
theorem groups?_eq_some_iff :
    groups? parts = some groups ↔
      parts.length = 8 ∧ parts.mapM group? = some groups ∨
        ∃ front back before after, parts = front ++ [] :: back ∧ front ≠ [] ∧ back ≠ [] ∧
          side? front = some before ∧ side? back = some after ∧
          before.length + after.length ≤ 7 ∧
          groups = before ++ List.replicate (8 - (before.length + after.length)) 0 ++ after := by
  constructor
  · intro h
    unfold groups? at h
    rw [← innerGaps] at h
    dsimp only at h
    split at h
    case h_1 =>
      rw [Option.ite_none_right_eq_some] at h
      exact .inl h
    case h_2 gap hGaps =>
      have hGap : gap ∈ innerGaps parts := hGaps ▸ List.mem_singleton_self gap
      simp only [innerGaps, List.mem_filter, List.mem_range, Bool.and_eq_true, decide_eq_true_eq,
        List.isEmpty_iff] at hGap
      obtain ⟨hRange, ⟨hPos, hInside⟩, hEmpty⟩ := hGap
      rw [List.getD_eq_getElem _ _ hRange] at hEmpty
      obtain ⟨before, hBefore, h⟩ := Option.bind_eq_some_iff.mp h
      obtain ⟨after, hAfter, h⟩ := Option.bind_eq_some_iff.mp h
      rw [Option.ite_none_right_eq_some] at h
      refine .inr ⟨parts.take gap, parts.drop (gap + 1), before, after, ?_, ?_, ?_, hBefore, hAfter,
        h.1, (Option.some_inj.mp h.2).symm⟩
      · rw [← hEmpty, ← List.drop_eq_getElem_cons hRange, List.take_append_drop]
      · rw [← List.length_pos_iff, List.length_take]
        omega
      · rw [← List.length_pos_iff, List.length_drop]
        omega
    case h_3 => cases h
  · rintro (⟨hLength, h⟩ | ⟨front, back, before, after, rfl, hFront, hBack, hBefore, hAfter,
      hLength, rfl⟩)
    · exact groups?_of_mapM hLength h
    · exact groups?_of_sides hFront hBack hBefore hAfter hLength

/-- Groups without a gap are read back. -/
theorem groups?_map_toDigits (hLength : groups.length = 8) (h : ∀ g ∈ groups, g < 65536) :
    groups? (groups.map (Nat.toDigits 16)) = some groups :=
  groups?_of_mapM (by rw [List.length_map, hLength]) (mapM_group?_toDigits h)

/-- Groups on both sides of a gap are read back. -/
theorem groups?_gap {before after : List Nat} (hBefore : ∀ g ∈ before, g < 65536)
    (hAfter : ∀ g ∈ after, g < 65536) (hLength : before.length + after.length ≤ 7) :
    groups? (sideParts before ++ [] :: sideParts after) =
      some (before ++ List.replicate (8 - (before.length + after.length)) 0 ++ after) :=
  groups?_of_sides (sideParts_ne_nil before) (sideParts_ne_nil after) (side?_sideParts hBefore)
    (side?_sideParts hAfter) hLength

end Reading

end Tailnet
