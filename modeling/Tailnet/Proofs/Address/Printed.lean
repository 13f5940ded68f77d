import Tailnet.Proofs.Address.Groups
import Tailnet.Proofs.Text.Digit

/-!
Printed addresses. Four octets with points between them and eight groups, with or without a gap, are
taken apart into the numbers that they were printed from.
-/

namespace Tailnet

open Text

/-- Decimal digits stand between the slash and the colon. -/
theorem digit_bounds {n : Nat} {c : Char} (h : c ∈ Nat.toDigits 10 n) :
    0x30 ≤ c.toNat ∧ c.toNat ≤ 0x39 := by
  have hDigit := isDigit_of_mem_toDigits h
  simp only [Json.isDigit, Bool.and_eq_true, decide_eq_true_eq, Char.le_def,
    UInt32.le_iff_toNat_le] at hDigit
  exact hDigit

section Dotted

theorem dottedText_eq_joinWith (number : Nat) :
    dottedText number = joinWith (String.singleton '.')
      [toString (number / Nat.pow 2 24 % 256), toString (number / Nat.pow 2 16 % 256),
        toString (number / Nat.pow 2 8 % 256), toString (number % 256)] := by
  rw [show String.singleton '.' = "." from rfl]
  simp only [dottedText, joinWith, String.append_assoc]

theorem dottedText_bounds {number : Nat} {c : Char} (h : c ∈ (dottedText number).toList) :
    0x30 ≤ c.toNat ∧ c.toNat ≤ 0x39 ∨ c = '.' := by
  rw [dottedText_eq_joinWith] at h
  rcases mem_toList_joinWith h with hPoint | ⟨part, hPart, hIn⟩
  · exact .inr (by simpa using hPoint)
  · left
    simp only [List.mem_cons, List.not_mem_nil, or_false] at hPart
    rcases hPart with rfl | rfl | rfl | rfl
    all_goals
      rw [toList_toString] at hIn
      exact digit_bounds hIn

/-- Four octets with points between them are read back. -/
theorem dotted?_dottedText {number : Nat} (h : number < Nat.pow 2 32) :
    dotted? (dottedText number).toList = some number := by
  have hPoint (n : Nat) : '.' ∉ Nat.toDigits 10 n := by
    intro hIn
    have hBounds := digit_bounds hIn
    revert hBounds
    decide
  have hOctet (n : Nat) : octet? (Nat.toDigits 10 (n % 256)) = some (n % 256) :=
    octet?_toDigits (Nat.mod_lt n (by decide))
  have hValue : ((number / Nat.pow 2 24 % 256 * 256 + number / Nat.pow 2 16 % 256) * 256 +
      number / Nat.pow 2 8 % 256) * 256 + number % 256 = number := by
    change number < 4294967296 at h
    change ((number / 16777216 % 256 * 256 + number / 65536 % 256) * 256 +
      number / 256 % 256) * 256 + number % 256 = number
    omega
  unfold dotted?
  rw [dottedText_eq_joinWith, splitAt_joinWith '.' (List.cons_ne_nil _ _) (by simp [hPoint])]
  simp only [List.map_cons, List.map_nil, toList_toString, List.mapM_cons, List.mapM_nil, hOctet]
  exact congrArg some hValue

end Dotted

section Colons

/-- The number of eight groups is the number they were taken from. -/
theorem ofGroups_groupsOf {number : Nat} (h : number < Nat.pow 2 128) :
    ofGroups (groupsOf number) = number := by
  have hStep (k : Nat) : 65536 * (number / 2 ^ (16 * (k + 1))) + number / 2 ^ (16 * k) % 65536 =
      number / 2 ^ (16 * k) := by
    have hNext : number / 2 ^ (16 * (k + 1)) = number / 2 ^ (16 * k) / 65536 := by
      rw [Nat.div_div_eq_div_mul, Nat.mul_add, Nat.pow_add]
    rw [hNext]
    exact Nat.div_add_mod _ _
  have hFirst : number / 2 ^ (16 * 8) = 0 := Nat.div_eq_of_lt h
  have hFold (k : Nat) (hk : k ≤ 8) :
      ((List.range k).map fun i => number / Nat.pow 2 (16 * (7 - i)) % 65536).foldl
        (fun n g => 65536 * n + g) 0 = number / 2 ^ (16 * (8 - k)) := by
    induction k with
    | zero => exact hFirst.symm
    | succ k ih =>
        have hIndex : 8 - k = 7 - k + 1 := by omega
        have hLast : 8 - (k + 1) = 7 - k := by omega
        rw [List.range_succ, List.map_append, List.foldl_append, ih (by omega), hIndex, hLast]
        exact hStep (7 - k)
  rw [ofGroups, groupsOf, hFold 8 (Nat.le_refl 8)]
  simp

theorem groupsOf_lt {number g : Nat} (h : g ∈ groupsOf number) : g < 65536 := by
  obtain ⟨i, -, rfl⟩ := List.mem_map.mp h
  exact Nat.mod_lt _ (by decide)

theorem length_groupsOf (number : Nat) : (groupsOf number).length = 8 := by
  simp [groupsOf]

/-- Without a point there is nothing but groups between the colons. -/
theorem colonParts?_eq_some {cs : List Char} (hPoint : '.' ∉ cs)
    (hLength : 3 ≤ (splitAt ':' cs).length) : colonParts? cs = some (splitAt ':' cs) := by
  have hLast := List.getLast?_eq_getLast_of_ne_nil (splitAt_ne_nil ':' cs)
  have hNoPoint : ((splitAt ':' cs).getLast (splitAt_ne_nil ':' cs)).contains '.' = false := by
    rw [← Bool.not_eq_true, List.contains_iff_mem]
    exact fun hIn => hPoint (mem_of_mem_splitAt (List.getLast_mem _) hIn)
  unfold colonParts?
  simp only [hLast, hNoPoint]
  rw [if_neg (by omega), if_neg Bool.false_ne_true]

section Split

variable {groups : List Nat} {start size : Nat}

/-- A gap stands as an empty part between the groups on its sides. -/
theorem splitAt_groupsText_of_gap (hBest : longestZeros groups = (start, size))
    (hGap : 1 < size) :
    splitAt ':' (groupsText groups).toList =
      sideParts (groups.take start) ++ [] :: sideParts (groups.drop (start + size)) := by
  have hText : groupsText groups =
      colonText (groups.take start) ++ "::" ++ colonText (groups.drop (start + size)) := by
    simp only [groupsText, hBest, if_pos hGap]
  rw [hText, String.toList_append, String.toList_append, List.append_assoc,
    show "::".toList = [':', ':'] from rfl, List.cons_append, List.cons_append,
    List.nil_append, splitAt_append_sep, splitAt_colonText, splitAt_cons_sep, splitAt_colonText]

theorem splitAt_groupsText_of_noGap (hBest : longestZeros groups = (start, size))
    (hGap : ¬ 1 < size) (hNe : groups ≠ []) :
    splitAt ':' (groupsText groups).toList = groups.map (Nat.toDigits 16) := by
  have hText : groupsText groups = colonText groups := by
    simp only [groupsText, hBest, if_neg hGap]
  rw [hText, splitAt_colonText, sideParts, if_neg hNe]

end Split

/-- Eight groups are read back from their compressed text. -/
theorem groups?_groupsText {groups : List Nat} (hLength : groups.length = 8)
    (h : ∀ g ∈ groups, g < 65536) :
    (colonParts? (groupsText groups).toList).bind groups? = some groups := by
  have hPoint : '.' ∉ (groupsText groups).toList := by
    intro hIn
    have hBounds := groupsText_bounds hIn
    revert hBounds
    decide
  have hRun := longestZeros_le groups
  generalize hBest : longestZeros groups = best at hRun
  obtain ⟨start, size⟩ := best
  by_cases hGap : 1 < size
  · have hSplit := splitAt_groupsText_of_gap hBest hGap
    have hAll := take_append_zeros_append_drop hRun
    have hCount := congrArg List.length hAll
    simp only [List.length_append, List.length_replicate, hLength] at hCount
    have hFront := List.length_pos_iff.mpr (sideParts_ne_nil (groups.take start))
    have hBack := List.length_pos_iff.mpr (sideParts_ne_nil (groups.drop (start + size)))
    have hSize : 8 - ((groups.take start).length + (groups.drop (start + size)).length) = size := by
      omega
    rw [colonParts?_eq_some hPoint, hSplit, Option.bind_some, groups?_gap, hSize, hAll]
    · exact fun g hg => h g (List.mem_of_mem_take hg)
    · exact fun g hg => h g (List.mem_of_mem_drop hg)
    · omega
    · rw [hSplit, List.length_append, List.length_cons]
      omega
  · have hNe : groups ≠ [] := by
      rintro rfl
      cases hLength
    have hSplit := splitAt_groupsText_of_noGap hBest hGap hNe
    rw [colonParts?_eq_some hPoint, hSplit, Option.bind_some, groups?_map_toDigits hLength h]
    rw [hSplit, List.length_map, hLength]
    decide

end Colons

namespace Address

theorem colon_mem_of_colonParts? {cs : List Char} {parts : List (List Char)}
    (h : colonParts? cs = some parts) : ':' ∈ cs := by
  by_contra hNotIn
  simp [colonParts?, splitAt_of_notMem hNotIn] at h

theorem colon_mem_groupsText (number : Nat) : ':' ∈ (groupsText (groupsOf number)).toList := by
  have hGroups := groups?_groupsText (length_groupsOf number) fun _ => groupsOf_lt
  obtain ⟨parts, hParts, -⟩ := Option.bind_eq_some_iff.mp hGroups
  exact colon_mem_of_colonParts? hParts

end Address

end Tailnet
