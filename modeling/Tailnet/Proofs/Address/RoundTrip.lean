import Tailnet.Proofs.Address.Grammar
import Tailnet.Proofs.Success
import Tailnet.Proofs.Text.Trim

/-!
Networks and their canonical texts. The text of an address or network that has been read is one of
its spellings, so it is the text of no other: it is read as the same network again.
-/

namespace Tailnet

open Text

namespace Address

/-- What has a spelling is spelled by its text. -/
theorem IsSpelled.text {address : Address} {cs : List Char} (h : address.IsSpelled cs) :
    address.IsSpelled address.text.toList := by
  obtain ⟨family, number, zone, hNumber⟩ := address
  cases family with
  | v4 => exact ⟨h.1, rfl⟩
  | v6 =>
      obtain ⟨body, -, hZone⟩ := h
      have hGroups := groups?_groupsText (length_groupsOf number) fun _ => groupsOf_lt
      refine ⟨(groupsText (groupsOf number)).toList, isColons_iff.mpr hGroups, ?_⟩
      cases zone with
      | none => rfl
      | some zone => exact ⟨by simp [Address.text], hZone.2⟩

/-- The first character of an address is visible. -/
theorem head?_text (address : Address) :
    ∃ c, address.text.toList.head? = some c ∧ 0x21 ≤ c.toNat ∧ c.toNat ≤ 0x7E := by
  obtain ⟨family, number, zone, hNumber⟩ := address
  cases family with
  | v4 =>
      have hNe : (dottedText number).toList ≠ [] := by simp [dottedText]
      refine ⟨_, List.head?_eq_some_head hNe, ?_⟩
      rcases dottedText_bounds (List.head_mem hNe) with hDigit | hPoint
      · omega
      · rw [hPoint]
        decide
  | v6 =>
      have hNe := List.ne_nil_of_mem (colon_mem_groupsText number)
      have hBounds := groupsText_bounds (List.head_mem hNe)
      refine ⟨(groupsText (groupsOf number)).toList.head hNe, ?_, by omega⟩
      cases zone with
      | none => exact List.head?_eq_some_head hNe
      | some zone =>
          simp only [text, String.toList_append, List.append_assoc]
          rw [List.head?_append_of_ne_nil _ hNe]
          exact List.head?_eq_some_head hNe

end Address

namespace Network

theorem toList_text (network : Network) : network.text.toList =
    network.address.text.toList ++ '/' :: Nat.toDigits 10 network.length := by
  simp [text]

theorem width_le (family : Family) : family.width ≤ 128 := by
  cases family <;> decide

/-- What has a spelling is spelled by its text, in which the length is the number of its bits. -/
theorem IsSpelled.text {network : Network} {cs : List Char} (h : network.IsSpelled cs) :
    network.IsSpelled network.text.toList := by
  have hSmall : network.length ≤ 128 :=
    Nat.le_trans network.length_le (width_le network.address.family)
  have hDigits : (Nat.toDigits 10 network.length).length ≤ 3 :=
    (Nat.length_toDigits_le_iff (by decide) (by decide)).mpr (by omega)
  have hLength :
      IsLength network.address.family network.length (Nat.toDigits 10 network.length) :=
    .bits (Nat.le_trans hDigits (by decide)) ⟨0, rfl⟩
  rw [toList_text]
  cases h with
  | alone hAddress => exact .withLength hAddress.text hLength
  | withLength hAddress => exact .withLength hAddress.text hLength

theorem read_eq_ok_iff {s : String} {network : Network} :
    read s = .ok network ↔ readLoose? s = some network ∧ network.isCanonical = true := by
  unfold read
  cases readLoose? s with
  | none => simp
  | some found =>
      dsimp only
      split
      case isTrue h =>
        constructor
        · intro hOk
          cases hOk
          exact ⟨rfl, h⟩
        · rintro ⟨hSome, -⟩
          cases hSome
          rfl
      case isFalse h =>
        constructor
        · intro hOk
          cases hOk
        · rintro ⟨hSome, hCanonical⟩
          cases hSome
          exact absurd hCanonical h

/-- The canonical text of a network that was read is read as the same network. -/
theorem read_text_of_read {s : String} {network : Network} (h : read s = .ok network) :
    read network.text = .ok network := by
  obtain ⟨hRead, hCanonical⟩ := read_eq_ok_iff.mp h
  have hSpelled := (readLoose?_eq_some_iff.mp hRead).text
  exact read_eq_ok_iff.mpr ⟨readLoose?_eq_some_iff.mpr hSpelled, hCanonical⟩

/-- No white space stands around the text of a network. -/
theorem trim_text (network : Network) : trim network.text = network.text := by
  obtain ⟨c, hHead, hLow, hHigh⟩ := Address.head?_text network.address
  have hFront : network.address.text.toList ≠ [] := by
    intro hEmpty
    rw [hEmpty] at hHead
    cases hHead
  rw [trim_eq_self_iff, toList_text]
  apply isTrimmed_append hFront (List.cons_ne_nil _ _)
  · intro d hd
    rw [hHead, Option.mem_some_iff] at hd
    rw [← hd]
    exact isBlank_eq_false_of_visible hLow hHigh
  · intro d hd
    rw [List.getLast?_cons_of_ne_nil Nat.toDigits_ne_nil] at hd
    have hBounds := digit_bounds (List.mem_of_mem_getLast? hd)
    exact isBlank_eq_false_of_visible (by omega) (by omega)

end Network

end Tailnet
