import Tailnet.Port
import Tailnet.Proofs.Success
import Tailnet.Proofs.Text.Cut
import Tailnet.Proofs.Text.Trim

/-!
Port specifications that are read without an error. They are written in digits, hyphens, commas and
white space, or as an asterisk, so they hold no colon.
-/

namespace Tailnet

open Text

theorem all_isDigit_of_readPort {cs : List Char} {port : Port} (h : readPort cs = .ok port) :
    ∀ c ∈ cs, isDigit c = true := by
  unfold readPort at h
  split at h
  case isTrue => cases h
  case isFalse hDigits =>
    simp only [Bool.or_eq_true, Bool.not_eq_true', not_or, Bool.not_eq_false,
      List.all_eq_true] at hDigits
    exact hDigits.2

/-- An entry of a port list is a port, or two with a hyphen between them. -/
theorem PortRange.isDigit_or_hyphen_of_read {specification entry : List Char} {range : PortRange}
    (h : PortRange.read specification entry = .ok range) :
    ∀ c ∈ entry, isDigit c = true ∨ c = '-' := by
  unfold PortRange.read at h
  split at h
  case isTrue => cases h
  case isFalse =>
    split at h
    case h_1 =>
      cases hPort : readPort entry with
      | error cause =>
          rw [hPort] at h
          cases h
      | ok port =>
          intro c hc
          exact .inl (all_isDigit_of_readPort hPort c hc)
    case h_2 before after hCut =>
      obtain ⟨rfl, -⟩ := cutFirst?_eq_some_iff.mp hCut
      obtain ⟨first, hFirst, hRest⟩ := bind_eq_ok_iff.mp h
      obtain ⟨last, hLast, -⟩ := bind_eq_ok_iff.mp hRest
      intro c hc
      rcases List.mem_append.mp hc with hc | hc
      · exact .inl (all_isDigit_of_readPort hFirst c hc)
      · rcases List.mem_cons.mp hc with rfl | hc
        · exact .inr rfl
        · exact .inl (all_isDigit_of_readPort hLast c hc)

namespace PortSet

/-- White space behind a port specification does not count. -/
theorem read_rdropWhile (cs : List Char) :
    PortSet.read (String.ofList (cs.rdropWhile isBlank)) = PortSet.read (String.ofList cs) := by
  simp only [PortSet.read, String.toList_ofList, trimChars_rdropWhile]

/-- Every visible character of a port specification is a digit or one of three marks. -/
theorem isDigit_or_mark_of_read {s : String} {ports : PortSet} (h : PortSet.read s = .ok ports)
    {c : Char} (hc : c ∈ s.toList) (hVisible : isBlank c = false) :
    isDigit c = true ∨ c ∈ ['*', ',', '-'] := by
  have hKept := mem_trimChars hc hVisible
  unfold PortSet.read at h
  dsimp only at h
  split at h
  case isTrue hAll =>
    rw [beq_iff_eq.mp hAll, List.mem_singleton] at hKept
    exact .inr (by simp [hKept])
  case isFalse =>
    split at h
    case isTrue => cases h
    case isFalse =>
      by_cases hComma : c = ','
      · exact .inr (by simp [hComma])
      · obtain ⟨part, hPart, hIn⟩ := exists_mem_splitAt hKept hComma
        cases hRead : (splitAt ',' (trimChars s.toList)).mapM fun entry =>
            PortRange.read (trimChars s.toList) (trimChars entry) with
        | error cause =>
            rw [hRead] at h
            cases h
        | ok ranges =>
            obtain ⟨range, -, hRange⟩ := exists_mem_of_mapM hRead hPart
            rcases PortRange.isDigit_or_hyphen_of_read hRange c (mem_trimChars hIn hVisible) with
              hDigit | rfl
            · exact .inl hDigit
            · exact .inr (by simp)

theorem colon_notMem_of_read {s : String} {ports : PortSet} (h : PortSet.read s = .ok ports) :
    ':' ∉ s.toList := by
  intro hColon
  exact absurd (isDigit_or_mark_of_read h hColon (by decide)) (by decide)

end PortSet

end Tailnet
