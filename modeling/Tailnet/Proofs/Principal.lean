import Tailnet.Principal.Destination
import Tailnet.Proofs.Text.Cut
import Tailnet.Proofs.Text.Trim

/-!
Principals and their tokens. A principal keeps its token, so it can be read again from there, and
its kind and name are told from the mark at the token's beginning.
-/

namespace Tailnet

open Text

/-- The mark that tokens of a kind begin with, for the kinds that have one. -/
def PrincipalKind.mark? : PrincipalKind → Option String
  | autogroup => some autogroupMark
  | tag => some tagMark
  | group => some groupMark
  | _ => none

/-- The marks begin with different letters, so no token has two of them. -/
theorem PrincipalKind.eq_of_mark?_append_eq {kind other : PrincipalKind} {mark another a b : String}
    (hMark : kind.mark? = some mark) (hAnother : other.mark? = some another)
    (hEq : mark ++ a = another ++ b) : kind = other := by
  have hHead := congrArg (fun s => s.toList.head?) hEq
  cases kind <;> cases hMark <;> cases other <;> cases hAnother <;>
    first | rfl | (simp [autogroupMark, tagMark, groupMark] at hHead)

namespace Principal

@[simp] theorem raw_ofToken (token : String) : (ofToken token).raw = token := by
  unfold ofToken
  repeat' split
  all_goals rfl

@[simp] theorem raw_read (token : String) : (read token).raw = trim token :=
  raw_ofToken (trim token)

/-- White space around a token does not count. -/
@[simp] theorem read_trim (token : String) : read (trim token) = read token := by
  rw [read, trim_trim, read]

theorem read_of_trimmed {token : String} (h : trim token = token) :
    read token = ofToken token := by
  rw [read, h]

/-- A token with a mark is of the mark's kind and has the rest as its name; any other token is its
own name. -/
theorem ofToken_cases (token : String) :
    (∃ mark, (ofToken token).kind.mark? = some mark ∧ token = mark ++ (ofToken token).name) ∨
    (ofToken token).kind.mark? = none ∧ (ofToken token).name = token ∧
      ∀ mark ∈ [autogroupMark, tagMark, groupMark], startsWith mark token = false := by
  have hSpecial : ∀ marker ∈ "*" :: specialMarkers,
      ∀ mark ∈ [autogroupMark, tagMark, groupMark], startsWith mark marker = false := by decide
  unfold ofToken
  split
  case isTrue h =>
    subst h
    exact .inr ⟨rfl, rfl, hSpecial _ (by simp)⟩
  split
  case isTrue h => exact .inr ⟨rfl, rfl, hSpecial _ (List.mem_cons_of_mem _ h)⟩
  split
  case h_1 name h => exact .inl ⟨_, rfl, afterStart?_eq_some_iff.mp h⟩
  case h_2 hAuto =>
  split
  case h_1 name h => exact .inl ⟨_, rfl, afterStart?_eq_some_iff.mp h⟩
  case h_2 hTag =>
  split
  case h_1 name h => exact .inl ⟨_, rfl, afterStart?_eq_some_iff.mp h⟩
  case h_2 hGroup =>
  -- No mark was found, so the token is its own name, whatever it looks like.
  have hMarks : ∀ mark ∈ [autogroupMark, tagMark, groupMark], startsWith mark token = false := by
    simpa using ⟨afterStart?_eq_none_iff.mp hAuto, afterStart?_eq_none_iff.mp hTag,
      afterStart?_eq_none_iff.mp hGroup⟩
  split
  · exact .inr ⟨rfl, rfl, hMarks⟩
  split
  · exact .inr ⟨rfl, rfl, hMarks⟩
  · exact .inr ⟨rfl, rfl, hMarks⟩

/-- A token is of a marked kind exactly if it begins with the mark. -/
theorem kind_ofToken_eq_iff {token mark : String} {kind : PrincipalKind}
    (hMark : kind.mark? = some mark) :
    (ofToken token).kind = kind ↔ startsWith mark token = true := by
  rcases ofToken_cases token with ⟨found, hFound, hToken⟩ | ⟨hNone, -, hMarks⟩
  · constructor
    · rintro rfl
      rw [hMark, Option.some_inj] at hFound
      exact startsWith_iff.mpr ⟨_, hFound ▸ hToken⟩
    · intro hStarts
      obtain ⟨rest, hRest⟩ := startsWith_iff.mp hStarts
      exact PrincipalKind.eq_of_mark?_append_eq hFound hMark (hToken.symm.trans hRest)
  · have hListed : mark ∈ [autogroupMark, tagMark, groupMark] := by
      cases kind <;> cases hMark <;> simp
    rw [hMarks mark hListed]
    constructor
    · rintro rfl
      rw [hMark] at hNone
      cases hNone
    · intro hFalse
      cases hFalse

/-- The token of a marked kind is the mark and the name. -/
theorem eq_mark_append_name {token mark : String}
    (hMark : (ofToken token).kind.mark? = some mark) : token = mark ++ (ofToken token).name := by
  rcases ofToken_cases token with ⟨found, hFound, hToken⟩ | ⟨hNone, -⟩
  · rw [hMark, Option.some_inj] at hFound
    rw [hFound]
    exact hToken
  · rw [hMark] at hNone
    cases hNone

/-- A mark before a name makes a token of the mark's kind. -/
theorem ofToken_mark_append {kind : PrincipalKind} {mark : String} (hMark : kind.mark? = some mark)
    (name : String) : ofToken (mark ++ name) = ⟨kind, name, mark ++ name⟩ := by
  have hKind : (ofToken (mark ++ name)).kind = kind :=
    (kind_ofToken_eq_iff hMark).mpr (startsWith_iff.mpr ⟨name, rfl⟩)
  have hToken := eq_mark_append_name (hKind.symm ▸ hMark)
  have hName : (ofToken (mark ++ name)).name = name := append_right_injective mark hToken.symm
  have hRaw : (ofToken (mark ++ name)).raw = mark ++ name := raw_ofToken (mark ++ name)
  generalize ofToken (mark ++ name) = p at hKind hName hRaw
  cases p
  simp only at hKind hName hRaw
  rw [hKind, hName, hRaw]

theorem name_ofToken_of_mark?_eq_none {token : String}
    (hNone : (ofToken token).kind.mark? = none) : (ofToken token).name = token := by
  rcases ofToken_cases token with ⟨mark, hMark, -⟩ | ⟨-, hName, -⟩
  · rw [hMark] at hNone
    cases hNone
  · exact hName

end Principal

namespace Destination

@[simp] theorem raw_read (token : String) : (read token).raw = trim token := by
  unfold read
  dsimp only
  split
  · split <;> rfl
  · rfl

/-- White space around a token does not count. -/
@[simp] theorem read_trim (token : String) : read (trim token) = read token := by
  rw [read, trim_trim, read]

/-- The target of a destination was itself read from a token. -/
theorem exists_target_eq_read (token : String) : ∃ s, (read token).target = Principal.read s := by
  unfold read
  dsimp only
  split
  case h_1 head ports _ =>
    split
    · refine ⟨trim token, ?_⟩
      dsimp only
    · refine ⟨String.ofList (unbracketed head), ?_⟩
      dsimp only
  case h_2 =>
    refine ⟨trim token, ?_⟩
    dsimp only

end Destination

end Tailnet
