import Tailnet.Proofs.Success
import Tailnet.Proofs.Terminal.Style
import Tailnet.Proofs.Text.Cut
import Tailnet.Proofs.Text.Trim
import Tailnet.Terminal.Page

/-!
Texts with markup that can be shown. Only the marks in a text keep it from that. A text without
marks between a mark and its end adds none, though with backslashes at its end it may take the end
away.
-/

namespace Tailnet.Terminal

/-- Whether a text with markup can be shown. -/
def Legible (text : String) : Prop := ∃ visible, shown text = .ok visible

/-- The insides of the marks among pieces. -/
def marks : List Piece → List (List Char)
  | [] => []
  | .shown _ :: rest => marks rest
  | .mark inside :: rest => inside :: marks rest

/-- Whether no opening bracket stands before a character with which a mark begins. -/
def unmarked : List Char → Bool
  | '[' :: c :: rest => !startsMark c && unmarked (c :: rest)
  | _ :: rest => unmarked rest
  | [] => true

section Showing

attribute [local simp] shownIn

variable {styles : List Opened} {ps : List Piece}

theorem exists_shownIn_shown_iff (styles : List Opened) (cs : List Char) (rest : List Piece) :
    (∃ visible, shownIn styles (.shown cs :: rest) = .ok visible) ↔
      ∃ visible, shownIn styles rest = .ok visible := by
  rw [shownIn, exists_bind_eq_ok_iff]
  simp only [pure_eq_ok_iff, exists_eq', and_true]

/-- Without marks nothing but the styles that were begun can keep pieces from being shown. -/
theorem exists_shownIn_of_marks_nil (hStyles : styles.forM Opened.checkStyle = .ok ())
    (h : marks ps = []) : ∃ cs, shownIn styles ps = .ok cs := by
  induction ps with
  | nil => exact ⟨[], by simp [hStyles]⟩
  | cons p rest ih =>
      cases p with
      | shown cs => exact (exists_shownIn_shown_iff styles cs rest).mpr (ih h)
      | mark inside => cases h

/-- What is shown before the first mark does not matter. -/
theorem exists_shownIn_of_marks_cons {inside : List Char} {others : List (List Char)}
    (h : marks ps = inside :: others)
    (hMark : ∀ rest, marks rest = others → ∃ cs, shownIn styles (.mark inside :: rest) = .ok cs) :
    ∃ cs, shownIn styles ps = .ok cs := by
  induction ps with
  | nil => cases h
  | cons p rest ih =>
      cases p with
      | shown cs => exact (exists_shownIn_shown_iff styles cs rest).mpr (ih h)
      | mark other =>
          obtain ⟨rfl, hRest⟩ := List.cons.inj h
          exact hMark rest hRest

variable {style : String}

theorem InUse.checkStyle (h : InUse style) : (⟨style, none⟩ : Opened).checkStyle = .ok () := by
  unfold Opened.checkStyle
  dsimp only
  split
  case h_1 cause hRead => exact absurd hRead (h.usable cause)
  case h_2 => rfl

theorem InUse.usualName_toList (h : InUse style) : usualName style.toList = .ok style := by
  rw [usualName, String.ofList_toList, h.usualName_eq]
  rfl

theorem InUse.forall_mem (h : InUse style) :
    ∀ c ∈ style.toList, c ≠ '[' ∧ c ≠ ']' ∧ c ≠ '=' := by
  have hMarkable := h.markable
  simp only [isMarkable, Bool.and_eq_true, List.all_eq_true, bne_iff_ne, and_assoc] at hMarkable
  exact hMarkable.2

/-- The first letter of a style is small, so that a mark may begin with it. -/
theorem InUse.exists_first (h : InUse style) :
    ∃ first rest, style.toList = first :: rest ∧ startsMark first = true ∧ first ≠ '/' := by
  have hMarkable := h.markable
  rw [isMarkable, Bool.and_eq_true] at hMarkable
  cases hChars : style.toList with
  | nil =>
      rw [hChars] at hMarkable
      cases hMarkable.1
  | cons first rest =>
      rw [hChars] at hMarkable
      have hLetter : ('a' ≤ first && first ≤ 'z') = true := hMarkable.1
      refine ⟨first, rest, rfl, by simp only [startsMark, hLetter, Bool.true_or], ?_⟩
      rintro rfl
      cases hLetter

/-- A mark begins a style. -/
theorem InUse.shownIn_begin (h : InUse style) (styles : List Opened) (rest : List Piece) :
    shownIn styles (.mark style.toList :: rest) = shownIn (⟨style, none⟩ :: styles) rest := by
  obtain ⟨first, others, hChars, -, hSlash⟩ := h.exists_first
  have hNoEnd : ∀ inside, style.toList = '/' :: inside → False := by
    rw [hChars]
    exact fun inside hEq => hSlash (List.cons.inj hEq).1
  have hCut : Text.cutFirst? '=' style.toList = none :=
    Text.cutFirst?_eq_none_iff.mpr fun hIn => (h.forall_mem '=' hIn).2.2 rfl
  rw [shownIn.eq_4 _ _ _ hNoEnd, hCut]
  dsimp only
  rw [h.usualName_toList, ok_bind]

/-- A mark ends the style that was begun last. -/
theorem InUse.shownIn_end (h : InUse style) (styles : List Opened) (rest : List Piece) :
    shownIn (⟨style, none⟩ :: styles) (.mark ('/' :: style.toList) :: rest) =
      shownIn styles rest := by
  have hTake : style.toList.takeWhile (· != '=') = style.toList := by
    rw [List.takeWhile_eq_self_iff]
    exact fun c hc => bne_iff_ne.mpr (h.forall_mem c hc).2.2
  have hNonempty : style.toList.isEmpty = false := by
    obtain ⟨first, others, hChars, -⟩ := h.exists_first
    rw [hChars]
    rfl
  have hEnd : endStyle (some style) (⟨style, none⟩ :: styles) = some (⟨style, none⟩, styles) := by
    simp [endStyle]
  rw [shownIn]
  simp only [hTake, h.trim_eq, hNonempty, h.usualName_toList, Except.map, ok_bind, hEnd]
  have hCheck : (⟨style, none⟩ : Opened).check = .ok () := rfl
  rw [if_neg Bool.false_ne_true, hCheck, ok_bind]
  simp only [h.checkStyle, ok_bind, ite_self, bind_pure]

/-- Nothing can be shown with the end of a style when none was begun. -/
theorem not_exists_shownIn_end (inside : List Char) (rest : List Piece) :
    ¬∃ visible, shownIn [] (.mark ('/' :: inside) :: rest) = .ok visible := by
  rintro ⟨visible, hShown⟩
  rw [shownIn] at hShown
  dsimp only at hShown
  split at hShown
  · cases hShown
  · obtain ⟨name, -, hEnd⟩ := bind_eq_ok_iff.mp hShown
    cases hEnd

end Showing

/-- The marks of a text behind some backslashes. A mark that stands there counts if the backslashes
are even in number. -/
def marksBehind (count fuel : Nat) : List Char → List (List Char)
  | '[' :: rest =>
    match mark? rest with
    | some (inside, rest) => (if count % 2 = 1 then [] else [inside]) ++ marks (pieces fuel rest)
    | none => marks (pieces fuel rest)
  | c :: rest => marks (pieces fuel (if count = 0 then rest else c :: rest))
  | [] => []

section Pieces

attribute [local simp] marksBehind unmarked

theorem marks_prepend (cs : List Char) (ps : List Piece) : marks (prepend cs ps) = marks ps := by
  cases ps with
  | nil => rfl
  | cons p rest => cases p <;> rfl

theorem takeWhile_slashes (count : Nat) (behind : List Char) (h : behind.head? ≠ some '\\') :
    (List.replicate count '\\' ++ behind).takeWhile (· == '\\') = List.replicate count '\\' := by
  rw [List.takeWhile_append_of_pos (by simp)]
  cases behind with
  | nil => simp
  | cons c rest => simp [show c ≠ '\\' from fun hEq => h (by rw [hEq]; rfl)]

variable (count fuel : Nat) {rest : List Char}

theorem marks_pieces_succ (behind : List Char) (h : behind.head? ≠ some '\\') :
    marks (pieces (fuel + 1) (List.replicate count '\\' ++ behind)) =
      marksBehind count fuel behind := by
  rw [pieces]
  simp only [takeWhile_slashes count behind h, List.drop_left]
  rw [List.length_replicate]
  split
  case h_1 rest =>
    rw [marksBehind]
    cases mark? rest with
    | some found => split_ifs <;> rfl
    | none => exact marks_prepend _ _
  case h_2 c rest hBracket =>
    simp only [marksBehind]
    cases count with
    | zero => exact marks_prepend _ _
    | succ count => exact marks_prepend _ _
  case h_3 => split_ifs <;> rfl

theorem marks_pieces_slashes : marks (pieces fuel (List.replicate count '\\')) = [] := by
  cases fuel with
  | zero =>
      change marks (if (List.replicate count '\\').isEmpty then [] else [.shown _]) = []
      split <;> rfl
  | succ fuel =>
      rw [← List.append_nil (List.replicate count '\\'), marks_pieces_succ count fuel [] nofun]
      rfl

theorem marks_pieces_mark {inside behind : List Char} (h : mark? rest = some (inside, behind)) :
    marks (pieces (fuel + 1) (List.replicate count '\\' ++ '[' :: rest)) =
      (if count % 2 = 1 then [] else [inside]) ++ marks (pieces fuel behind) := by
  simp [marks_pieces_succ count fuel ('[' :: rest) nofun, h]

theorem marks_pieces_bracket (h : mark? rest = none) :
    marks (pieces (fuel + 1) (List.replicate count '\\' ++ '[' :: rest)) =
      marks (pieces fuel rest) := by
  simp [marks_pieces_succ count fuel ('[' :: rest) nofun, h]

theorem marks_pieces_char {c : Char} (hBracket : c ≠ '[') (hSlash : c ≠ '\\') :
    marks (pieces (fuel + 1) (List.replicate count '\\' ++ c :: rest)) =
      marks (pieces fuel (if count = 0 then rest else c :: rest)) := by
  simp [marks_pieces_succ count fuel (c :: rest) fun h => hSlash (Option.some.inj h)]

/-- Where a text without marks may end: at its end or before a bracket. -/
inductive Breaks : List Char → Prop where
  | nil : Breaks []
  | bracket (rest : List Char) : Breaks ('[' :: rest)

theorem mark?_eq_none {text tail : List Char} (h : unmarked ('[' :: text) = true)
    (hTail : Breaks tail) : mark? (text ++ tail) = none := by
  cases text with
  | nil => cases hTail <;> rfl
  | cons c rest =>
      simp only [unmarked, Bool.and_eq_true, Bool.not_eq_true'] at h
      unfold mark?
      rw [List.cons_append, List.takeWhile_cons]
      by_cases hInside : (c != ']' && c != '[') = true
      · rw [if_pos hInside]
        dsimp only
        split
        case h_1 hTake _ =>
          obtain ⟨rfl, -⟩ := List.cons.inj hTake
          rw [h.1, if_neg Bool.false_ne_true]
        case h_2 => rfl
      · rw [if_neg hInside]

theorem unmarked_cons_of_ne {c : Char} (h : c ≠ '[') (rest : List Char) :
    unmarked (c :: rest) = unmarked rest := by
  simp [h]

theorem unmarked_of_cons {c : Char} {rest : List Char} (h : unmarked (c :: rest) = true) :
    unmarked rest = true := by
  unfold unmarked at h
  split at h
  case h_1 hEq =>
    obtain ⟨-, rfl⟩ := List.cons.inj hEq
    exact (Bool.and_eq_true _ _ ▸ h).2
  case h_2 hEq =>
    obtain ⟨-, rfl⟩ := List.cons.inj hEq
    exact h
  case h_3 hEq => cases hEq

theorem unmarked_of_append {front back : List Char} (h : unmarked (front ++ back) = true) :
    unmarked back = true := by
  induction front with
  | nil => exact h
  | cons c rest ih => exact ih (unmarked_of_cons h)

theorem exists_slashes (text : List Char) :
    ∃ count behind, text = List.replicate count '\\' ++ behind ∧ behind.head? ≠ some '\\' := by
  induction text with
  | nil => exact ⟨0, [], rfl, nofun⟩
  | cons c rest ih =>
      by_cases hSlash : c = '\\'
      · obtain ⟨count, behind, rfl, hBehind⟩ := ih
        exact ⟨count + 1, behind, by rw [hSlash]; rfl, hBehind⟩
      · exact ⟨0, c :: rest, rfl, fun h => hSlash (Option.some.inj h)⟩

/-- Of an unmarked text only the backslashes at its end are of importance to what follows. -/
theorem exists_marks_pieces_append {text tail : List Char} (fuel : Nat)
    (h : unmarked text = true) (hTail : Breaks tail) (hFuel : (text ++ tail).length ≤ fuel) :
    ∃ count more, (List.replicate count '\\' ++ tail).length ≤ more ∧
      marks (pieces fuel (text ++ tail)) =
        marks (pieces more (List.replicate count '\\' ++ tail)) := by
  induction fuel generalizing text with
  | zero =>
      obtain ⟨rfl, rfl⟩ : text = [] ∧ tail = [] := by
        rwa [Nat.le_zero, List.length_eq_zero_iff, List.append_eq_nil_iff] at hFuel
      exact ⟨0, 0, le_rfl, rfl⟩
  | succ fuel ih =>
      obtain ⟨count, behind, rfl, hBehind⟩ := exists_slashes text
      cases behind with
      | nil => exact ⟨count, fuel + 1, by simpa using hFuel, by rw [List.append_nil]⟩
      | cons c rest =>
          have hUnmarked := unmarked_of_append h
          have hRest := unmarked_of_cons hUnmarked
          rw [List.append_assoc, List.cons_append]
          simp only [List.length_append, List.length_replicate, List.length_cons] at hFuel
          by_cases hBracket : c = '['
          · subst hBracket
            rw [marks_pieces_bracket count fuel (mark?_eq_none hUnmarked hTail)]
            exact ih hRest (by rw [List.length_append]; omega)
          · have hSlash : c ≠ '\\' := fun hEq => hBehind (by rw [hEq]; rfl)
            rw [marks_pieces_char count fuel hBracket hSlash]
            by_cases hNone : count = 0
            · rw [if_pos hNone]
              exact ih hRest (by rw [List.length_append]; omega)
            · rw [if_neg hNone, ← List.cons_append]
              exact ih hUnmarked (by simp only [List.length_append, List.length_cons]; omega)

theorem marks_pieces_unmarked {text : List Char} (fuel : Nat) (h : unmarked text = true)
    (hFuel : text.length ≤ fuel) : marks (pieces fuel text) = [] := by
  obtain ⟨count, more, -, hMarks⟩ :=
    exists_marks_pieces_append fuel h .nil (by rwa [List.append_nil])
  rw [List.append_nil, List.append_nil] at hMarks
  rw [hMarks, marks_pieces_slashes]

/-- A mark behind an unmarked text counts, unless backslashes at the end of the text take it
away. -/
theorem exists_marks_pieces_mark {text rest inside behind : List Char} (fuel : Nat)
    (h : unmarked text = true) (hMark : mark? rest = some (inside, behind))
    (hFuel : (text ++ '[' :: rest).length ≤ fuel) :
    ∃ more, rest.length ≤ more ∧
      (marks (pieces fuel (text ++ '[' :: rest)) = marks (pieces more behind) ∨
        marks (pieces fuel (text ++ '[' :: rest)) = inside :: marks (pieces more behind)) := by
  obtain ⟨count, more, hMore, hMarks⟩ :=
    exists_marks_pieces_append fuel h (.bracket rest) hFuel
  rw [List.length_append, List.length_cons] at hMore
  obtain ⟨more, rfl⟩ : ∃ n, more = n + 1 := ⟨more - 1, by omega⟩
  refine ⟨more, by omega, ?_⟩
  rw [hMarks, marks_pieces_mark count more hMark]
  split_ifs
  · exact .inl rfl
  · exact .inr rfl

theorem marks_pieces_blanks (blanks : Nat) {rest : List Char} (fuel : Nat)
    (hFuel : (List.replicate blanks ' ' ++ rest).length ≤ fuel) :
    ∃ more, rest.length ≤ more ∧
      marks (pieces fuel (List.replicate blanks ' ' ++ rest)) = marks (pieces more rest) := by
  induction blanks generalizing fuel with
  | zero => exact ⟨fuel, hFuel, rfl⟩
  | succ blanks ih =>
      rw [List.replicate_succ, List.cons_append, List.length_cons] at hFuel
      obtain ⟨fuel, rfl⟩ : ∃ n, fuel = n + 1 := ⟨fuel - 1, by omega⟩
      obtain ⟨more, hMore, hMarks⟩ := ih fuel (by omega)
      refine ⟨more, hMore, Eq.trans ?_ hMarks⟩
      exact marks_pieces_char 0 fuel (c := ' ') (by decide) (by decide)

theorem mark?_append {first : Char} {others : List Char} (rest : List Char)
    (hFirst : startsMark first = true) (hInside : ∀ c ∈ first :: others, c ≠ '[' ∧ c ≠ ']') :
    mark? (first :: others ++ ']' :: rest) = some (first :: others, rest) := by
  have hTake : (first :: others ++ ']' :: rest).takeWhile (fun c => c != ']' && c != '[') =
      first :: others := by
    rw [List.takeWhile_append_of_pos]
    · simp
    · intro c hc
      obtain ⟨hOpen, hClose⟩ := hInside c hc
      rw [Bool.and_eq_true]
      exact ⟨bne_iff_ne.mpr hClose, bne_iff_ne.mpr hOpen⟩
  unfold mark?
  simp only [hTake, List.drop_left, hFirst, if_true]

variable {style : String}

theorem InUse.mark?_begin (h : InUse style) (rest : List Char) :
    mark? (style.toList ++ ']' :: rest) = some (style.toList, rest) := by
  have hAll := h.forall_mem
  obtain ⟨first, others, hChars, hFirst, -⟩ := h.exists_first
  rw [hChars] at hAll ⊢
  exact mark?_append rest hFirst fun c hc => ⟨(hAll c hc).1, (hAll c hc).2.1⟩

theorem InUse.mark?_end (h : InUse style) (rest : List Char) :
    mark? ('/' :: style.toList ++ ']' :: rest) = some ('/' :: style.toList, rest) := by
  refine mark?_append rest rfl fun c hc => ?_
  rcases List.mem_cons.mp hc with rfl | hIn
  · decide
  · exact ⟨(h.forall_mem c hIn).1, (h.forall_mem c hIn).2.1⟩

end Pieces

/-- The characters of a text with a part in a style. -/
def styledChars (style inner : List Char) : List Char :=
  '[' :: (style ++ ']' :: (inner ++ '[' :: ('/' :: style ++ [']'])))

theorem toList_styled (style inner : String) :
    (styled style inner).toList = styledChars style.toList inner.toList := by
  simp [styled, styledChars]

/-- The marks of a part in a style: that which begins it, and that which ends it unless backslashes
take it away. -/
theorem InUse.exists_marks {style : String} (h : InUse style) (blanks fuel : Nat)
    {inner behind : List Char} (hInner : unmarked inner = true) (hBehind : unmarked behind = true)
    (hFuel : (List.replicate blanks ' ' ++
      (styledChars style.toList inner ++ behind)).length ≤ fuel) :
    ∃ ends, (ends = [] ∨ ends = ['/' :: style.toList]) ∧
      marks (pieces fuel (List.replicate blanks ' ' ++
        (styledChars style.toList inner ++ behind))) = style.toList :: ends := by
  obtain ⟨more, hMore, hBlanks⟩ := marks_pieces_blanks blanks fuel hFuel
  have hChars : styledChars style.toList inner ++ behind = '[' :: (style.toList ++ ']' ::
      (inner ++ '[' :: ('/' :: style.toList ++ ']' :: behind))) := by
    simp [styledChars]
  rw [hBlanks, hChars]
  rw [hChars, List.length_cons, List.length_append, List.length_cons] at hMore
  obtain ⟨more, rfl⟩ : ∃ n, more = n + 1 := ⟨more - 1, by omega⟩
  have hBegin := marks_pieces_mark 0 more (h.mark?_begin
    (inner ++ '[' :: ('/' :: style.toList ++ ']' :: behind)))
  obtain ⟨last, hLast, hEnd⟩ := exists_marks_pieces_mark more hInner (h.mark?_end behind)
    (by omega)
  rw [List.length_append, List.length_cons, List.length_cons] at hLast
  have hNone : marks (pieces last behind) = [] :=
    marks_pieces_unmarked last hBehind (by omega)
  rw [hNone] at hEnd
  exact ⟨_, hEnd, hBegin⟩

/-- A part in a style can be shown behind blanks and before a text without marks, if it has no marks
of its own. -/
theorem InUse.legible {style : String} (h : InUse style) {text : String} (blanks : Nat)
    {inner behind : List Char} (hInner : unmarked inner = true) (hBehind : unmarked behind = true)
    (hText : text.toList =
      List.replicate blanks ' ' ++ (styledChars style.toList inner ++ behind)) :
    Legible text := by
  obtain ⟨ends, hEnds, hMarks⟩ := h.exists_marks blanks text.toList.length hInner hBehind
    (by rw [← hText])
  rw [← hText] at hMarks
  have hBegun : [(⟨style, none⟩ : Opened)].forM Opened.checkStyle = .ok () := by
    change (Opened.checkStyle ⟨style, none⟩ >>= fun _ => .ok ()) = .ok ()
    rw [h.checkStyle, ok_bind]
  have hShown : ∃ cs, shownIn [] (pieces text.toList.length text.toList) = .ok cs := by
    refine exists_shownIn_of_marks_cons hMarks fun rest hRest => ?_
    rw [h.shownIn_begin]
    rcases hEnds with rfl | rfl
    · exact exists_shownIn_of_marks_nil hBegun hRest
    · refine exists_shownIn_of_marks_cons hRest fun others hOthers => ?_
      rw [h.shownIn_end]
      exact exists_shownIn_of_marks_nil rfl hOthers
  obtain ⟨cs, hShown⟩ := hShown
  exact ⟨_, by rw [shown, hShown]; rfl⟩

end Tailnet.Terminal
