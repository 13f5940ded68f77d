import Tailnet.Proofs.Address.Numeral
import Tailnet.Proofs.Terminal.Markup
import Tailnet.Proofs.Text.Cut

/-!
Pages that can be shown: every line and title on them can. Those that commands put together can if
the texts of others on them have no marks.
-/

namespace Tailnet.Terminal

/-- Whether something can be printed. What is printed as it is always can. -/
def Print.IsLegible : Print → Prop
  | .line _ text => Legible text
  | .panel title => Legible (styled "bold" title)
  | .verbatim _ => True

theorem exists_print_iff (screen : Screen) (print : Print) :
    (∃ next, screen.print print = .ok next) ↔ print.IsLegible := by
  cases print with
  | line channel text =>
      simp only [Screen.print, exists_bind_eq_ok_iff, pure_eq_ok_iff, exists_eq', and_true]
      rfl
  | panel title =>
      have hTitle : styled "bold" title = "[bold]" ++ title ++ "[/bold]" := by
        simp [styled, ← String.toList_inj]
      simp only [Screen.print, exists_bind_eq_ok_iff, pure_eq_ok_iff, exists_eq', and_true]
      rw [Print.IsLegible, hTitle]
      rfl
  | verbatim text => exact iff_of_true ⟨_, rfl⟩ trivial

namespace Page

/-- Whether everything on a page can be printed. -/
def IsLegible (page : Page) : Prop := ∀ print ∈ page, print.IsLegible

/-- A page is shown exactly if everything on it can be printed. -/
theorem exists_render_iff (page : Page) :
    (∃ screen, page.render = .ok screen) ↔ page.IsLegible := by
  unfold render
  generalize (⟨"", ""⟩ : Screen) = screen
  induction page generalizing screen with
  | nil => exact iff_of_true ⟨screen, rfl⟩ (List.forall_mem_nil _)
  | cons print rest ih =>
      rw [List.foldlM_cons, exists_bind_eq_ok_iff, IsLegible, List.forall_mem_cons,
        ← exists_print_iff screen print]
      constructor
      · rintro ⟨next, hNext, hRest⟩
        exact ⟨⟨next, hNext⟩, (ih next).mp hRest⟩
      · rintro ⟨⟨next, hNext⟩, hRest⟩
        exact ⟨next, hNext, (ih next).mpr hRest⟩

namespace IsLegible

theorem nil : IsLegible [] := List.forall_mem_nil _

theorem single {print : Print} (h : print.IsLegible) : IsLegible [print] :=
  List.forall_mem_singleton.mpr h

theorem cons {print : Print} {rest : Page} (hRest : rest.IsLegible) (h : print.IsLegible) :
    IsLegible (print :: rest) := List.forall_mem_cons.mpr ⟨h, hRest⟩

theorem append {first second : Page} (h : first.IsLegible) (hSecond : second.IsLegible) :
    (first ++ second).IsLegible := List.forall_mem_append.mpr ⟨h, hSecond⟩

theorem map {α : Type} {items : List α} {print : α → Print}
    (h : ∀ item ∈ items, (print item).IsLegible) : IsLegible (items.map print) :=
  List.forall_mem_map.mpr h

end IsLegible

/-- Whether a page is only for errors. -/
def IsErr (page : Page) : Prop := ∀ print ∈ page, ∃ text, print = .line .err text

theorem isErr_append {first second : Page} :
    (first ++ second).IsErr ↔ first.IsErr ∧ second.IsErr := List.forall_mem_append

/-- What is only for errors does not stand on the screen for output. -/
theorem IsErr.out_eq {page : Page} {screen : Screen} (hErr : page.IsErr)
    (h : page.render = .ok screen) : screen.out = "" := by
  suffices hFold : ∀ start : Screen, page.foldlM Screen.print start = .ok screen →
      screen.out = start.out from hFold _ h
  clear h
  induction page with
  | nil =>
      intro start hStart
      rw [← Except.ok.inj hStart]
  | cons print rest ih =>
      intro start hStart
      obtain ⟨⟨text, rfl⟩, hRest⟩ := List.forall_mem_cons.mp hErr
      obtain ⟨next, hNext, hStart⟩ := bind_eq_ok_iff.mp hStart
      obtain ⟨visible, -, hAdd⟩ := bind_eq_ok_iff.mp hNext
      rw [ih hRest next hStart, ← pure_eq_ok_iff.mp hAdd]
      rfl

end Page

/-- A text without marks. -/
def Unmarked (text : String) : Prop := unmarked text.toList = true

namespace Unmarked

variable {front back : String}

theorem of_notMem {text : String} (h : '[' ∉ text.toList) : Unmarked text := by
  unfold Unmarked
  generalize text.toList = cs at h
  induction cs with
  | nil => rfl
  | cons c rest ih =>
      rw [List.mem_cons, not_or] at h
      rw [unmarked_cons_of_ne (Ne.symm h.1)]
      exact ih h.2

/-- Characters other than brackets before a text make no mark with it. -/
theorem append_of_notMem (hFront : '[' ∉ front.toList) (hBack : Unmarked back) :
    Unmarked (front ++ back) := by
  unfold Unmarked at hBack ⊢
  rw [String.toList_append]
  generalize front.toList = cs at hFront
  induction cs with
  | nil => exact hBack
  | cons c rest ih =>
      rw [List.mem_cons, not_or] at hFront
      rw [List.cons_append, unmarked_cons_of_ne (Ne.symm hFront.1)]
      exact ih hFront.2

/-- Texts make no mark with one another if none can begin where they meet. -/
theorem append (hFront : Unmarked front) (hBack : Unmarked back)
    (hHead : back.toList.head?.any startsMark = false) : Unmarked (front ++ back) := by
  unfold Unmarked at hFront hBack ⊢
  rw [String.toList_append]
  generalize front.toList = cs at hFront
  generalize back.toList = ds at hBack hHead
  induction cs with
  | nil => exact hBack
  | cons c rest ih =>
      have hRest := ih (unmarked_of_cons hFront)
      by_cases hBracket : c = '['
      · subst hBracket
        cases rest with
        | nil =>
            cases ds with
            | nil => rfl
            | cons d others =>
                have hNot : startsMark d = false := hHead
                rw [List.cons_append, List.nil_append, unmarked, hNot]
                exact hBack
        | cons d others =>
            rw [unmarked, Bool.and_eq_true] at hFront
            rw [List.cons_append, List.cons_append, unmarked, hFront.1]
            exact hRest
      · rw [List.cons_append, unmarked_cons_of_ne hBracket]
        exact hRest

theorem notMem_toDigits (n : Nat) : '[' ∉ Nat.toDigits 10 n :=
  fun hIn => Bool.false_ne_true (isDigit_of_mem_toDigits hIn)

theorem notMem_toString (n : Nat) : '[' ∉ (toString n).toList := by
  simpa using notMem_toDigits n

/-- A text with which no mark begins, between texts. -/
theorem append_append {middle : String} (hFront : Unmarked front) (hMiddle : '[' ∉ middle.toList)
    (hNonempty : middle.toList ≠ []) (hHead : middle.toList.head?.any startsMark = false)
    (hBack : Unmarked back) : Unmarked (front ++ (middle ++ back)) := by
  refine hFront.append (hBack.append_of_notMem hMiddle) ?_
  rwa [String.toList_append, List.head?_append_of_ne_nil _ hNonempty]

theorem joinWith_comma {parts : List String} (h : ∀ part ∈ parts, Unmarked part) :
    Unmarked (Text.joinWith ", " parts) := by
  induction parts with
  | nil => rfl
  | cons part rest ih =>
      obtain ⟨hPart, hRest⟩ := List.forall_mem_cons.mp h
      cases rest with
      | nil => exact hPart
      | cons next others =>
          have hJoin : Text.joinWith ", " (part :: next :: others) =
              part ++ (", " ++ Text.joinWith ", " (next :: others)) := String.append_assoc
          rw [hJoin]
          exact hPart.append_append (by decide) (by decide) (by decide) (ih hRest)

end Unmarked

section Parts

theorem isErr_blank : Page.IsErr (blank .err) := List.forall_mem_singleton.mpr ⟨_, rfl⟩

theorem isErr_failure (message : String) : Page.IsErr (failure message) :=
  List.forall_mem_singleton.mpr ⟨_, rfl⟩

theorem isErr_itemList (title style : String) (items : List String) :
    Page.IsErr (itemList .err title style items) := by
  rw [itemList, Page.isErr_append]
  refine ⟨List.forall_mem_cons.mpr ⟨⟨_, rfl⟩, ?_⟩, isErr_blank⟩
  exact List.forall_mem_map.mpr fun item _ => ⟨_, rfl⟩

theorem isLegible_blank (channel : Channel) : Page.IsLegible (blank channel) :=
  .single ⟨"", rfl⟩

variable {style inner behind : String}

/-- A text in a style, behind blanks and before a text. -/
theorem InUse.legible_between (h : InUse style) (blanks : Nat) (hInner : Unmarked inner)
    (hBehind : Unmarked behind) :
    Legible (ruler blanks ' ' ++ (styled style inner ++ behind)) := by
  refine h.legible blanks hInner hBehind ?_
  rw [String.toList_append, String.toList_append, toList_styled, ruler, String.toList_ofList]

/-- A text in a style before a text. -/
theorem InUse.legible_before (h : InUse style) (hInner : Unmarked inner)
    (hBehind : Unmarked behind) : Legible (styled style inner ++ behind) := by
  rw [← String.empty_append (s := styled style inner ++ behind)]
  exact h.legible_between 0 hInner hBehind

theorem InUse.legible_alone (h : InUse style) (hInner : Unmarked inner) :
    Legible (styled style inner) := by
  rw [← String.append_empty (s := styled style inner)]
  exact h.legible_before hInner rfl

variable {message : String}

theorem isLegible_success (h : Unmarked message) : Page.IsLegible (success message) :=
  .single <| (InUse.of_mem "success" (by decide)).legible_alone (h.append_of_notMem (by decide))

theorem isLegible_failure (h : Unmarked message) : Page.IsLegible (failure message) :=
  .single <| (InUse.of_mem "error" (by decide)).legible_alone (h.append_of_notMem (by decide))

theorem isLegible_warning (h : Unmarked message) : Page.IsLegible (warning message) :=
  .single <| (InUse.of_mem "warning" (by decide)).legible_alone (h.append_of_notMem (by decide))

theorem isLegible_header {title : String} (h : Unmarked title) : Page.IsLegible (header title) :=
  (isLegible_blank .out).append (.single (InUse.bold.legible_alone h))

/-- An item is printed behind a bullet in a style. -/
theorem InUse.legible_item (h : InUse style) (blanks : Nat) {bullet item : String}
    (hBullet : Unmarked bullet) (hItem : Unmarked item) :
    Legible (ruler blanks ' ' ++ styled style bullet ++ " " ++ item) := by
  rw [String.append_assoc, String.append_assoc]
  exact h.legible_between blanks hBullet (hItem.append_of_notMem (by decide))

theorem InUse.isLegible_itemList (h : InUse style) (channel : Channel) {title : String}
    (hTitle : Unmarked title) {items : List String} (hItems : ∀ item ∈ items, Unmarked item) :
    Page.IsLegible (itemList channel title style items) := by
  have hTop : (Print.line channel (styled "bold" title)).IsLegible :=
    InUse.bold.legible_alone hTitle
  have hList : Page.IsLegible (items.map fun item =>
      .line channel ("  " ++ styled style "•" ++ " " ++ item)) :=
    .map fun item hItem => h.legible_item 2 rfl (hItems item hItem)
  exact (hList.cons hTop).append (isLegible_blank channel)

end Parts

end Tailnet.Terminal
