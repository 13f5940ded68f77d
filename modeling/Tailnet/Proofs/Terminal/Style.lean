import Mathlib.Tactic.SplitIfs
import Tailnet.Terminal.Style

/-!
The styles in which commands print. Each is its own usual name, whether or not its words are among
the names of colours.
-/

namespace Tailnet.Terminal

/-- Whether a word is no colour that is given by its parts, which may be no numbers. -/
def isUnmixed (word : String) : Bool := (argument? "rgb(" word.toList).isNone

/-- A word that is not given by parts is a colour or unknown, and there is nothing else to it. -/
theorem checkColour_cases {word : String} (h : isUnmixed word = true) :
    checkColour word = .ok () ∨ checkColour word = .error .unknown := by
  have hParts : argument? "rgb(" word.toList = none := Option.isNone_iff_eq_none.mp h
  unfold checkColour
  simp only [hParts]
  split_ifs
  · exact .inl rfl
  · split
    case h_1 =>
      split_ifs
      · exact .inl rfl
      · exact .inr rfl
    case h_2 hSome => cases hSome
    case h_3 =>
      split
      case h_1 =>
        split_ifs
        · exact .inl rfl
        · exact .inr rfl
      case h_2 => exact .inr rfl

/-- Small letters and the blank. -/
def plainLetters : List Char := "abcdefghijklmnopqrstuvwxyz ".toList

theorem lowerFrom_eq_self {cs : List Char} (h : ∀ c ∈ cs, c ∈ plainLetters) (passed : List Char) :
    Text.lowerFrom passed cs = cs := by
  have hSmall : plainLetters.all
      (fun c => c != 'Σ' && c != 'İ' && Text.lowerChar c == c) = true := by
    decide +kernel
  simp only [List.all_eq_true, Bool.and_eq_true, bne_iff_ne, beq_iff_eq, and_assoc] at hSmall
  induction cs generalizing passed with
  | nil => rfl
  | cons c rest ih =>
      obtain ⟨hPlain, hRest⟩ := List.forall_mem_cons.mp h
      obtain ⟨hSigma, hDotted, hLower⟩ := hSmall c hPlain
      rw [Text.lowerFrom, if_neg hSigma, if_neg hDotted, hLower, ih hRest]
      rfl

theorem lower_eq_self {text : String} (h : text.toList.all plainLetters.contains = true) :
    Text.lower text = text := by
  have hAll : ∀ c ∈ text.toList, c ∈ plainLetters := by simpa using h
  rw [Text.lower, lowerFrom_eq_self hAll, String.ofList_toList]

namespace Style

/-- A word with a meaning of its own in a style. -/
def reserved : List String := ["on", "not", "link"]

/-- A word in small letters that may only be a colour. -/
structure Coloured (word : String) : Prop where
  lower_eq : Text.lower word = word
  notReserved : word ∉ reserved
  attribute_eq : attribute? word = none
  unmixed : isUnmixed word = true

theorem Coloured.readWords_eq {word : String} (h : Coloured word) (style : Style) :
    style.readWords [word] =
      (checkColour word).map fun _ => { style with colour := some word } := by
  have hReserved := h.notReserved
  simp only [reserved, List.mem_cons, List.not_mem_nil, or_false, not_or] at hReserved
  obtain ⟨hOn, hNot, hLink⟩ := hReserved
  rw [readWords, h.lower_eq]
  simp only [if_neg hOn, if_neg hNot, if_neg hLink, h.attribute_eq]
  cases checkColour word with
  | ok => simp [Except.map, bind, Except.bind, readWords]
  | error cause => rfl

/-- A style that has its own text as its name, and can be used. -/
structure Settled (text : String) : Prop where
  usualName_eq : usualName text = .ok text
  usable : ∀ cause, read text ≠ .error (.numeral cause)

/-- The words of a text. -/
def wordsOf (text : String) : List String := (Text.words text.toList).map String.ofList

/-- A style that ends with what may be a colour is settled if it has the same name either way. -/
theorem settled_of_coloured {text word : String} {start : Style} (h : Coloured word)
    (hTrim : Text.trim text = text) (hNone : text ≠ "none")
    (hPlain : text.toList.all plainLetters.contains = true)
    (hRead : plain.readWords (wordsOf text) = start.readWords [word])
    (hName : { start with colour := some word : Style }.name = text) : Settled text := by
  have hText : read text = (checkColour word).map fun _ => { start with colour := some word } := by
    rw [read, hTrim, if_neg hNone, ← h.readWords_eq]
    exact hRead
  rcases checkColour_cases h.unmixed with hKnown | hUnknown
  · rw [hKnown] at hText
    refine ⟨?_, fun cause hCause => nomatch hText.symm.trans hCause⟩
    rw [usualName, hText]
    exact congrArg Except.ok hName
  · rw [hUnknown] at hText
    refine ⟨?_, fun cause hCause => nomatch hText.symm.trans hCause⟩
    rw [usualName, hText]
    exact congrArg Except.ok (hTrim.symm ▸ lower_eq_self hPlain)

/-- The words among the styles of commands that may be colours. -/
def colourWords : List String := ["info", "success", "warning", "error", "muted", "cyan", "yellow"]

theorem coloured_of_mem : ∀ word ∈ colourWords, Coloured word := by
  have hAll : ∀ word ∈ colourWords, word.toList.all plainLetters.contains = true ∧
      word ∉ reserved ∧ attribute? word = none ∧ isUnmixed word = true := by
    decide +kernel
  intro word hWord
  obtain ⟨hPlain, hReserved, hAttribute, hUnmixed⟩ := hAll word hWord
  exact ⟨lower_eq_self hPlain, hReserved, hAttribute, hUnmixed⟩

theorem settled_of_mem : ∀ word ∈ colourWords, Settled word := by
  have hAll : ∀ word ∈ colourWords, Text.trim word = word ∧ word ≠ "none" ∧
      word.toList.all plainLetters.contains = true ∧ wordsOf word = [word] := by
    decide +kernel
  intro word hWord
  obtain ⟨hTrim, hNone, hPlain, hWords⟩ := hAll word hWord
  exact settled_of_coloured (coloured_of_mem word hWord) hTrim hNone hPlain
    (congrArg plain.readWords hWords) rfl

theorem settled_bold : Settled "bold" where
  usualName_eq := rfl
  usable _ h := nomatch (rfl : (read "bold").isOk = true).symm.trans (congrArg Except.isOk h)

/-- The style of a conclusion: bold, in a colour. -/
theorem settled_bold_of_mem :
    ∀ word ∈ colourWords, Settled ("bold " ++ word) := by
  have hAll : ∀ word ∈ colourWords, Text.trim ("bold " ++ word) = "bold " ++ word ∧
      "bold " ++ word ≠ "none" ∧ ("bold " ++ word).toList.all plainLetters.contains = true ∧
      wordsOf ("bold " ++ word) = ["bold", word] := by
    decide +kernel
  intro word hWord
  obtain ⟨hTrim, hNone, hPlain, hWords⟩ := hAll word hWord
  have hBold : plain.readWords ["bold", word] =
      ({ plain with attributes := [("bold", true)] } : Style).readWords [word] := by
    rfl
  exact settled_of_coloured (coloured_of_mem word hWord) hTrim hNone hPlain
    ((congrArg plain.readWords hWords).trans hBold) rfl

end Style

/-- Whether the text of a style can stand in a mark. -/
def isMarkable (style : String) : Bool :=
  (style.toList.head?.any fun c => 'a' ≤ c && c ≤ 'z') &&
    style.toList.all fun c => c != '[' && c != ']' && c != '='

/-- A style in which commands print. -/
structure InUse (style : String) : Prop extends Style.Settled style where
  markable : isMarkable style = true
  trim_eq : Text.trimChars style.toList = style.toList

namespace InUse

theorem bold : InUse "bold" := ⟨Style.settled_bold, by decide, by decide⟩

theorem of_mem : ∀ word ∈ Style.colourWords, InUse word := by
  have hAll : ∀ word ∈ Style.colourWords, isMarkable word = true ∧
      Text.trimChars word.toList = word.toList := by
    decide +kernel
  intro word hWord
  obtain ⟨hMarkable, hTrim⟩ := hAll word hWord
  exact ⟨Style.settled_of_mem word hWord, hMarkable, hTrim⟩

/-- A conclusion is printed in bold and in a colour. -/
theorem bold_of_mem : ∀ word ∈ Style.colourWords, InUse ("bold " ++ word) := by
  have hAll : ∀ word ∈ Style.colourWords, isMarkable ("bold " ++ word) = true ∧
      Text.trimChars ("bold " ++ word).toList = ("bold " ++ word).toList := by
    decide +kernel
  intro word hWord
  obtain ⟨hMarkable, hTrim⟩ := hAll word hWord
  exact ⟨Style.settled_bold_of_mem word hWord, hMarkable, hTrim⟩

end InUse

end Tailnet.Terminal
