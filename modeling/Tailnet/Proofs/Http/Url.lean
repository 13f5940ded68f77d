import Mathlib.Data.Bool.AllAny
import Mathlib.Data.List.TakeDrop
import Mathlib.Data.List.TakeWhile
import Tailnet.Http.Client
import Tailnet.Proofs.Http.Percent
import Tailnet.Proofs.Success
import Tailnet.Proofs.Text.Cut

/-!
URLs below the default base URL. Any path whose characters may stand in a path as they are leads to
a place there, unless it is too long: the path itself, if none of its segments is one or two dots.
-/

namespace Tailnet.Http

theorem isPathChar_of_isUnreserved {c : Char} (h : isUnreserved c = true) :
    Url.isPathChar c = true := by
  have hAlphanum : c.isAlphanum = (decide (0x41 ≤ c.val ∧ c.val ≤ 0x5A) ||
      (0x61 ≤ c.val && c.val ≤ 0x7A) || (0x30 ≤ c.val && c.val ≤ 0x39)) := rfl
  simp only [isUnreserved, hAlphanum, Bool.or_eq_true, Bool.and_eq_true, decide_eq_true_eq,
    beq_iff_eq, UInt32.le_iff_toNat_le] at h
  have hOf (hLow : 0x30 ≤ c.toNat) (hHigh : c.toNat ≤ 0x7A)
      (hOther : c.toNat ≤ 0x39 ∨ 0x41 ≤ c.toNat ∧ c.toNat ≠ 0x60) : Url.isPathChar c = true := by
    have hNe (d : Char) (hd : d.toNat < 0x30 ∨ 0x39 < d.toNat ∧ d.toNat < 0x41 ∨
        d.toNat = 0x60 ∨ 0x7A < d.toNat) : c ≠ d := by
      rintro rfl
      omega
    have hOthers : ['"', '#', '<', '>', '?', '\x60', '\x7b', '\x7d'].contains c = false := by
      rw [List.contains_eq_mem, decide_eq_false_iff_not]
      simp only [List.mem_cons, List.not_mem_nil, or_false, not_or]
      exact ⟨hNe _ (by decide), hNe _ (by decide), hNe _ (by decide), hNe _ (by decide),
        hNe _ (by decide), hNe _ (by decide), hNe _ (by decide), hNe _ (by decide)⟩
    rw [Url.isPathChar, Url.isVisibleBut, hOthers]
    simp only [Bool.not_false, Bool.and_true, Bool.and_eq_true, decide_eq_true_eq]
    omega
  rcases h with ((((((hCapital | hSmall) | hDigit) | rfl) | rfl) | rfl) | rfl)
  · change 0x41 ≤ c.toNat ∧ c.toNat ≤ 0x5A at hCapital
    exact hOf (by omega) (by omega) (by omega)
  · change 0x61 ≤ c.toNat ∧ c.toNat ≤ 0x7A at hSmall
    exact hOf (by omega) (by omega) (by omega)
  · change 0x30 ≤ c.toNat ∧ c.toNat ≤ 0x39 at hDigit
    exact hOf (by omega) (by omega) (by omega)
  all_goals decide

/-- A segment may stand in a path as it is. -/
theorem isPathChar_of_mem_segment {s : String} {c : Char} (h : c ∈ segment s) :
    Url.isPathChar c = true := by
  rcases (Escaped.ofSegment s).isUnreserved_or h with hKept | rfl
  · exact isPathChar_of_isUnreserved hKept
  · decide

namespace Url

/-- The beginning of the default base URL, up to its path. -/
def defaultStart : List Char := "https://api.tailscale.com".toList

theorem check_eq_ok {cs : List Char} (hLength : cs.length ≤ maxLength)
    (hVisible : ∀ c ∈ cs, isControl c = false) (part : Option String) : check part cs = .ok () := by
  have hNone : cs.findIdx? isControl = none := by
    rw [List.findIdx?_eq_none_iff]
    exact hVisible
  rw [check, if_neg (Nat.not_lt.mpr hLength), hNone]

/-- The characters of a path say nothing else about a URL. -/
theorem isPathChar_visible {c : Char} (h : isPathChar c = true) :
    isControl c = false ∧ c ≠ '?' ∧ c ≠ '#' := by
  rw [isPathChar, isVisibleBut, Bool.and_eq_true, Bool.and_eq_true, decide_eq_true_eq,
    decide_eq_true_eq] at h
  obtain ⟨⟨hLow, hHigh⟩, hOther⟩ := h
  refine ⟨?_, ?_, ?_⟩
  · rw [isControl, Bool.or_eq_false_iff, decide_eq_false_iff_not, beq_eq_false_iff_ne]
    omega
  all_goals
    rintro rfl
    cases hOther

/-- The parts of a text that goes on with a path and nothing else. -/
theorem Draft.ofChars_default {path : List Char} (h : ∀ c ∈ path, isPathChar c = true) :
    Draft.ofChars (defaultStart ++ '/' :: path) =
      { scheme := "https".toList, user := [], host := "api.tailscale.com".toList, port := []
        path := '/' :: path, query := none, fragment := none } := by
  have hScheme : splitScheme (defaultStart ++ '/' :: path) =
      ("https".toList, '/' :: '/' :: ("api.tailscale.com".toList ++ '/' :: path)) := rfl
  have hAuthority : ("api.tailscale.com".toList ++ '/' :: path).span
      (fun c => !("/?#".toList.contains c)) = ("api.tailscale.com".toList, '/' :: path) := rfl
  have hPath : ('/' :: path).span (fun c => c != '?' && c != '#') = ('/' :: path, []) := by
    have hKept : ∀ c ∈ '/' :: path, (c != '?' && c != '#') = true := by
      rw [List.forall_mem_cons]
      exact ⟨rfl, fun c hc => by simp [isPathChar_visible (h c hc)]⟩
    rw [List.span_eq_takeWhile_dropWhile, List.takeWhile_eq_self_iff.mpr hKept,
      List.dropWhile_eq_nil_iff.mpr hKept]
  simp only [Draft.ofChars, hScheme, hAuthority, hPath]
  rfl

/-- A path at the host of the default base URL. -/
def atDefaultHost (path : String) : Url :=
  { scheme := "https", user := "", host := "api.tailscale.com", port := none, path
    query := none, fragment := none }

/-- Whatever such a path says, it is one at the host of the base URL. -/
theorem ofDraft_default (path : List Char) :
    ofDraft
        { scheme := "https".toList, user := [], host := "api.tailscale.com".toList, port := []
          path := '/' :: path, query := none, fragment := none } =
      .ok (atDefaultHost (String.ofList
        (escapeMore isPathChar (withoutDots (String.ofList ('/' :: path))).toList))) := by
  have hHost : Host.normalize "api.tailscale.com".toList = .ok "api.tailscale.com" := by
    have hDotted : Host.isDotted "api.tailscale.com".toList = false := by decide +kernel
    have hEscaped : String.ofList (escapeMore Host.isNameChar
        ("api.tailscale.com".toList.map Char.toLower)) = "api.tailscale.com" := by decide +kernel
    have hPlain : Host.inBrackets? "api.tailscale.com".toList = none := by decide +kernel
    simp only [Host.normalize, hDotted, hPlain, hEscaped, Bool.false_eq_true, if_false]
    rfl
  have hScheme : (String.ofList "https".toList).map Char.toLower = "https" := by decide +kernel
  have hUser : String.ofList (escapeMore isUserChar []) = "" := by decide +kernel
  have hPort : readPort [] = .ok none := rfl
  have hPath (hasAuthority : Bool) : checkPath true hasAuthority ('/' :: path) = .ok () := by
    simp [checkPath]
  have hFull : ("https" != "") = true := by decide
  simp only [ofDraft, hScheme, hUser, hHost, Except.mapError, ok_bind, hPort, hPath, hFull,
    Bool.true_or, if_true]
  rfl

theorem checkHost_default {url : Url} (hHost : url.host = "api.tailscale.com")
    (hPort : url.port = none) : checkHost url = .ok () := by
  have hName : checkName "api.tailscale.com" = .ok () := by
    rw [checkName, if_neg (by decide +kernel)]
  have hAscii : asciiText "api.tailscale.com" = .ok "api.tailscale.com" := by
    rw [asciiText, if_pos (by decide +kernel)]
  have hPlace : url.place = "api.tailscale.com" := by
    rw [place, hHost, hPort, if_neg (by decide +kernel)]
    rfl
  rw [checkHost, hHost, hName, hPlace, hAscii]
  rfl

/-- A path below the host of the default base URL leads to a place at which a request can be
made. -/
theorem read_default {s : String} {path : List Char}
    (hText : s.toList = defaultStart ++ '/' :: path) (h : ∀ c ∈ path, isPathChar c = true)
    (hLength : s.toList.length ≤ maxLength) :
    read s = .ok (atDefaultHost (String.ofList
      (escapeMore isPathChar (withoutDots (String.ofList ('/' :: path))).toList))) := by
  have hStart : ∀ c ∈ defaultStart, isControl c = false :=
    List.all_iff_forall_prop.mp (by decide)
  have hVisible : ∀ c ∈ s.toList, isControl c = false := by
    rw [hText]
    simp only [List.forall_mem_append, List.forall_mem_cons]
    exact ⟨hStart, rfl, fun c hc => (isPathChar_visible (h c hc)).1⟩
  rw [read, check_eq_ok hLength hVisible, ok_bind, hText, Draft.ofChars_default h,
    ofDraft_default]

theorem eq_of_read_default {s : String} {path : List Char} {url : Url}
    (hText : s.toList = defaultStart ++ '/' :: path) (h : ∀ c ∈ path, isPathChar c = true)
    (hRead : read s = .ok url) :
    url = atDefaultHost (String.ofList
      (escapeMore isPathChar (withoutDots (String.ofList ('/' :: path))).toList)) := by
  obtain ⟨-, -, hDraft⟩ := bind_eq_ok_iff.mp hRead
  rw [hText, Draft.ofChars_default h, ofDraft_default] at hDraft
  exact (Except.ok.inj hDraft).symm

/-! Paths with dots. -/

theorem walkSegments_of_ne (walked : List String) {part : String} (hDot : part ≠ ".")
    (hDots : part ≠ "..") (rest : List String) :
    walkSegments walked (part :: rest) = walkSegments (part :: walked) rest := by
  rw [walkSegments]
  · exact hDot
  · exact hDots

/-- Along segments that are not one or two dots a path goes straight on. -/
theorem walkSegments_append (walked : List String) {front : List String}
    (h : ∀ part ∈ front, part ≠ "." ∧ part ≠ "..") (back : List String) :
    walkSegments walked (front ++ back) = walkSegments (front.reverse ++ walked) back := by
  induction front generalizing walked with
  | nil => rfl
  | cons part rest ih =>
      rw [List.forall_mem_cons] at h
      rw [List.cons_append, walkSegments_of_ne walked h.1.1 h.1.2, ih _ h.2, List.reverse_cons,
        List.append_assoc, List.singleton_append]

theorem walkSegments_eq_append (walked : List String) {parts : List String}
    (h : ∀ part ∈ parts, part ≠ "." ∧ part ≠ "..") :
    walkSegments walked parts = walked.reverse ++ parts := by
  have hWalk := walkSegments_append walked h []
  rw [List.append_nil] at hWalk
  rw [hWalk, walkSegments, List.reverse_append, List.reverse_reverse]

theorem withoutDots_eq_self {path : String}
    (h : ∀ part ∈ Text.parts '/' path, part ≠ "." ∧ part ≠ "..") : withoutDots path = path := by
  rw [withoutDots, walkSegments_eq_append [] h]
  exact Text.joinWith_parts '/' path

end Url

end Tailnet.Http
