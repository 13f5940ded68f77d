import Tailnet.Proofs.Policy.Locality
import Tailnet.Proofs.Text.Digit

/-!
The lists of principals in a document: the sources and the destinations of each rule, the approvers
of exit nodes and those of each network. The text of a place in them tells which list it is and
which position, whatever the networks are called.
-/

namespace Tailnet

open Text

/-- The two lists of principals in a rule. -/
inductive RuleSide where
  | source
  | destination
deriving DecidableEq

/-- The field of a rule in which a list stands. -/
def RuleSide.fieldName : RuleSide → String
  | source => "src"
  | destination => "dst"

/-- The principals in a list of a rule. Those of the destinations of an access rule are their
targets. -/
def Rule.principals : Rule → RuleSide → List Principal
  | access rule, .source => rule.sources
  | access rule, .destination => rule.destinations.map Destination.target
  | shell rule, .source => rule.sources
  | shell rule, .destination => rule.destinations

/-- A list of principals in a document. -/
inductive Listing where
  | rule (kind : RuleKind) (index : Nat) (side : RuleSide)
  | exitNode
  | route (network : String)
deriving DecidableEq

namespace Listing

/-- Where a list stands. -/
def path : Listing → Path
  | rule kind index side => kind.place index ++ [.field side.fieldName]
  | exitNode => [.field "autoApprovers", .field "exitNode"]
  | route network => [.field "autoApprovers", .field "routes", .entry network]

/-- The place of an item of a list. -/
def place (listing : Listing) (index : Nat) : Path := listing.path ++ [.item index]

end Listing

namespace Document

/-- The rules of a kind. -/
def rulesOf (document : Document) : RuleKind → List Rule
  | .access => document.access.map .access
  | .shell => document.shell.map .shell

/-- The principals in a list of a document: none where there is no such list. -/
def listed (document : Document) : Listing → List Principal
  | .rule kind index side =>
    match (document.rulesOf kind)[index]? with
    | some rule => rule.principals side
    | none => []
  | .exitNode => document.approvals.exitNode.values
  | .route network => (document.approvals.route? network).getD []

end Document

section Places

theorem RuleKind.sectionName_injective : Function.Injective sectionName := by
  intro kind other h
  cases kind <;> cases other <;> first | rfl | exact absurd h (by decide)

theorem RuleSide.fieldName_injective : Function.Injective fieldName := by
  intro side other h
  cases side <;> cases other <;> first | rfl | exact absurd h (by decide)

/-- An item is named behind the text of its list. -/
theorem Path.text_append_item {path : Path} (h : path ≠ []) (index : Nat) :
    Path.text (path ++ [.item index]) = path.text ++ ("[" ++ toString index ++ "]") := by
  cases path with
  | nil => exact absurd rfl h
  | cons step rest =>
      cases step <;> simp [Path.text, Step.text, String.join, String.append_assoc]

namespace Listing

theorem path_ne_nil (listing : Listing) : listing.path ≠ [] := by
  cases listing <;> simp [path]

/-- The text of a list, cut at its first bracket: what stands before it tells rules from approvers,
and rules of one kind from those of the other. -/
def opening (listing : Listing) : Option (List Char × List Char) :=
  match listing with
  | rule kind index side => some (kind.sectionName.toList,
      (toString index).toList ++ ']' :: '.' :: side.fieldName.toList)
  | exitNode => none
  | route network => some ("autoApprovers.routes".toList, network.toList ++ [']'])

theorem cutFirst?_text_path (listing : Listing) :
    cutFirst? '[' listing.path.text.toList = listing.opening := by
  cases listing with
  | rule kind index side =>
      refine cutFirst?_eq_some_iff.mpr ⟨?_, ?_⟩
      · simp [path, RuleKind.place, Path.text, Step.text, String.join]
      · cases kind <;> decide
  | exitNode => decide
  | route network =>
      refine cutFirst?_eq_some_iff.mpr ⟨?_, by decide⟩
      simp [path, Path.text, Step.text, String.join]

theorem opening_injective : Function.Injective opening := by
  intro listing other hOpening
  cases listing with
  | exitNode =>
      cases other with
      | exitNode => rfl
      | _ => cases hOpening
  | route network =>
      cases other with
      | exitNode => cases hOpening
      | rule kind index side =>
          have hSection := (Prod.mk.inj (Option.some.inj hOpening)).1
          cases kind <;> exact absurd hSection (by decide)
      | route otherNetwork =>
          have hNetwork := (Prod.mk.inj (Option.some.inj hOpening)).2
          rw [List.append_cancel_right_eq, String.toList_inj] at hNetwork
          rw [hNetwork]
  | rule kind index side =>
      cases other with
      | exitNode => cases hOpening
      | route network =>
          have hSection := (Prod.mk.inj (Option.some.inj hOpening)).1
          cases kind <;> exact absurd hSection (by decide)
      | rule otherKind otherIndex otherSide =>
          obtain ⟨hSection, hRest⟩ := Prod.mk.inj (Option.some.inj hOpening)
          have hKind := RuleKind.sectionName_injective (String.toList_inj.mp hSection)
          obtain ⟨hIndex, hSide⟩ := append_sep_inj (notMem_toString (by decide) index)
            (notMem_toString (by decide) otherIndex) hRest
          have hName := String.toList_inj.mp (List.cons.inj hSide).2
          rw [hKind, toString_nat_injective (String.toList_inj.mp hIndex),
            RuleSide.fieldName_injective hName]

/-- The text of a list tells which list it is. -/
theorem text_path_injective : Function.Injective fun listing : Listing => listing.path.text := by
  intro listing other hText
  apply opening_injective
  rw [← cutFirst?_text_path, ← cutFirst?_text_path]
  exact congrArg (fun s : String => cutFirst? '[' s.toList) hText

/-- The text of a place tells the list and the position. It is cut at its last bracket, since the
name of a network may have brackets in it. -/
theorem text_place_inj {listing other : Listing} {i j : Nat}
    (h : (listing.place i).text = (other.place j).text) : listing = other ∧ i = j := by
  have hCut (l : Listing) (n : Nat) : cutLast? '[' (l.place n).text.toList =
      some (l.path.text.toList, (toString n).toList ++ [']']) := by
    have hText : (l.place n).text.toList =
        l.path.text.toList ++ '[' :: ((toString n).toList ++ [']']) := by
      simp [place, Path.text_append_item l.path_ne_nil]
    have hNoBracket : '[' ∉ (toString n).toList ++ [']'] := by
      rw [List.mem_append, not_or]
      exact ⟨notMem_toString (by decide) n, by decide⟩
    rw [hText]
    exact cutLast?_append _ hNoBracket
  have hBoth := hCut listing i
  rw [h, hCut, Option.some_inj, Prod.mk.injEq, List.append_cancel_right_eq, String.toList_inj,
    String.toList_inj] at hBoth
  exact ⟨(text_path_injective hBoth.1).symm, (toString_nat_injective hBoth.2).symm⟩

end Listing

end Places

end Tailnet
