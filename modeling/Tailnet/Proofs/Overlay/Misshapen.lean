import Tailnet.Proofs.Overlay.Failing
import Tailnet.Proofs.Source.Refusal
import Tailnet.Source.File

/-!
Overlays on a base with sections that have not their shape. Without an overlay the author is always
told. With one, merging may take such a section for one that has its shape, so that it is hidden; or
merging stops at it for a reason that nobody is told.
-/

namespace Tailnet

/-- Whether the error is told to the author of the file. -/
def OverlayError.isTold (cause : OverlayError) : Bool := (FileError.overlay cause).report?.isSome

/-- Whether a value counts as a mapping. -/
def Value.IsMapping (value : Value) : Prop := value = .null ∨ ∃ entries, value = .map entries

/-- Whether a value counts as a list. -/
def Value.IsList (value : Value) : Prop := value = .null ∨ ∃ items, value = .list items

namespace Overlay

open Source (field? mappingSections listSections Misshapen Illegible)

/-- The sections of declarations. -/
def declarationSections : List String := ["groups", "tagOwners", "hosts"]

theorem notMem_listSections : ∀ name ∈ declarationSections, name ∉ listSections := by decide

/-- Merging takes a section of the base that has not its shape for one that has: an empty one, pairs
for declarations, or a tuple for rules. -/
inductive Hides : String → Value → Value → Prop where
  | declarations {name : String} {below above : Value} (hName : name ∈ declarationSections)
      (hBelow : below.isTruthy = true → ∃ entries, below.toMapping = .ok entries)
      (hAbove : above.IsMapping) : Hides name below above
  | rules {name : String} {below above : Value} (hName : name ∈ listSections)
      (hBelow : below.isTruthy = false) (hAbove : above.IsList) : Hides name below above
  | tuple {name : String} {items : List Value} {above : Value} (hName : name ∈ listSections)
      (hAbove : above.IsList) : Hides name (.tuple items) above
  | options {name : String} {below above : Value} (hName : name ∈ ["autoApprovers", "tailnet"])
      (hBelow : below.isTruthy = false) (hAbove : above.IsMapping) : Hides name below above

/-- All keys of a mapping have positions in the lists of a length. -/
def Placed (length : Nat) (entries : Mapping) : Prop :=
  ∀ key ∈ entries.keys, ∃ i, position? length key = .ok i

/-- Merging stops at a section of the base that has not its shape: at declarations that are no
pairs, at rules that cannot be gone through, at approvers, and at options unless all entries of the
overlay have their positions in a list. -/
inductive Stops : String → Value → Value → Prop where
  | declarations {name : String} {below above : Value} {cause : PairsError}
      (hName : name ∈ declarationSections) (hTruthy : below.isTruthy = true)
      (hBelow : below.toMapping = .error cause) : Stops name below above
  | rules {name : String} {below above : Value} (hName : name ∈ listSections)
      (hTruthy : below.isTruthy = true) (hBelow : below.elements? = none) : Stops name below above
  | approvers {below above : Value} (hTruthy : below.isTruthy = true)
      (hAbove : above.IsMapping) : Stops "autoApprovers" below above
  | options {below : Value} {entries : Mapping} (hTruthy : below.isTruthy = true)
      (hEntries : entries ≠ [])
      (hBelow : ∀ items, below = .list items → ¬Placed items.length entries) :
      Stops "tailnet" below (.map entries)

/-- A section of the base has not its shape, and of the overlay it has something that is in a
relation to it. -/
def Meeting (relation : String → Value → Value → Prop) (base overlay : Mapping) (name : String) :
    Prop :=
  ∃ below above, field? base name = some below ∧ field? overlay name = some above ∧
    Misshapen name below ∧ relation name below above

/-- An error that the author is told, or that merging stops at a section that has not its shape; or
else mappings are merged without end, or a network of the grants cannot be shown. -/
def Explained (name : String) (below above : Value) (cause : OverlayError) : Prop :=
  cause.isTold = true ∨ Misshapen name below ∧ Stops name below above ∨ cause = .endless ∨
    ∃ reason, cause = .shape (.conversion reason)

/-- A section that keeps data from being read. -/
def Unreadable (name : String) (value : Value) : Prop :=
  ∀ data, field? data name = some value → Illegible data

/-- What merging makes of a section that has not its shape: one that has, if it is hidden, and
otherwise one that cannot be read. -/
def Settled (name : String) (below above value : Value) : Prop :=
  Misshapen name below → Hides name below above ∧ ¬Misshapen name value ∨
    ¬Hides name below above ∧ Unreadable name value

/-- Merging settles the sections that have not their shape, and if it fails this is explained. -/
def Accounts (part : String × Merge) : Prop :=
  ∀ below above, Meets (Settled part.1 below above) (Explained part.1 below above)
    (part.2 below above)

theorem isNull_of_isTruthy {value : Value} (h : value.isTruthy = true) : value.isNull = false := by
  cases value with
  | scalar s =>
      cases s with
      | null => cases h
      | _ => rfl
  | _ => rfl

theorem length_itemsAlone (items : List Value) :
    (Value.itemsAlone items).length = items.length := by
  rw [Value.itemsAlone, List.length_map, List.length_zipIdx]

theorem mappingOf_meets (name : String) (above : Value) :
    Meets (fun fields : Mapping => above = .null ∧ fields = [] ∨
        ∃ entries, above = .map entries ∧ fields.keys = Table.keys entries)
      (fun cause => cause.isTold = true) (mappingOf name above) := by
  unfold mappingOf
  split
  · exact .ok (.inl ⟨rfl, rfl⟩)
  case h_2 entries => exact .ok (.inr ⟨entries, rfl, Value.keys_entriesAlone entries⟩)
  · exact .error rfl

theorem isMapping_of_mappingOf (name : String) (above : Value) :
    Meets (fun _ => above.IsMapping) (fun cause => cause.isTold = true) (mappingOf name above) :=
  (mappingOf_meets name above).imp fun _ h =>
    h.imp And.left fun ⟨entries, hEntries, _⟩ => ⟨entries, hEntries⟩

theorem listAt_meets (place : String) (found : Option Value) :
    Meets (fun _ => ∀ above, found = some above → above.IsList)
      (fun cause => cause.isTold = true) (listAt place found) := by
  unfold listAt
  split
  · exact .ok nofun
  · exact .ok fun above h => .inl (Option.some.inj h).symm
  · exact .error rfl
  case h_4 items => exact .ok fun above h => .inr ⟨items, (Option.some.inj h).symm⟩
  · exact .error rfl

/-- A list has the shape of rules. -/
theorem not_misshapen_list {name : String} (hName : name ∈ listSections) (items : List Value) :
    ¬Misshapen name (.list items) := by
  rintro (⟨hOther, -, -⟩ | ⟨-, -, hShape⟩)
  · exact (by decide : ∀ name ∈ listSections, name ∉ mappingSections) name hName hOther
  · exact hShape items rfl

/-- A mapping has the shape of the other sections. -/
theorem not_misshapen_map {name : String} (hName : name ∈ mappingSections) (entries : Mapping) :
    ¬Misshapen name (.map entries) := by
  rintro (⟨-, -, hShape⟩ | ⟨hOther, -, -⟩)
  · exact hShape entries rfl
  · exact (by decide : ∀ name ∈ mappingSections, name ∉ listSections) name hName hOther

/-- Only pairs and tuples are hidden if they count as present. -/
theorem Hides.isTruthy_eq_false {name : String} {below above : Value} (h : Hides name below above)
    (hName : name ∉ declarationSections)
    (hTuple : name ∈ listSections → ∀ items, below ≠ .tuple items) : below.isTruthy = false := by
  cases h with
  | declarations hDeclared => exact absurd hDeclared hName
  | rules _ hBelow => exact hBelow
  | tuple hList => exact absurd rfl (hTuple hList _)
  | options _ hBelow => exact hBelow

theorem settled_of_isTruthy {name : String} {below above value : Value}
    (hName : name ∉ declarationSections)
    (hTuple : name ∈ listSections → ∀ items, below ≠ .tuple items)
    (hTruthy : below.isTruthy = true) (h : Misshapen name below → Unreadable name value) :
    Settled name below above value := by
  refine fun hMisshapen => .inr ⟨fun hHides => ?_, h hMisshapen⟩
  cases (hHides.isTruthy_eq_false hName hTuple).symm.trans hTruthy

/-- Declarations that have not their shape are taken for pairs, or merging stops at them. -/
theorem accounts_declarations {name : String} (hName : name ∈ declarationSections) :
    Accounts (name, mergeDeclarations name) := by
  intro below above
  have hMapping : name ∈ mappingSections :=
    (by decide : declarationSections ⊆ mappingSections) hName
  have hHides (hBelow : below.isTruthy = true → ∃ entries, below.toMapping = .ok entries)
      (entries : Mapping) :
      Meets (Settled name below above) (Explained name below above)
        (do return .map (entries.update (← mappingOf name above))) := by
    refine ((isMapping_of_mappingOf name above).explain fun _ => .inl).bind fun _ hAbove => ?_
    exact .ok fun _ => .inl ⟨.declarations hName hBelow hAbove, not_misshapen_map hMapping _⟩
  change Meets _ _ (mergeDeclarations name below above)
  unfold mergeDeclarations asMapping
  cases hTruthy : below.isTruthy with
  | false => exact hHides (by simp [hTruthy]) []
  | true =>
      cases hPairs : below.toMapping with
      | ok entries => exact hHides (fun _ => ⟨entries, hPairs⟩) entries
      | error cause =>
          refine .error (.inr (.inl ⟨.mapping hMapping (isNull_of_isTruthy hTruthy) ?_,
            .declarations hName hTruthy hPairs⟩))
          rintro entries rfl
          cases hPairs

/-- Without items of their own, the elements of a value have no fields. -/
theorem scalar_of_elements {value : Value} {elements : List Value}
    (h : value.elements? = some elements) (hShape : ∀ items, value ≠ .list items)
    (hTuple : ∀ items, value ≠ .tuple items) : ∀ element ∈ elements, ∃ s, element = .scalar s := by
  cases value with
  | list items => exact absurd rfl (hShape items)
  | tuple items => exact absurd rfl (hTuple items)
  | set members =>
      cases h
      exact List.forall_mem_map.mpr fun s _ => ⟨s, rfl⟩
  | map entries =>
      cases h
      exact List.forall_mem_map.mpr fun entry _ => ⟨entry.1, rfl⟩
  | loop => cases h
  | scalar s =>
      cases s with
      | text s =>
          cases h
          exact List.forall_mem_map.mpr fun c _ => ⟨_, rfl⟩
      | bytes data =>
          cases h
          exact List.forall_mem_map.mpr fun b _ => ⟨_, rfl⟩
      | _ => cases h

/-- What counts as present has elements if it can be gone through. -/
theorem elements_ne_nil {value : Value} {elements : List Value} (hTruthy : value.isTruthy = true)
    (h : value.elements? = some elements) : elements ≠ [] := by
  rintro rfl
  cases value with
  | list items | tuple items =>
      cases h
      cases hTruthy
  | set members =>
      cases List.map_eq_nil_iff.mp (Option.some.inj h)
      cases hTruthy
  | map entries =>
      cases List.map_eq_nil_iff.mp (Option.some.inj h)
      cases hTruthy
  | loop => cases h
  | scalar s =>
      cases s with
      | text s =>
          have hEmpty : s = "" := by simpa [Value.elements?] using h
          subst hEmpty
          cases hTruthy
      | bytes data =>
          cases List.map_eq_nil_iff.mp (Option.some.inj h)
          cases hTruthy
      | _ => cases h

/-- A list of rules that begins with no mapping cannot be read. -/
theorem rulesIn_scalar {α : Type} {data : Mapping} {name : String} {s : Scalar}
    {rest : List Value} (hData : field? data name = some (.list (.scalar s :: rest)))
    (read : Value → Nat → Except SourceError α) {cause : SourceError}
    (hRead : read (.scalar s) 0 = .error cause) : Source.rulesIn data name read = .error cause := by
  have hItems : ∃ others, Source.items data name = .ok (.scalar s :: others) := by
    rw [Source.items, hData]
    exact ⟨_, rfl⟩
  obtain ⟨others, hItems⟩ := hItems
  rw [Source.rulesIn, hItems, ok_bind, List.zipIdx_cons, List.mapM_cons]
  dsimp only
  rw [hRead]
  rfl

theorem unreadable_rules {name : String} (hName : name ∈ listSections) (s : Scalar)
    (rest : List Value) : Unreadable name (.list (.scalar s :: rest)) := by
  intro data hData
  rcases List.mem_pair.mp hName with rfl | rfl
  · exact .access (rulesIn_scalar hData Source.accessSpec rfl)
  · exact .shell (rulesIn_scalar hData Source.shellSpec rfl)

/-- Rules that have not their shape are hidden if there are none, and merging stops at them if they
cannot be gone through. Otherwise their elements stand in the place of rules. -/
theorem accounts_rules {name : String} (hName : name ∈ listSections) :
    Accounts (name, mergeRules name) := by
  intro below above
  have hRules : name ∉ declarationSections := fun hOther => notMem_listSections name hOther hName
  have hOver := (listAt_meets name (some above)).explain
    fun cause hTold => (.inl hTold : Explained name below above cause)
  change Meets _ _ (mergeRules name below above)
  unfold mergeRules asItems
  cases hTruthy : below.isTruthy with
  | false =>
      refine hOver.bind fun _ hAbove => .ok fun _ => .inl ?_
      exact ⟨.rules hName hTruthy (hAbove above rfl), not_misshapen_list hName _⟩
  | true =>
      simp only [Bool.not_true, Bool.false_eq_true, if_false]
      split
      case h_1 items =>
        exact hOver.bind fun _ _ => .ok fun hMisshapen =>
          absurd hMisshapen (not_misshapen_list hName items)
      case h_2 hShape =>
        cases hElements : below.elements? with
        | none =>
          refine .error (.inr (.inl ⟨.list hName (isNull_of_isTruthy hTruthy) hShape,
            .rules hName hTruthy hElements⟩))
        | some elements =>
          by_cases hTuple : ∃ items, below = .tuple items
          · obtain ⟨items, rfl⟩ := hTuple
            exact hOver.bind fun _ hAbove => .ok fun _ =>
              .inl ⟨.tuple hName (hAbove above rfl), not_misshapen_list hName _⟩
          · rw [not_exists] at hTuple
            refine hOver.bind fun more _ =>
              .ok (settled_of_isTruthy hRules (fun _ => hTuple) hTruthy fun _ => ?_)
            obtain ⟨first, rest, rfl⟩ :=
              List.exists_cons_of_ne_nil (elements_ne_nil hTruthy hElements)
            obtain ⟨s, rfl⟩ := scalar_of_elements hElements hShape hTuple first List.mem_cons_self
            exact unreadable_rules hName s (rest ++ more)

/-- What comes before the approvers of a network: its text, which may be too long. -/
theorem networkText_meets (key : Scalar) :
    Meets (fun _ => True)
      (fun cause => cause.isTold = true ∨ ∃ reason, cause = .shape (.conversion reason))
      ((Source.textOf (.scalar key)).mapError OverlayError.shape) := by
  unfold Source.textOf
  cases (Value.scalar key).display with
  | error cause => exact .error (.inr ⟨_, rfl⟩)
  | ok s => exact .ok trivial

theorem routeEntries_meets (routes : Option Value) :
    Meets (fun _ => True)
      (fun cause => cause.isTold = true ∨ ∃ reason, cause = .shape (.conversion reason))
      (routeEntries routes) := by
  unfold routeEntries
  split
  · exact .ok trivial
  · split
    · exact .ok trivial
    · split
      · exact .mapM (fun (entry : Scalar × Value) => (networkText_meets entry.1).bind fun _ _ =>
          ((listAt_meets _ _).explain fun _ => .inl).bind fun _ _ => .ok trivial) _
      · exact ((listAt_meets _ _).explain fun _ => .inl).imp fun _ _ => trivial

/-- Approvers that have not their shape are hidden if there are none, and otherwise merging stops at
them. -/
theorem accounts_approvers : Accounts ("autoApprovers", mergeApprovers) := by
  intro below above
  change Meets _ _ (mergeApprovers below above)
  have hOver := (isMapping_of_mappingOf "autoApprovers" above).explain
    fun cause hTold => (.inl hTold : Explained "autoApprovers" below above cause)
  have hList (place : String) (found : Option Value) := (listAt_meets place found).explain
    fun cause hTold => (.inl hTold : Explained "autoApprovers" below above cause)
  have hRoutes (routes : Option Value) := (routeEntries_meets routes).explain fun cause h =>
    (h.imp_right (.inr ∘ .inr) : Explained "autoApprovers" below above cause)
  have hUnion {good : Value → Prop} (fields other : Mapping) (h : ∀ entries, good (.map entries)) :
      Meets good (Explained "autoApprovers" below above) (do
        let first ← listAt "autoApprovers.exitNode" (field? fields "exitNode")
        let second ← listAt "autoApprovers.exitNode" (field? other "exitNode")
        let routes ← routeEntries (field? fields "routes")
        let more ← routeEntries (field? other "routes")
        pure (.record
          [("exitNode", .list (union first second)), ("routes", .list (routes ++ more))])) :=
    (hList _ _).bind fun _ _ => (hList _ _).bind fun _ _ => (hRoutes _).bind fun _ _ =>
      (hRoutes _).bind fun _ _ => .ok (h _)
  unfold mergeApprovers
  refine hOver.bind fun fields hAbove => ?_
  cases hTruthy : below.isTruthy with
  | false =>
      exact hUnion [] fields fun entries _ =>
        .inl ⟨.options (by decide) hTruthy hAbove, not_misshapen_map (by decide) entries⟩
  | true =>
      simp only [Bool.not_true, Bool.false_eq_true, if_false]
      split
      case h_1 entries =>
        exact hUnion _ fields fun _ hMisshapen =>
          absurd hMisshapen (not_misshapen_map (by decide) entries)
      case h_2 hShape =>
        exact .error (.inr (.inl ⟨.mapping (by decide) (isNull_of_isTruthy hTruthy) hShape,
          .approvers hTruthy hAbove⟩))

theorem mergeValue_meets {merge : Mapping → Mapping → Except OverlayError Mapping}
    (h : ∀ base overlay, Meets (fun _ => True) (· = .endless) (merge base overlay))
    (below : Option Value) (above : Value) :
    Meets (fun _ => True) (· = .endless) (mergeValue merge below above) := by
  unfold mergeValue
  split
  case h_1 base overlay =>
    have hMerge := h base overlay
    generalize merge base overlay = result at hMerge ⊢
    cases hMerge with
    | ok => exact .ok trivial
    | error hCause => exact .error hCause
  case h_2 => exact .ok trivial

/-- Merging entries fails only if it has no end. -/
theorem mergeEntries_meets (depth : Nat) (base overlay : Mapping) :
    Meets (fun _ => True) (· = .endless) (mergeEntries depth base overlay) := by
  induction depth generalizing base overlay with
  | zero => exact .error rfl
  | succ depth ih =>
      exact .foldlM (fun _ _ _ => (mergeValue_meets ih _ _).bind fun _ _ => .ok trivial) trivial _

/-- A key without a position in a list fails for a reason that nobody is told. -/
theorem position?_meets (length : Nat) (key : Scalar) :
    Meets (fun i => position? length key = .ok i) (fun cause => cause.isTold = false)
      (position? length key) := by
  have hAt (i : Int) : Meets (fun _ => True) (fun cause => cause.isTold = false)
      (if 0 ≤ i ∧ i < length then .ok i.toNat else .error OverlayError.outOfRange) := by
    split
    · exact .ok trivial
    · exact .error rfl
  refine Meets.self (?_ : Meets (fun _ => True) _ _)
  cases key with
  | int n => exact hAt _
  | bool b => exact hAt _
  | _ => exact .error rfl

/-- An entry is put into a list, which keeps its length, if its key has a position there. -/
theorem mergeItem_meets (depth length : Nat) (entry : Scalar × Value) {items : List Value}
    (hLength : items.length = length) :
    Meets (fun next : List Value => next.length = length ∧ ∃ i, position? length entry.1 = .ok i)
      (fun cause => cause.isTold = false ∧
        (cause = .endless ∨ ¬∃ i, position? length entry.1 = .ok i))
      (mergeItem depth items entry) := by
  unfold mergeItem
  rw [hLength]
  cases hPosition : position? length entry.1 with
  | error cause =>
      have hCause := position?_meets length entry.1
      rw [hPosition] at hCause
      cases hCause with
      | error hCause => exact .error ⟨hCause, .inr fun ⟨_, h⟩ => nomatch h⟩
  | ok i =>
      refine ((mergeValue_meets (mergeEntries_meets depth) _ _).explain ?_).bind fun _ _ =>
        .ok ⟨by rw [List.length_set, hLength], i, rfl⟩
      rintro _ rfl
      exact ⟨rfl, .inl rfl⟩

/-- Entries are put into a list only if all keys have positions there. -/
theorem foldlM_mergeItem_meets (depth length : Nat) (entries : Mapping) {items : List Value}
    (hLength : items.length = length) :
    Meets (fun _ => Placed length entries)
      (fun cause => cause.isTold = false ∧ (cause = .endless ∨ ¬Placed length entries))
      (entries.foldlM (mergeItem depth) items) := by
  induction entries generalizing items with
  | nil => exact .ok (List.forall_mem_nil _)
  | cons entry rest ih =>
      rw [List.foldlM_cons]
      have hPlaced : Placed length (entry :: rest) ↔
          (∃ i, position? length entry.1 = .ok i) ∧ Placed length rest := List.forall_mem_cons
      rw [hPlaced]
      refine ((mergeItem_meets depth length entry hLength).explain fun _ h => ?_).bind
        fun next hNext => ?_
      · exact h.imp_right (Or.imp_right fun hNone hAll => hNone hAll.1)
      · refine ((ih hNext.1).imp fun _ hRest => ⟨hNext.2, hRest⟩).explain fun _ h => ?_
        exact h.imp_right (Or.imp_right fun hNone hAll => hNone hAll.2)

theorem unreadable_of_misshapen {name : String} {value : Value} (h : Misshapen name value) :
    Unreadable name value := fun _ hData => h.illegible hData

/-- Options that have not their shape are hidden if there are none. Otherwise merging stops at them,
or they keep their wrong shape. -/
theorem accounts_options : Accounts ("tailnet", mergeOptions) := by
  intro below above
  change Meets _ _ (mergeOptions below above)
  unfold mergeOptions
  refine ((mappingOf_meets "tailnet" above).explain fun _ => .inl).bind fun fields hFields => ?_
  have hAbove : above.IsMapping :=
    hFields.imp And.left fun ⟨entries, hEntries, _⟩ => ⟨entries, hEntries⟩
  have hStops (hTruthy : below.isTruthy = true) (hShape : ∀ entries, below ≠ .map entries)
      (hFilled : fields ≠ []) (hBelow : ∀ items, below = .list items →
        ¬Placed items.length fields) : ∀ cause, Explained "tailnet" below above cause := by
    rcases hFields with ⟨-, rfl⟩ | ⟨entries, rfl, hKeys⟩
    · exact absurd rfl hFilled
    · refine fun _ => .inr (.inl ⟨.mapping (by decide) (isNull_of_isTruthy hTruthy) hShape,
        .options hTruthy ?_ fun items hItems => ?_⟩)
      · rintro rfl
        exact hFilled (List.map_eq_nil_iff.mp hKeys)
      · rw [Placed, ← hKeys]
        exact hBelow items hItems
  have hEndless (entries : Mapping) {good : Value → Prop} (h : ∀ merged, good (.map merged)) :
      Meets good (Explained "tailnet" below above) (do
        return .map (← mergeEntries (depthLimit below (.map fields)) entries fields)) :=
    ((mergeEntries_meets _ _ _).explain fun _ hCause => .inr (.inr (.inl hCause))).bind
      fun _ _ => .ok (h _)
  dsimp only
  cases hTruthy : below.isTruthy with
  | false =>
      exact hEndless [] fun merged _ =>
        .inl ⟨.options (by decide) hTruthy hAbove, not_misshapen_map (by decide) merged⟩
  | true =>
      simp only [Bool.not_true, Bool.false_eq_true, if_false]
      split
      case h_1 entries =>
        exact hEndless entries fun _ hMisshapen =>
          absurd hMisshapen (not_misshapen_map (by decide) entries)
      case h_2 items =>
        have hItems := foldlM_mergeItem_meets (depthLimit (.list items) (.map fields)) items.length
          fields (length_itemsAlone items)
        refine (hItems.explain fun cause h => ?_).bind fun merged _ =>
          .ok (settled_of_isTruthy (by decide) nofun hTruthy fun _ => ?_)
        · rcases h with ⟨-, hCause | hNone⟩
          · exact .inr (.inr (.inl hCause))
          · refine hStops hTruthy nofun ?_ (fun _ h => (Value.list.inj h) ▸ hNone) cause
            rintro rfl
            exact hNone (List.forall_mem_nil _)
        · exact unreadable_of_misshapen (.mapping (by decide) rfl nofun)
      case h_3 hMap hList =>
        split
        · exact .ok (settled_of_isTruthy (by decide) (absurd · (by decide)) hTruthy
            unreadable_of_misshapen)
        · exact .error (hStops hTruthy nofun (List.cons_ne_nil _ _) nofun _)
        · exact .error (hStops hTruthy nofun (List.cons_ne_nil _ _) nofun _)
        · exact .error (hStops hTruthy hMap (List.cons_ne_nil _ _)
            (fun items h => absurd h (hList items)) _)

/-- A name always has its shape. -/
theorem accounts_name : Accounts ("name", fun _ name => .ok name) :=
  fun below _ => .ok fun (h : Misshapen "name" below) => by
    rcases h with ⟨hName, -, -⟩ | ⟨hName, -, -⟩
    · exact absurd hName (by decide)
    · exact absurd hName (by decide)

theorem accounts_sections : ∀ part ∈ sections, Accounts part := by
  simp only [sections, List.forall_mem_cons]
  exact ⟨accounts_name, accounts_declarations (by decide), accounts_declarations (by decide),
    accounts_declarations (by decide), accounts_rules (by decide), accounts_rules (by decide),
    accounts_approvers, accounts_options, List.forall_mem_nil _⟩

theorem exists_part_of_misshapen {name : String} {value : Value} (h : Misshapen name value) :
    ∃ part ∈ sections, part.1 = name := by
  refine List.mem_map.mp ?_
  cases h with
  | mapping hName => exact (by decide : mappingSections ⊆ sections.map Prod.fst) hName
  | list hName => exact (by decide : listSections ⊆ sections.map Prod.fst) hName

theorem Stops.isTruthy {name : String} {below above : Value} (h : Stops name below above) :
    below.isTruthy = true := by
  cases h <;> assumption

variable {base overlay : Mapping}

/-- A section that cannot be merged fails for a reason that is told, or else it has not its shape in
the base, or is merged without end, or has a network that cannot be shown. -/
theorem explained_of_fails {part : String × Merge} (hPart : part ∈ sections) {cause : OverlayError}
    (h : Fails base overlay part cause) :
    cause.isTold = true ∨ Meeting Stops base overlay part.1 ∨ cause = .endless ∨
      ∃ reason, cause = .shape (.conversion reason) := by
  obtain ⟨above, hAbove, hMerge⟩ := h
  have hExplained := accounts_sections part hPart ((field? base part.1).getD .null) above
  rw [hMerge] at hExplained
  cases hExplained with
  | error h =>
      refine h.imp_right (Or.imp_left fun ⟨hMisshapen, hStops⟩ => ?_)
      cases hBelow : field? base part.1 with
      | none =>
          rw [hBelow] at hStops
          cases hStops.isTruthy
      | some below =>
          rw [hBelow] at hMisshapen hStops
          exact ⟨below, above, hBelow, hAbove, hMisshapen, hStops⟩

/-- A section that has not its shape is hidden and then has it, or it keeps the merged data from
being read. -/
theorem hidden_or_illegible {merged : Mapping} (hMerge : merge base overlay = .ok merged)
    {name : String} {below : Value} (hBelow : field? base name = some below)
    (hMisshapen : Misshapen name below) :
    Meeting Hides base overlay name ∧
        (∀ value, field? merged name = some value → ¬Misshapen name value) ∨
      ¬Meeting Hides base overlay name ∧ Illegible merged := by
  obtain ⟨part, hPart, rfl⟩ := exists_part_of_misshapen hMisshapen
  have hSection := mergesAll_of_merge hMerge part hPart
  rw [hBelow] at hSection
  cases hAbove : field? overlay part.1 with
  | none =>
      rw [hAbove] at hSection
      refine .inr ⟨?_, hMisshapen.illegible hSection.eq_of_none⟩
      rintro ⟨_, above, -, hFound, -⟩
      cases hAbove.symm.trans hFound
  | some above =>
      rw [hAbove] at hSection
      generalize hFound : field? merged part.1 = found at hSection
      cases hSection with
      | @merged _ value hValue =>
          have hSettled : Settled part.1 below above value := by
            have hAccount := accounts_sections part hPart below above
            rw [show part.2 below above = _ from hValue] at hAccount
            cases hAccount with
            | ok h => exact h
          have hMeeting : Meeting Hides base overlay part.1 ↔ Hides part.1 below above := by
            constructor
            · rintro ⟨_, _, hOther, hSecond, -, hHides⟩
              cases hBelow.symm.trans hOther
              cases hAbove.symm.trans hSecond
              exact hHides
            · exact fun hHides => ⟨below, above, hBelow, hAbove, hMisshapen, hHides⟩
          rw [hMeeting]
          refine (hSettled hMisshapen).imp (.imp_right fun hShape other hOther => ?_)
            (.imp_right fun hUnreadable => hUnreadable merged hFound)
          cases hOther
          exact hShape

end Overlay

end Tailnet
