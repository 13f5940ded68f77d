import Tailnet.Proofs.Overlay.Misshapen

/-!
Where merging stops. Each section of the base that is said to stop it does, and nobody is told.
-/

namespace Tailnet.Overlay

open Source (mappingSections listSections Misshapen)

/-- Where merging is said to stop, a section fails for a reason that nobody is told. -/
def Untold (part : String × Merge) : Prop :=
  ∀ below above, Misshapen part.1 below → Stops part.1 below above →
    ∃ cause, part.2 below above = .error cause ∧ cause.isTold = false

theorem untold_declarations {name : String} (hName : name ∈ declarationSections) :
    Untold (name, mergeDeclarations name) := by
  intro below above _ h
  change Stops name below above at h
  cases h with
  | @declarations _ _ _ cause _ hTruthy hBelow =>
      refine ⟨.pairs cause, ?_, rfl⟩
      change mergeDeclarations name below above = _
      rw [mergeDeclarations, asMapping, hTruthy, hBelow]
      rfl
  | rules hOther =>
      exact absurd hOther (notMem_listSections name hName)
  | approvers => exact absurd hName (by decide)
  | options => exact absurd hName (by decide)

theorem untold_rules {name : String} (hName : name ∈ listSections) :
    Untold (name, mergeRules name) := by
  intro below above _ h
  change Stops name below above at h
  cases h with
  | declarations hOther =>
      exact absurd hName (notMem_listSections name hOther)
  | rules _ hTruthy hBelow =>
      refine ⟨.unusable, ?_, rfl⟩
      change mergeRules name below above = _
      have hItems : asItems below = .error .unusable := by
        cases below with
        | list items => cases hBelow
        | _ => simp [asItems, hTruthy, hBelow]
      rw [mergeRules, hItems]
      rfl
  | approvers => exact absurd hName (by decide)
  | options => exact absurd hName (by decide)

theorem exists_mappingOf (name : String) {above : Value} (h : above.IsMapping) :
    ∃ fields, mappingOf name above = .ok fields := by
  rcases h with rfl | ⟨entries, rfl⟩
  · exact ⟨_, rfl⟩
  · exact ⟨_, rfl⟩

theorem untold_approvers : Untold ("autoApprovers", mergeApprovers) := by
  intro below above hMisshapen h
  change Misshapen "autoApprovers" below at hMisshapen
  change Stops "autoApprovers" below above at h
  generalize hName : "autoApprovers" = name at h
  cases h with
  | declarations hOther => exact absurd (hName ▸ hOther) (by decide)
  | rules hOther => exact absurd (hName ▸ hOther) (by decide)
  | options => exact absurd hName (by decide)
  | approvers hTruthy hAbove =>
      obtain ⟨fields, hFields⟩ := exists_mappingOf "autoApprovers" hAbove
      refine ⟨.withoutFields, ?_, rfl⟩
      change mergeApprovers below above = _
      rw [mergeApprovers, hFields, ok_bind, hTruthy]
      simp only [Bool.not_true, Bool.false_eq_true, if_false]
      split
      case h_1 entries => exact absurd hMisshapen (not_misshapen_map (by decide) entries)
      case h_2 => rfl

theorem isTold_refusal (data : List UInt8) (key : Scalar) :
    (refusal data key).isTold = false := by
  have hLook (n : Int) : (if n < 0 ∨ 256 ≤ n then OverlayError.byteRange
      else if data.contains (UInt8.ofNat n.toNat) ∧ data.length ≤ n.toNat then .outOfRange
      else .unusable).isTold = false := by
    split
    · rfl
    · split <;> rfl
  cases key with
  | int n => exact hLook n
  | bool b => exact hLook _
  | _ => rfl

theorem isTold_tupleRefusal (depth : Nat) (items : List Value) (entry : Scalar × Value) :
    (tupleRefusal depth items entry).isTold = false := by
  have hLength : items.length = items.length := rfl
  have hItem := mergeItem_meets depth items.length entry hLength
  unfold tupleRefusal
  generalize mergeItem depth items entry = result at hItem
  split
  · cases hItem with
    | ok => rfl
    | error h => exact h.1
  · rfl

theorem untold_options : Untold ("tailnet", mergeOptions) := by
  intro below above hMisshapen h
  change Misshapen "tailnet" below at hMisshapen
  change Stops "tailnet" below above at h
  change ∃ cause, mergeOptions below above = .error cause ∧ _
  generalize hName : "tailnet" = name at h
  cases h with
  | declarations hOther => exact absurd (hName ▸ hOther) (by decide)
  | rules hOther => exact absurd (hName ▸ hOther) (by decide)
  | approvers => exact absurd hName (by decide)
  | @options _ entries hTruthy hEntries hBelow =>
      have hFields : mappingOf "tailnet" (.map entries) = .ok (Value.entriesAlone entries) := rfl
      have hKeys := Value.keys_entriesAlone entries
      rw [mergeOptions, hFields, ok_bind, hTruthy]
      generalize Value.entriesAlone entries = fields at hKeys
      have hFilled : fields ≠ [] := by
        rintro rfl
        exact hEntries (List.map_eq_nil_iff.mp hKeys.symm)
      simp only [Bool.not_true, Bool.false_eq_true, if_false]
      cases below with
      | map others => exact absurd hMisshapen (not_misshapen_map (by decide) others)
      | list items =>
          have hItems := foldlM_mergeItem_meets (depthLimit (.list items) (.map fields))
            items.length fields (length_itemsAlone items)
          have hNone : ¬Placed items.length fields := by
            rw [Placed, hKeys]
            exact hBelow items rfl
          dsimp only
          generalize fields.foldlM (mergeItem (depthLimit (.list items) (.map fields)))
            (Value.itemsAlone items) = result at hItems ⊢
          cases hItems with
          | ok hPlaced => exact absurd hPlaced hNone
          | error h => exact ⟨_, rfl, h.1⟩
      | tuple items =>
          obtain ⟨entry, rest, rfl⟩ := List.exists_cons_of_ne_nil hFilled
          exact ⟨_, rfl, isTold_tupleRefusal _ items entry⟩
      | set | loop =>
          obtain ⟨entry, rest, rfl⟩ := List.exists_cons_of_ne_nil hFilled
          exact ⟨_, rfl, rfl⟩
      | scalar s =>
          obtain ⟨entry, rest, rfl⟩ := List.exists_cons_of_ne_nil hFilled
          cases s with
          | bytes data => exact ⟨_, rfl, isTold_refusal data entry.1⟩
          | _ => exact ⟨_, rfl, rfl⟩

theorem untold_sections : ∀ part ∈ sections, Untold part := by
  simp only [sections, List.forall_mem_cons]
  have hName : Untold ("name", fun _ name => .ok name) := by
    rintro below above (⟨hName, -, -⟩ | ⟨hName, -, -⟩)
    · exact absurd hName (by decide)
    · exact absurd hName (by decide)
  exact ⟨hName, untold_declarations (by decide), untold_declarations (by decide),
    untold_declarations (by decide), untold_rules (by decide), untold_rules (by decide),
    untold_approvers, untold_options, List.forall_mem_nil _⟩

end Tailnet.Overlay
