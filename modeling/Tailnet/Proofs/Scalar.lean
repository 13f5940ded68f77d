import Tailnet.Value.Basic

/-!
Scalars as keys. Being the same key is symmetric and transitive, although not every scalar is the
same key as itself: the undefined number is not, unless it comes from a document.
-/

namespace Tailnet

namespace Scalar

open Float.Model (UnpackedFloat)
open Float.Model.UnpackedFloat (notANumber zero)

/-- Numbers are equal if they are one number or both zero. The undefined one equals nothing. -/
theorem compare_eq_some_eq_iff {x y : UnpackedFloat} :
    x.compare y = some .eq ↔
      x ≠ notANumber ∧ (x = y ∨ (∃ s, x = zero s) ∧ ∃ t, y = zero t) := by
  have hThen (d e : Int) (m n : Nat) :
      (compare d e).then (compare m n) = .eq ↔ d = e ∧ m = n := by
    rw [Ordering.then_eq_eq, Std.compare_eq_iff_eq, Std.compare_eq_iff_eq]
  constructor
  · intro h
    cases x with
    | notANumber => cases h
    | zero s =>
        cases y with
        | zero t => exact ⟨nofun, .inr ⟨⟨s, rfl⟩, t, rfl⟩⟩
        | finite t n e => cases t <;> cases h
        | infinity t => cases t <;> cases h
        | notANumber => cases h
    | infinity s =>
        cases y with
        | infinity t =>
            cases s <;> cases t
            case negative.positive | positive.negative => cases h
            all_goals exact ⟨nofun, .inl rfl⟩
        | _ => cases s <;> cases h
    | finite s m d =>
        cases y with
        | finite t n e =>
            cases s <;> cases t
            case negative.positive | positive.negative => cases h
            case negative.negative =>
              obtain ⟨rfl, rfl⟩ := (hThen d e m n).mp (Ordering.swap_eq_eq.mp (Option.some.inj h))
              exact ⟨nofun, .inl rfl⟩
            case positive.positive =>
              obtain ⟨rfl, rfl⟩ := (hThen d e m n).mp (Option.some.inj h)
              exact ⟨nofun, .inl rfl⟩
        | zero t => cases s <;> cases h
        | infinity t => cases t <;> cases h
        | notANumber => cases s <;> cases h
  · rintro ⟨hDefined, rfl | ⟨⟨s, rfl⟩, t, rfl⟩⟩
    · cases x with
      | notANumber => exact absurd rfl hDefined
      | zero s => rfl
      | infinity s => cases s <;> rfl
      | finite s m d =>
          have hSame : (compare d d).then (compare m m) = .eq := (hThen d d m m).mpr ⟨rfl, rfl⟩
          cases s
          · exact congrArg some (Ordering.swap_eq_eq.mpr hSame)
          · exact congrArg some hSame
    · rfl

theorem float_beq_iff {x y : Float} :
    (x == y) = true ↔ x.toModel.unpack.compare y.toModel.unpack = some .eq := by
  change (x.toModel.unpack.compare y.toModel.unpack == some .eq) = true ↔ _
  exact beq_iff_eq

instance : PartialEquivBEq Float where
  symm {x y} h := by
    rw [float_beq_iff, compare_eq_some_eq_iff] at h ⊢
    obtain ⟨hDefined, hEq | ⟨⟨s, hLeft⟩, t, hRight⟩⟩ := h
    · exact ⟨hEq ▸ hDefined, .inl hEq.symm⟩
    · exact ⟨hRight ▸ nofun, .inr ⟨⟨t, hRight⟩, s, hLeft⟩⟩
  trans {x y z} h hNext := by
    rw [float_beq_iff, compare_eq_some_eq_iff] at h hNext ⊢
    obtain ⟨hDefined, hEq | ⟨hLeft, t, hMiddle⟩⟩ := h
    · exact hEq ▸ hNext
    · refine ⟨hDefined, .inr ⟨hLeft, ?_⟩⟩
      obtain ⟨-, hEq | ⟨-, hRight⟩⟩ := hNext
      · exact ⟨t, hEq ▸ hMiddle⟩
      · exact hRight

/-- Scalars that are no integers are the same key if they are equal. Only for floats and times does
that say more than that they are one. -/
inductive Alike : Scalar → Scalar → Prop where
  | float {x y : Float} (h : (x == y) = true) : Alike (.float x) (.float y)
  | time {m n : Moment} (hOffset : m.offset.isSome = n.offset.isSome)
      (hElapsed : m.elapsed = n.elapsed) : Alike (.time m) (.time n)
  | refl {a : Scalar} (h : ∀ x, a ≠ .float x) : Alike a a

theorem same_iff_alike {a b : Scalar} (hLeft : a.integer? = none) (hRight : b.integer? = none) :
    same a b = true ↔ Alike a b := by
  unfold same
  rw [hLeft, hRight]
  dsimp only
  constructor
  · intro h
    split at h
    case h_2 => exact .float h
    case h_4 | h_5 | h_6 => exact eq_of_beq h ▸ .refl nofun
    case h_7 =>
      rw [Moment.same, Bool.and_eq_true, beq_iff_eq, beq_iff_eq] at h
      exact .time h.1 h.2
    case h_8 => cases h
    all_goals exact .refl nofun
  · intro h
    cases h with
    | float h => exact h
    | time hOffset hElapsed => simp [Moment.same, hOffset, hElapsed]
    | refl h => cases a with
      | float x => exact absurd rfl (h x)
      | bool | int => cases hLeft
      | _ => simp [Moment.same]

theorem beq_iff {a b : Scalar} :
    (a == b) = true ↔
      a.integer? = b.integer? ∧ (a.integer? = none → b.integer? = none → Alike a b) := by
  change same a b = true ↔ _
  cases hLeft : a.integer? with
  | some m => cases hRight : b.integer? <;> simp [same, hLeft, hRight]
  | none =>
      cases hRight : b.integer? with
      | some n => simp [same, hLeft, hRight]
      | none => simp [same_iff_alike hLeft hRight]

instance : PartialEquivBEq Scalar where
  symm {a b} h := by
    rw [beq_iff] at h ⊢
    refine ⟨h.1.symm, fun hRight hLeft => ?_⟩
    cases h.2 hLeft hRight with
    | float hEq => exact .float (BEq.symm hEq)
    | time hOffset hElapsed => exact .time hOffset.symm hElapsed.symm
    | refl hForm => exact .refl hForm
  trans {a b c} h hNext := by
    rw [beq_iff] at h hNext ⊢
    refine ⟨h.1.trans hNext.1, fun hLeft hRight => ?_⟩
    have hMiddle : b.integer? = none := h.1 ▸ hLeft
    cases h.2 hLeft hMiddle with
    | float hEq =>
        cases hNext.2 hMiddle hRight with
        | float hEqNext => exact .float (BEq.trans hEq hEqNext)
        | refl => exact .float hEq
    | time hOffset hElapsed =>
        cases hNext.2 hMiddle hRight with
        | time hOffsetNext hElapsedNext =>
            exact .time (hOffset.trans hOffsetNext) (hElapsed.trans hElapsedNext)
        | refl => exact .time hOffset hElapsed
    | refl => exact hNext.2 hMiddle hRight

end Scalar

end Tailnet
