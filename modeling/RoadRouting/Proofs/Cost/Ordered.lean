import Mathlib.Algebra.Order.AddGroupWithTop
import RoadRouting.Cost

/-!
# Laws of travel costs

`Cost` names operations and promises nothing about them. What a search needs of them comes in two
strengths.

* `OrderedCost`: any two costs compare, and addition is monotone. Rounded addition of
  non-negative numbers obeys these laws.
* Exact addition with an infinity that absorbs everything: a `LinearOrderedAddCommMonoidWithTop`,
  which is an `OrderedCost` in the obvious way (`OrderedCost.ofExact`).
-/

namespace RoadRouting

/-- Costs any two of which compare, with a monotone addition. -/
class OrderedCost (W : Type) extends Cost W, Preorder W where
  le_or_le (a b : W) : a ≤ b ∨ b ≤ a
  rank_eq (a b : W) : rank a b = if a < b then .lt else if b < a then .gt else .eq
  le_infinity (a : W) : a ≤ infinity
  add_mono {a b : W} (h : a ≤ b) (w : W) : a + w ≤ b + w
  le_add {w : W} (h : 0 ≤ w) (a : W) : a ≤ a + w

namespace OrderedCost

variable {W : Type} [OrderedCost W] {a b : W}

theorem lt_of_not_le (h : ¬ a ≤ b) : b < a :=
  lt_iff_le_not_ge.mpr ⟨(le_or_le a b).resolve_left h, h⟩

theorem le_of_not_lt (h : ¬ a < b) : b ≤ a := by
  by_contra hba
  exact h (lt_of_not_le hba)

theorem rank_ne_gt_iff : Cost.rank a b ≠ .gt ↔ a ≤ b := by
  rw [rank_eq]
  split
  case isTrue h => simp [le_of_lt h]
  case isFalse h =>
    split
    case isTrue h' => simp [not_le_of_gt h']
    case isFalse h' => simp [le_of_not_lt h']

end OrderedCost

/-- Exact costs: the top of the order is the infinity. -/
instance (priority := 100) OrderedCost.ofExact {W : Type} [LinearOrderedAddCommMonoidWithTop W] :
    OrderedCost W where
  infinity := ⊤
  rank a b := if a < b then .lt else if b < a then .gt else .eq
  decideLT _ _ := inferInstance
  decideLE _ _ := inferInstance
  le_or_le := le_total
  rank_eq _ _ := rfl
  le_infinity _ := le_top
  add_mono h w := add_le_add_left h w
  le_add h _ := le_add_of_nonneg_right h

@[simp] theorem Cost.infinity_eq_top {W : Type} [LinearOrderedAddCommMonoidWithTop W] :
    (Cost.infinity : W) = ⊤ := rfl

namespace Cost

variable {W : Type} [LinearOrderedAddCommMonoidWithTop W] {a b : W}

theorem zero_lt_top_of_lt (h : a < ⊤) : (0 : W) < ⊤ := by
  refine lt_top_iff_ne_top.mpr fun hzero => lt_top_iff_ne_top.mp h ?_
  rw [← add_zero a, hzero, add_top]

theorem zero_lt_top [Nontrivial W] : (0 : W) < ⊤ := by
  obtain ⟨a, ha⟩ := exists_ne (⊤ : W)
  exact zero_lt_top_of_lt (lt_top_iff_ne_top.mpr ha)

/-- Finite costs have a finite sum. -/
theorem add_lt_top_iff : a + b < ⊤ ↔ a < ⊤ ∧ b < ⊤ := by
  constructor
  · intro h
    constructor
    · refine lt_top_iff_ne_top.mpr fun ha => ?_
      rw [ha, top_add] at h
      exact lt_irrefl _ h
    · refine lt_top_iff_ne_top.mpr fun hb => ?_
      rw [hb, add_top] at h
      exact lt_irrefl _ h
  · rintro ⟨ha, hb⟩
    have hlt := (add_lt_add_iff_right_of_ne_top (lt_top_iff_ne_top.mp ha)).mpr hb
    rwa [add_top] at hlt

end Cost

end RoadRouting
