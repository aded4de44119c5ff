import RoadRouting.Proofs.Cost.Ordered

/-!
# Costs that can be sorted

A frontier sorts whatever it holds. What that takes of costs is less than that any two of them
compare: a value that is no number is neither below nor above another one, and still has a place in
the order `Cost.rank`. Nothing is said of sums here.

* `RankedCost`: costs with an order for frontiers, and a strict order below infinity.
* `OrderedCost.instRanked`: costs any two of which compare are of this kind.
-/

namespace RoadRouting

/-- Costs that can be sorted. Whatever is below some other cost is below infinity. -/
class RankedCost (W : Type) [Cost W] : Prop where
  lt_irrefl (a : W) : ¬ a < a
  lt_trans {a b c : W} (hab : a < b) (hbc : b < c) : a < c
  lt_infinity {a b : W} (hab : a < b) : a < Cost.infinity
  rank_trans : Std.TransCmp (Cost.rank : W → W → Ordering)

attribute [instance] RankedCost.rank_trans

namespace OrderedCost

variable {W : Type} [OrderedCost W] {a b : W}

theorem isLE_rank_iff : (Cost.rank a b).isLE = true ↔ a ≤ b := by
  rw [← rank_ne_gt_iff, Ordering.isLE_iff_ne_gt]

theorem swap_rank (a b : W) : (Cost.rank a b).swap = Cost.rank b a := by
  rw [rank_eq, rank_eq]
  by_cases hab : a < b
  · simp [hab, lt_asymm hab]
  · by_cases hba : b < a <;> simp [hab, hba]

instance instRanked : RankedCost W where
  lt_irrefl := lt_irrefl
  lt_trans := lt_trans
  lt_infinity hab := lt_of_lt_of_le hab (le_infinity _)
  rank_trans :=
    { eq_swap := (swap_rank _ _).symm
      isLE_trans := by
        simp only [isLE_rank_iff]
        exact le_trans }

end OrderedCost

end RoadRouting
