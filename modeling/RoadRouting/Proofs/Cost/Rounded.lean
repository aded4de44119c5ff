import Mathlib.Data.ENat.Basic
import RoadRouting.Proofs.Cost.Ordered

/-!
# Rounded costs

A machine adds two numbers by rounding their exact sum to a number that it can hold. Rounding keeps
the order of numbers and leaves alone what needs no rounding. This is all that a search asks for: the
numbers that can be held obey the laws of `OrderedCost`, although their addition is not associative.

* `Rounding`: how sums are rounded.
* `Rounded`: the numbers that need no rounding, with the rounded sum.
* `Rounding.leadingBits`: numbers of so many binary digits, of any size.
-/

namespace RoadRouting

/-- A way of rounding: it keeps the order, and what was rounded needs no more rounding. -/
structure Rounding (W : Type) [LinearOrderedAddCommMonoidWithTop W] where
  round : W → W
  mono : Monotone round
  round_round : ∀ a, round (round a) = round a
  round_zero : round 0 = 0
  round_top : round ⊤ = ⊤

/-- The numbers that need no rounding. -/
def Rounded {W : Type} [LinearOrderedAddCommMonoidWithTop W] (r : Rounding W) : Type :=
  {a : W // r.round a = a}

namespace Rounded

variable {W : Type} [LinearOrderedAddCommMonoidWithTop W]

/-- The number to which `a` is rounded. -/
def fit (r : Rounding W) (a : W) : Rounded r := ⟨r.round a, r.round_round a⟩

/-- Sums are rounded, and the infinity is not. -/
instance instOrderedCost (r : Rounding W) : OrderedCost (Rounded r) where
  zero := ⟨0, r.round_zero⟩
  add a b := fit r (a.val + b.val)
  infinity := ⟨⊤, r.round_top⟩
  le a b := a.val ≤ b.val
  lt a b := a.val < b.val
  rank a b := if a.val < b.val then .lt else if b.val < a.val then .gt else .eq
  decideLT _ _ := inferInstanceAs (Decidable (_ < _))
  decideLE _ _ := inferInstanceAs (Decidable (_ ≤ _))
  le_refl a := le_refl a.val
  le_trans _ _ _ h h' := le_trans h h'
  lt_iff_le_not_ge _ _ := lt_iff_le_not_ge
  le_or_le a b := le_total a.val b.val
  rank_eq _ _ := rfl
  le_infinity _ := le_top
  add_mono h w := r.mono (add_le_add_left h w.val)
  le_add {w} h a := by
    have hw : 0 ≤ w.val := h
    calc a.val = r.round a.val := a.property.symm
      _ ≤ r.round (a.val + w.val) := r.mono (le_add_of_nonneg_right hw)

end Rounded

namespace Rounding

/-! ## Numbers of so many binary digits -/

/-- The number with its first `p + 1` binary digits kept and the others cleared. -/
def truncate (p n : ℕ) : ℕ := n / 2 ^ (n.log2 - p) * 2 ^ (n.log2 - p)

variable {p n m : ℕ}

theorem truncate_le : truncate p n ≤ n := Nat.div_mul_le_self _ _

/-- The first digit is kept. -/
theorem two_pow_log2_le_truncate (hn : n ≠ 0) : 2 ^ n.log2 ≤ truncate p n := by
  have hsplit : 2 ^ (n.log2 - (n.log2 - p)) * 2 ^ (n.log2 - p) = 2 ^ n.log2 := by
    rw [← pow_add, Nat.sub_add_cancel (Nat.sub_le _ _)]
  rw [truncate, ← hsplit]
  refine Nat.mul_le_mul_right _ ((Nat.le_div_iff_mul_le (Nat.two_pow_pos _)).mpr ?_)
  rw [hsplit]
  exact Nat.log2_self_le hn

theorem log2_truncate : (truncate p n).log2 = n.log2 := by
  by_cases hn : n = 0
  · subst hn
    simp [truncate]
  · have hfirst := two_pow_log2_le_truncate (p := p) hn
    have hne : truncate p n ≠ 0 := by
      have := Nat.two_pow_pos n.log2
      omega
    exact (Nat.log2_eq_iff hne).mpr ⟨hfirst, Nat.lt_of_le_of_lt truncate_le Nat.lt_log2_self⟩

theorem truncate_truncate (n : ℕ) : truncate p (truncate p n) = truncate p n := by
  rw [truncate, log2_truncate, truncate, Nat.mul_div_cancel _ (Nat.two_pow_pos _)]

theorem truncate_mono (p : ℕ) : Monotone (truncate p) := by
  intro n m hnm
  by_cases hn : n = 0
  · subst hn
    simp [truncate]
  have hm : m ≠ 0 := by omega
  rcases Nat.lt_or_ge n.log2 m.log2 with hlt | hge
  · -- the smaller number has fewer digits
    calc truncate p n ≤ n := truncate_le
      _ ≤ 2 ^ (n.log2 + 1) := Nat.le_of_lt Nat.lt_log2_self
      _ ≤ 2 ^ m.log2 := Nat.pow_le_pow_right (by omega) hlt
      _ ≤ truncate p m := two_pow_log2_le_truncate hm
  · have hdigits : n.log2 = m.log2 := by
      refine Nat.le_antisymm ((Nat.le_log2 hm).mpr ?_) hge
      exact Nat.le_trans (Nat.log2_self_le hn) hnm
    rw [truncate, truncate, hdigits]
    exact Nat.mul_le_mul_right _ (Nat.div_le_div_right hnm)

/-- Multiples of the least positive number, of which the first `p + 1` binary digits are kept. -/
def leadingBits (p : ℕ) : Rounding ℕ∞ where
  round := WithTop.map (truncate p)
  mono := (truncate_mono p).withTop_map
  round_round a := by
    cases a with
    | top => rfl
    | coe n => exact congrArg (fun m : ℕ => (m : ℕ∞)) (truncate_truncate n)
  round_zero := by
    show ((truncate p 0 : ℕ) : ℕ∞) = 0
    simp [truncate]
  round_top := rfl

end Rounding

end RoadRouting
