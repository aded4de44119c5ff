import RoadRouting.Proofs.Cost.Ranked
import RoadRouting.Search.Frontier

/-!
# The order of a frontier

Entries are taken by their estimated total, then by their cost, then by the larger node. This order
is total and transitive when costs can be sorted, and a frontier stays sorted.

* `Frontier.Sorted.push`: insertion keeps a frontier sorted.
* `Entry.NotAfter.node_eq`: entries of which neither is taken before the other are for one node.
* `Entry.notAfter_iff`: the order, one component after the other, when any two costs compare.
-/

namespace RoadRouting

namespace Search

section Order

variable {W : Type} [Cost W] {a b c e : Entry W} {f : Frontier W}

/-- `a` need not be taken after `b`. -/
def Entry.NotAfter (a b : Entry W) : Prop := a.order b ≠ .gt

theorem Entry.notAfter_iff_isLE : a.NotAfter b ↔ (a.order b).isLE = true :=
  Ordering.isLE_iff_ne_gt.symm

theorem Entry.NotAfter.of_order_eq_lt (h : a.order b = .lt) : a.NotAfter b := by
  rw [NotAfter, h]
  decide

/-- No entry is taken before an earlier one. -/
def Frontier.Sorted (f : Frontier W) : Prop := f.Pairwise Entry.NotAfter

theorem Frontier.Sorted.uncons {rest : Frontier W} (h : Frontier.Sorted f) (hf : f = e :: rest) :
    (∀ x ∈ rest, e.NotAfter x) ∧ Frontier.Sorted rest := by
  rw [hf] at h
  exact List.pairwise_cons.mp h

variable [RankedCost W]

instance Entry.order_trans : Std.TransCmp (Entry.order : Entry W → Entry W → Ordering) :=
  have : Std.TransCmp fun a b : Entry W => Cost.rank a.total b.total :=
    { eq_swap := RankedCost.rank_trans.eq_swap
      isLE_trans := RankedCost.rank_trans.isLE_trans }
  have : Std.TransCmp fun a b : Entry W => Cost.rank a.cost b.cost :=
    { eq_swap := RankedCost.rank_trans.eq_swap
      isLE_trans := RankedCost.rank_trans.isLE_trans }
  inferInstanceAs (Std.TransCmp (compareLex (fun a b : Entry W => Cost.rank a.total b.total)
    (compareLex (fun a b => Cost.rank a.cost b.cost) fun a b => compareOn Entry.node b a)))

theorem Entry.NotAfter.refl (a : Entry W) : a.NotAfter a :=
  notAfter_iff_isLE.mpr Std.ReflCmp.isLE_rfl

theorem Entry.NotAfter.trans (hab : a.NotAfter b) (hbc : b.NotAfter c) : a.NotAfter c := by
  rw [notAfter_iff_isLE] at *
  exact Std.TransCmp.isLE_trans hab hbc

theorem Entry.NotAfter.of_order_ne_lt (h : a.order b ≠ .lt) : b.NotAfter a :=
  fun hgt => h (Std.OrientedCmp.gt_iff_lt.mp hgt)

/-- The node is the last thing by which entries are told apart. -/
theorem Entry.NotAfter.node_eq (hab : a.NotAfter b) (hba : b.NotAfter a) : a.node = b.node := by
  rw [notAfter_iff_isLE] at hab hba
  have heq : a.order b = .eq := Std.OrientedCmp.isLE_antisymm hab hba
  rw [order, Ordering.then_eq_eq, Ordering.then_eq_eq, Nat.compare_eq_eq] at heq
  exact heq.2.2.symm

theorem Frontier.Sorted.head_notAfter {rest : Frontier W} (h : Frontier.Sorted f)
    (hf : f = e :: rest) (hx : b ∈ f) : e.NotAfter b := by
  rw [hf] at hx
  rcases List.mem_cons.mp hx with rfl | hx
  · exact .refl b
  · exact (h.uncons hf).1 b hx

theorem Frontier.Sorted.push (h : Frontier.Sorted f) (e : Entry W) :
    Frontier.Sorted (Frontier.push e f) := by
  induction f with
  | nil => exact List.pairwise_singleton _ _
  | cons x rest ih =>
    obtain ⟨hx, hrest⟩ := List.pairwise_cons.mp h
    unfold Frontier.push
    split
    case isTrue hlt =>
      refine List.pairwise_cons.mpr ⟨fun y hy => ?_, ih hrest⟩
      rcases Frontier.mem_push.mp hy with rfl | hy
      · exact .of_order_eq_lt hlt
      · exact hx y hy
    case isFalse hlt =>
      have hex : e.NotAfter x := .of_order_ne_lt hlt
      refine List.pairwise_cons.mpr ⟨fun y hy => ?_, h⟩
      rcases List.mem_cons.mp hy with rfl | hy
      · exact hex
      · exact hex.trans (hx y hy)

end Order

section Ordered

open OrderedCost

variable {W : Type} [OrderedCost W] {a b e : Entry W} {f rest : Frontier W}

/-- A lexicographic order that begins with a comparison of costs. -/
theorem rank_then_ne_gt_iff {x y : W} {o : Ordering} :
    (Cost.rank x y).then o ≠ .gt ↔ x ≤ y ∧ (y ≤ x → o ≠ .gt) := by
  rw [rank_eq]
  split
  case isTrue h => simp [Ordering.then, le_of_lt h, not_le_of_gt h]
  case isFalse h =>
    split
    case isTrue h' => simp [Ordering.then, not_le_of_gt h']
    case isFalse h' => simp [Ordering.then, le_of_not_lt h, le_of_not_lt h']

theorem Entry.notAfter_iff : a.NotAfter b ↔ a.total ≤ b.total ∧ (b.total ≤ a.total →
    a.cost ≤ b.cost ∧ (b.cost ≤ a.cost → b.node ≤ a.node)) := by
  rw [NotAfter, order, rank_then_ne_gt_iff, rank_then_ne_gt_iff, Nat.compare_ne_gt]

/-- The entry in front has the least total, and the least cost among those of the same total. -/
theorem Frontier.Sorted.head_le (h : Frontier.Sorted f) (hf : f = e :: rest) {x : Entry W}
    (hx : x ∈ f) : e.total ≤ x.total ∧ (x.total ≤ e.total → e.cost ≤ x.cost) := by
  have hex := Entry.notAfter_iff.mp (h.head_notAfter hf hx)
  exact ⟨hex.1, fun hxe => (hex.2 hxe).1⟩

end Ordered

end Search

end RoadRouting
