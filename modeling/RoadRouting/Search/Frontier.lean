import RoadRouting.Cost

/-!
# The frontier of a search

A frontier holds the entries that a search has yet to take, in the order in which it will take
them. Entries are never removed when a cheaper one for the same node arrives: the search passes
over those that have gone stale.

* `Entry.order`: smaller estimated total first, then smaller cost so far, then larger node.
* `Frontier.push`: insertion that keeps the order.
-/

namespace RoadRouting.Search

variable {W : Type}

/-- A node waiting in a frontier: the cost of the way that was found to it, and that cost with
    the estimate of what remains. -/
structure Entry (W : Type) where
  node : Nat
  cost : W
  total : W
deriving Repr, DecidableEq

/-- `a.order b` is `lt` when `a` is taken before `b`. Only equal entries tie. -/
def Entry.order [Cost W] (a b : Entry W) : Ordering :=
  (Cost.rank a.total b.total).then
    ((Cost.rank a.cost b.cost).then (compare b.node a.node))

/-- Entries in the order in which they are taken. -/
abbrev Frontier (W : Type) := List (Entry W)

namespace Frontier

theorem front_mem {f rest : Frontier W} {e : Entry W} (h : f = e :: rest) : e ∈ f := by
  rw [h]
  exact List.mem_cons_self

theorem mem_of_mem_rest {f rest : Frontier W} {e x : Entry W} (h : f = e :: rest) (hx : x ∈ rest) :
    x ∈ f := by
  rw [h]
  exact List.mem_cons_of_mem e hx

variable [Cost W]

/-- Puts an entry before the first one that is not taken before it. -/
def push (e : Entry W) : Frontier W → Frontier W
  | [] => [e]
  | x :: rest => if x.order e = .lt then x :: push e rest else e :: x :: rest

/-- The cost of the entry taken next. -/
def nextCost? (f : Frontier W) : Option W := f.head?.map (·.cost)

theorem push_perm (e : Entry W) (f : Frontier W) : (push e f).Perm (e :: f) := by
  induction f with
  | nil => exact .refl _
  | cons x rest ih =>
    unfold push
    split
    · exact (ih.cons x).trans (.swap e x rest)
    · exact .refl _

@[simp] theorem length_push (e : Entry W) (f : Frontier W) :
    (push e f).length = f.length + 1 :=
  (push_perm e f).length_eq

theorem mem_push {e x : Entry W} {f : Frontier W} : x ∈ push e f ↔ x = e ∨ x ∈ f := by
  rw [(push_perm e f).mem_iff, List.mem_cons]

end Frontier

end RoadRouting.Search
