import RoadRouting.Cost

/-!
# Edges between joints

An edge list belongs to a joint and to a direction: the edges that leave the joint, with the
joints they lead to, or the edges that arrive at it, with the joints they come from.
-/

namespace RoadRouting

/-- The side of a joint for which edges are listed. -/
inductive Direction where
  /-- Edges that leave the joint. -/
  | outgoing
  /-- Edges that arrive at the joint. -/
  | incoming
deriving Repr, DecidableEq

namespace Direction

/-- The other side. -/
def opposite : Direction → Direction
  | outgoing => incoming
  | incoming => outgoing

@[simp] theorem opposite_opposite (d : Direction) : d.opposite.opposite = d := by
  cases d <;> rfl

theorem eq_or_eq_opposite (d d' : Direction) : d' = d ∨ d' = d.opposite := by
  cases d <;> cases d' <;> simp [opposite]

end Direction

/-- An edge as listed at one of its ends: the other end and the cost. -/
structure Edge (W : Type) where
  target : Nat
  weight : W
deriving Repr, DecidableEq

/-- The largest 64-bit number stands for the absence of a joint, so it names none. -/
def noJoint : Nat := 18446744073709551615

/-- The joint of a number, unless the number stands for the absence of one. -/
def named? (joint : Nat) : Option Nat := if joint = noJoint then none else some joint

theorem named?_of_ne {joint : Nat} (h : joint ≠ noJoint) : named? joint = some joint :=
  if_neg h

theorem eq_of_named? {joint n : Nat} (h : named? joint = some n) : joint = n := by
  unfold named? at h
  split at h
  · cases h
  · exact Option.some.inj h

end RoadRouting
