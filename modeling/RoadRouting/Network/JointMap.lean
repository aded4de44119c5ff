import RoadRouting.Edge
import RoadRouting.Road
import Std.Data.TreeMap

/-!
# The joints of road points

A `JointMap` tells which joint a road point belongs to, and which joints come next along a road
in either direction. Only points that belong to a joint are stored.

* `JointMap.assign`: gives a road point to a joint and tells which joint had it.
* `JointMap.find?`: the joint of a road point.
* `JointMap.after?`, `JointMap.before?`: the nearest joint strictly beyond a point and strictly
  before it.
-/

namespace RoadRouting

/-- A joint on a road: the offset of the road point that belongs to it. -/
structure Milestone where
  offset : Nat
  joint : Nat
deriving Repr, DecidableEq

/-- The joints along one road, by increasing offset. -/
structure Milestones where
  marks : List Milestone
  sorted : marks.Pairwise (·.offset < ·.offset) := by simp

namespace Milestones

/-- A road without joints. -/
def empty : Milestones := { marks := [] }

/-- The joint at an offset. -/
def find? (m : Milestones) (offset : Nat) : Option Nat :=
  (m.marks.find? (·.offset == offset)).map (·.joint)

/-- The joints before an offset. -/
def below (m : Milestones) (offset : Nat) : List Milestone := m.marks.filter (·.offset < offset)

/-- The joints beyond an offset. -/
def above (m : Milestones) (offset : Nat) : List Milestone := m.marks.filter (offset < ·.offset)

theorem lt_of_mem_below {m : Milestones} {offset : Nat} {x : Milestone} (h : x ∈ m.below offset) :
    x.offset < offset := by
  simpa using (List.mem_filter.mp h).2

theorem lt_of_mem_above {m : Milestones} {offset : Nat} {x : Milestone} (h : x ∈ m.above offset) :
    offset < x.offset := by
  simpa using (List.mem_filter.mp h).2

/-- Puts a joint at an offset, or clears the offset. -/
def put (m : Milestones) (offset : Nat) (joint : Option Nat) : Milestones where
  marks := m.below offset ++ (joint.map (Milestone.mk offset)).toList ++ m.above offset
  sorted := by
    have hb := m.sorted.filter (·.offset < offset)
    have ha := m.sorted.filter (offset < ·.offset)
    cases joint with
    | none =>
      simp only [Option.map_none, Option.toList_none, List.append_nil]
      exact List.pairwise_append.mpr ⟨hb, ha, fun x hx y hy =>
        Nat.lt_trans (lt_of_mem_below hx) (lt_of_mem_above hy)⟩
    | some j =>
      simp only [Option.map_some, Option.toList_some, List.append_assoc, List.singleton_append]
      refine List.pairwise_append.mpr
        ⟨hb, List.pairwise_cons.mpr ⟨fun _ hy => lt_of_mem_above hy, ha⟩, ?_⟩
      intro x hx y hy
      rcases List.mem_cons.mp hy with rfl | hy
      · exact lt_of_mem_below hx
      · exact Nat.lt_trans (lt_of_mem_below hx) (lt_of_mem_above hy)

/-- The nearest joint strictly beyond an offset. -/
def after? (m : Milestones) (offset : Nat) : Option Milestone := (m.above offset).head?

/-- The nearest joint strictly before an offset. -/
def before? (m : Milestones) (offset : Nat) : Option Milestone := (m.below offset).getLast?

end Milestones

/-- The joints of road points, road by road. -/
structure JointMap where
  roads : Std.TreeMap Nat Milestones

namespace JointMap

/-- No road point belongs to a joint. -/
def empty : JointMap := ⟨∅⟩

/-- The joints along a road. -/
def along (m : JointMap) (road : Nat) : Milestones := m.roads.getD road .empty

/-- The joint that a road point belongs to. -/
def find? (m : JointMap) (p : RoadPoint) : Option Nat := (m.along p.road).find? p.offset

/-- Gives a road point to a joint, or to none, whoever had it. -/
def set (m : JointMap) (p : RoadPoint) (joint : Option Nat) : JointMap :=
  ⟨m.roads.insert p.road ((m.along p.road).put p.offset joint)⟩

/-- Gives a road point to the joint of a number, and tells which joint had it. The number that
    stands for no joint takes the point away. -/
def assign (m : JointMap) (p : RoadPoint) (joint : Nat) : JointMap × Option Nat :=
  (m.set p (named? joint), m.find? p)

/-- The nearest joint strictly beyond a road point, in the forward direction of the road. -/
def after? (m : JointMap) (p : RoadPoint) : Option Milestone := (m.along p.road).after? p.offset

/-- The nearest joint strictly before a road point. -/
def before? (m : JointMap) (p : RoadPoint) : Option Milestone := (m.along p.road).before? p.offset

theorem along_set (m : JointMap) (p : RoadPoint) (joint : Option Nat) (road : Nat) :
    (m.set p joint).along road =
      if p.road = road then (m.along p.road).put p.offset joint else m.along road := by
  simp [along, set, Std.TreeMap.getD_insert]

end JointMap

end RoadRouting
