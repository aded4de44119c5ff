import RoadRouting.Network.Basic

/-!
# Joints in vectors

The index of a network holds the joints of road points in vectors, one for each road that was written,
with a number for each offset. A vector only grows up to the offset that is written, and the gaps are
filled with the number that stands for no joint. Writing that number takes a point away from its joint.

* `RoadJointIds`: the vector of one road.
* `RoadIndex.addJoint`: writes the joint of a road point and tells which joint had it.
* `RoadIndex.jointId?`: the joint of a road point.
* `RoadIndex.neighbour?`: the nearest joint strictly beyond a point or strictly before it.
* `RoadIndex.ofJoints`: the index of the joints of a network.
-/

namespace RoadRouting

/-- The numbers of the joints along one road, by offset. -/
structure RoadJointIds where
  ids : Array Nat
deriving Repr

namespace RoadJointIds

/-- A road without joints. -/
def empty : RoadJointIds := ⟨#[]⟩

/-- The joint at an offset. Offsets past the end have none. -/
def jointId? (r : RoadJointIds) (offset : Nat) : Option Nat := r.ids[offset]?.bind named?

/-- The vector, filled up to the offset if it ends before. -/
def upTo (r : RoadJointIds) (offset : Nat) : Array Nat :=
  if r.ids.size ≤ offset then r.ids ++ Array.replicate (offset + 1 - r.ids.size) noJoint
  else r.ids

theorem lt_size_upTo (r : RoadJointIds) (offset : Nat) : offset < (r.upTo offset).size := by
  unfold upTo
  split
  · rw [Array.size_append, Array.size_replicate]
    omega
  · omega

/-- Writes a joint at an offset and tells which joint was there. -/
def addJoint (r : RoadJointIds) (offset joint : Nat) : RoadJointIds × Option Nat :=
  let (previous, ids) := (r.upTo offset).swapAt offset joint (r.lt_size_upTo offset)
  (⟨ids⟩, named? previous)

/-- All offsets of the vector with their numbers, those without a joint included. -/
def marks (r : RoadJointIds) : List Milestone := r.ids.toList.mapIdx Milestone.mk

/-- The offset has a joint. -/
def isJoint (m : Milestone) : Bool := m.joint != noJoint

/-- The nearest joint strictly beyond an offset, or strictly before it. -/
def neighbour? (r : RoadJointIds) (offset : Nat) (forward : Bool) : Option Milestone :=
  if forward then (r.marks.drop (offset + 1)).find? isJoint
  else (r.marks.take (min offset r.ids.size)).reverse.find? isJoint

end RoadJointIds

/-- The vectors of the roads that were written. -/
structure RoadIndex where
  roads : Std.TreeMap Nat RoadJointIds

namespace RoadIndex

/-- Nothing was written. -/
def empty : RoadIndex := ⟨∅⟩

/-- Writes the joint of a road point and tells which joint had it. -/
def addJoint (index : RoadIndex) (p : RoadPoint) (joint : Nat) : RoadIndex × Option Nat :=
  let (ids, previous) := (index.roads.getD p.road .empty).addJoint p.offset joint
  (⟨index.roads.insert p.road ids⟩, previous)

/-- The joint of a road point. -/
def jointId? (index : RoadIndex) (p : RoadPoint) : Option Nat :=
  index.roads[p.road]?.bind (·.jointId? p.offset)

/-- The nearest joint on the road strictly beyond a road point, or strictly before it. -/
def neighbour? (index : RoadIndex) (p : RoadPoint) (forward : Bool) : Option Milestone :=
  index.roads[p.road]?.bind (·.neighbour? p.offset forward)

section Import

variable {K : Type}

/-- Registers a road point for a joint. It is written first, and only then refused if another joint
    had it. -/
def attach (roads : Array (Road K)) (joint : Nat) (index : RoadIndex) (p : RoadPoint) :
    Except ImportError RoadIndex :=
  match roads[p.road]? with
  | none => .error (.unknownRoad joint p.road)
  | some road =>
    if road.points.size ≤ p.offset then .error (.outsideRoad joint p)
    else match index.addJoint p joint with
      | (_, some first) => .error (.sharedPoint p first joint)
      | (written, none) => .ok written

/-- Registers the points of a joint. -/
def attachAll (roads : Array (Road K)) (index : RoadIndex) (entry : List RoadPoint × Nat) :
    Except ImportError RoadIndex :=
  if entry.1.isEmpty then .error (.emptyJoint entry.2)
  else entry.1.foldlM (attach roads entry.2) index

/-- The index of joints that are numbered by their positions, or the first thing wrong with them. -/
def ofJoints (roads : Array (Road K)) (joints : List (List RoadPoint)) :
    Except ImportError RoadIndex :=
  joints.zipIdx.foldlM (attachAll roads) .empty

end Import

end RoadIndex

end RoadRouting
