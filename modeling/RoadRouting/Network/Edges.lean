import RoadRouting.Edge
import RoadRouting.Estimator
import RoadRouting.Network.Basic

/-!
# Edges between joints

From a point of a road the edges lead to the nearest joint before it and to the nearest joint
beyond it, as far as the direction of the road allows. The edges of a joint are those of its road
points, in their order.

* `Network.neighbours`: the edges at a road point.
* `Network.edges`: the edges of a joint.
* `Network.direct`: the edge between two points of one road.
-/

namespace RoadRouting.Network

variable {K W : Type}

/-- The edge from a road point to a joint on its road, if there is one. -/
def edgeTo (est : Estimator K W) (road : Road K) (p : RoadPoint) :
    Option Milestone → Except Missing (List (Edge W))
  | none => .ok []
  | some m => do
    let weight ← est.weight road p.offset m.offset
    .ok [⟨m.joint, weight⟩]

/-- The edges at a road point: to the nearest joint before it, then to the nearest joint beyond
    it. On a one-way road the joint before it is only seen among incoming edges and the joint
    beyond it only among outgoing ones. -/
def neighbours (net : Network K) (est : Estimator K W) (p : RoadPoint) (d : Direction) :
    Except Missing (List (Edge W)) := do
  let road ← net.road p.road
  if road.routable then
    let back ←
      if d = .incoming ∨ road.oneWay = false then edgeTo est road p (net.owners.before? p)
      else .ok []
    let ahead ←
      if d = .outgoing ∨ road.oneWay = false then edgeTo est road p (net.owners.after? p)
      else .ok []
    .ok (back ++ ahead)
  else .ok []

/-- The edges of a joint, road point by road point. -/
def edges (net : Network K) (est : Estimator K W) (d : Direction) (joint : Nat) :
    Except Missing (List (Edge W)) := do
  let points ← net.joints.points joint
  let lists ← points.mapM fun p => net.neighbours est p d
  .ok lists.flatten

/-- The edge to `target` that runs along one road from offset `a` to offset `b`, or is seen from
    `a` as arriving from `b`. There is none if the road is not driven that way. -/
def direct (net : Network K) (est : Estimator K W) (number a b target : Nat) (d : Direction) :
    Except Missing (List (Edge W)) := do
  let road ← net.road number
  if road.routable = false then .ok []
  else if road.oneWay = true ∧ ¬(d = .outgoing ↔ a < b) then .ok []
  else do
    let weight ← est.weight road a b
    .ok [⟨target, weight⟩]

theorem edges_error {net : Network K} {est : Estimator K W} {d : Direction} {joint : Nat}
    (h : net.joints.count ≤ joint) : net.edges est d joint = .error (.joint joint) := by
  have : net.joints.points joint = .error (.joint joint) := by
    unfold JointTable.points
    rw [Array.getElem?_eq_none (by simpa [JointTable.count] using h)]
  simp [edges, this, bind, Except.bind]

end RoadRouting.Network
