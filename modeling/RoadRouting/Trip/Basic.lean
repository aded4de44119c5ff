import RoadRouting.Network.Edges
import RoadRouting.Search.Graph

/-!
# Trips between road points

A trip joins two road points to a network: its start and its finish. An endpoint that lies on a
joint is that joint. Any other endpoint becomes a node of its own under a number that no joint of
the network has, with edges to the joints around it on its road. The network stays as it is.

* `Trip.between`: the trip between two road points.
* `Trip.edges`: the edges of a joint or an endpoint.
* `Trip.graph`: the graph that a search for the trip sees.
-/

namespace RoadRouting

/-- The start or the finish of a trip. -/
structure Endpoint where
  point : RoadPoint
  /-- The number reserved for this endpoint, which no joint of the network has. -/
  reserved : Nat
  /-- The node that stands for the endpoint: the joint at its point, or the reserved number. -/
  node : Nat
deriving Repr, DecidableEq

namespace Endpoint

/-- The endpoint at a road point, which may lie on a joint. -/
def place (point : RoadPoint) (reserved : Nat) (joint : Option Nat) : Endpoint :=
  ⟨point, reserved, joint.getD reserved⟩

/-- The endpoint is a node of its own. -/
def isVirtual (e : Endpoint) : Bool := e.node == e.reserved

end Endpoint

/-- A network with the two endpoints of a trip. -/
structure Trip (K : Type) where
  network : Network K
  start : Endpoint
  finish : Endpoint

namespace Trip

variable {K W : Type}

/-- The trip between two road points. The numbers after those of the joints are reserved for the
    endpoints. If both are the same point, they are the same node. -/
def between (net : Network K) (p q : RoadPoint) : Trip K :=
  let start := Endpoint.place p net.joints.count (net.owners.find? p)
  let joint := if p = q then some start.node else net.owners.find? q
  ⟨net, start, .place q (net.joints.count + 1) joint⟩

/-- The number of joints together with the two reserved numbers. -/
def nodeCount (t : Trip K) : Nat := t.network.joints.count + 2

/-- The road points of a node. A reserved number has the point of its endpoint. -/
def points (t : Trip K) (node : Nat) : Except Missing (List RoadPoint) :=
  if node = t.start.reserved then .ok [t.start.point]
  else if node = t.finish.reserved then .ok [t.finish.point]
  else t.network.joints.points node

/-- The coordinates of a node. -/
def geometry (t : Trip K) (node : Nat) : Except Missing (GeoPoint K) :=
  if node = t.start.reserved then t.network.geometry t.start.point
  else if node = t.finish.reserved then t.network.geometry t.finish.point
  else t.network.jointGeometry node

/-- The edges of an endpoint: to the joints around it, and straight to the other endpoint if that
    is a node of its own on the same road. -/
def departures (t : Trip K) (est : Estimator K W) (self other : Endpoint) (d : Direction) :
    Except Missing (List (Edge W)) := do
  let around ← t.network.neighbours est self.point d
  let straight ←
    if other.isVirtual = true ∧ self.point.road = other.point.road then
      t.network.direct est self.point.road self.point.offset other.point.offset other.node d
    else .ok []
  .ok (around ++ straight)

/-- The edges between a joint and an endpoint on one of its roads, listed at the joint: those that
    the endpoint lists towards the joint on its opposite side. -/
def arrivals (t : Trip K) (est : Estimator K W) (joint : Nat) (e : Endpoint) (d : Direction) :
    Except Missing (List (Edge W)) :=
  if e.isVirtual then do
    if ← t.network.liesOn joint e.point.road then
      let around ← t.network.neighbours est e.point d.opposite
      .ok (around.filterMap fun edge =>
        if edge.target = joint then some ⟨e.node, edge.weight⟩ else none)
    else .ok []
  else .ok []

/-- The edges of a node: of an endpoint under its reserved number, or of a joint. A joint lists
    the edges of the network first, then those to the start and those to the finish. -/
def edges (t : Trip K) (est : Estimator K W) (d : Direction) (node : Nat) :
    Except Missing (List (Edge W)) :=
  if node = t.start.reserved then t.departures est t.start t.finish d
  else if node = t.finish.reserved then t.departures est t.finish t.start d
  else do
    let own ← t.network.edges est d node
    let toStart ← t.arrivals est node t.start d
    let toFinish ← t.arrivals est node t.finish d
    .ok (own ++ toStart ++ toFinish)

/-- The graph that a search for the trip sees. -/
def graph (t : Trip K) (est : Estimator K W) : Graph Missing W where
  nodes := t.start.reserved :: t.finish.reserved :: List.range t.network.joints.count
  edges := t.edges est
  edges_eq_nil := by
    intro d n es hn h
    simp only [List.mem_cons, List.mem_range, not_or, Nat.not_lt] at hn
    obtain ⟨hs, hf, hj⟩ := hn
    simp [edges, hs, hf, Network.edges_error hj, bind, Except.bind] at h

/-- A lower bound of the cost between two nodes, by their coordinates. -/
def bound (t : Trip K) (est : Estimator K W) (goal node : Nat) : Except Missing W := do
  let p ← t.geometry node
  let q ← t.geometry goal
  .ok (est.bound p q)

end Trip

end RoadRouting
