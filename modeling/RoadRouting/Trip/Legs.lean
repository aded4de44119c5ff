import RoadRouting.Trip.Basic

/-!
# From nodes to road points

A search answers with nodes. The road points between two nodes in a row are those of a leg: a
stretch of one road that touches both nodes. Among all legs the cheapest is driven, and of equally
cheap ones the first.

* `Trip.candidates`: all legs between two lists of road points.
* `cheapest`: the choice among them, which asks for no cost while there is only one candidate.
* `Trip.roadPoints`: every road point on the way along a list of nodes.
-/

namespace RoadRouting

/-- A stretch of a road, driven from the offset `first` to the offset `last`. -/
structure Leg where
  road : Nat
  first : Nat
  last : Nat
deriving Repr, DecidableEq

namespace Leg

/-- The road point at which the leg begins. -/
def source (l : Leg) : RoadPoint := ⟨l.road, l.first⟩

/-- The road point at which the leg ends. -/
def target (l : Leg) : RoadPoint := ⟨l.road, l.last⟩

/-- The offsets on the way, without the first. -/
def offsets (l : Leg) : List Nat :=
  if l.first ≤ l.last then List.range' (l.first + 1) (l.last - l.first)
  else (List.range' l.last (l.first - l.last)).reverse

/-- The road points on the way, without the first. -/
def onward (l : Leg) : List RoadPoint := l.offsets.map (RoadPoint.mk l.road)

/-- The road points along legs in a row: each leg after the first leaves out the point at which it
    begins. -/
def roadPoints : List Leg → List RoadPoint
  | [] => []
  | l :: rest => l.source :: (l :: rest).flatMap onward

@[simp] theorem length_offsets (l : Leg) :
    l.offsets.length = (l.last - l.first) + (l.first - l.last) := by
  unfold offsets
  split <;> simp <;> omega

end Leg

/-- Why nodes in a row could not be turned into road points. -/
inductive LegError where
  /-- No road is driven from the one node to the other. -/
  | noCommonRoad (a b : Nat)
  /-- The cheapest leg begins and ends at the same road point. -/
  | standstill (p : RoadPoint)
  | missing (what : Missing)
deriving Repr, DecidableEq

/-- The text of a leg error. -/
def LegError.message : LegError → String
  | noCommonRoad a b => s!"can't find common feature for joints {a} and {b}"
  | standstill p =>
    s!"wrong equality point_from = point_to = {p.offset}, feature_id = {p.road}"
  | missing _ => "lookup out of range"

section Choice

variable {ε W : Type} [LT W] [DecidableLT W]

/-- The cheapest of `best` and the items that follow. The cost of `best` is computed when a second
    item turns up and is then `known`. -/
def cheapestFrom {α : Type} (cost : α → Except ε W) (best : α) (known : Option W) :
    List α → Except ε α
  | [] => .ok best
  | x :: rest => do
    let least ← match known with
      | some w => .ok w
      | none => cost best
    let w ← cost x
    if w < least then cheapestFrom cost x (some w) rest
    else cheapestFrom cost best (some least) rest

/-- The first item of least cost. -/
def cheapest {α : Type} (cost : α → Except ε W) : List α → Except ε (Option α)
  | [] => .ok none
  | x :: rest => do
    let best ← cheapestFrom cost x none rest
    .ok (some best)

end Choice

namespace Network

variable {K W : Type}

/-- The leg between two road points, if they lie on one road that is driven that way. -/
def leg? (net : Network K) (p q : RoadPoint) : Except Missing (Option Leg) :=
  if p.road = q.road then do
    let road ← net.road p.road
    if road.routable = true ∧ road.forbids p.offset q.offset = false then
      .ok (some ⟨p.road, p.offset, q.offset⟩)
    else .ok none
  else .ok none

/-- The cost of a leg. -/
def legCost (net : Network K) (est : Estimator K W) (l : Leg) : Except Missing W := do
  let road ← net.road l.road
  est.weight road l.first l.last

/-- The legs from one of the points `ps` to one of the points `qs`, by the first of these and then
    by the second. -/
def legs (net : Network K) (ps qs : List RoadPoint) : Except Missing (List Leg) := do
  let found ← (ps.flatMap fun p => qs.map fun q => (p, q)).mapM fun (p, q) => net.leg? p q
  .ok (found.filterMap id)

end Network

namespace Trip

variable {K W : Type}

/-- The legs between two nodes. -/
def candidates (t : Trip K) (a b : Nat) : Except Missing (List Leg) := do
  let ps ← t.points a
  let qs ← t.points b
  t.network.legs ps qs

variable [Cost W]

/-- The leg driven between two nodes: the first of the cheapest. -/
def leg (t : Trip K) (est : Estimator K W) (a b : Nat) : Except LegError Leg := do
  let legs ← (t.candidates a b).mapError .missing
  match ← (cheapest (t.network.legCost est) legs).mapError .missing with
  | some l => .ok l
  | none => .error (.noCommonRoad a b)

/-- The legs between nodes in a row. -/
def legs (t : Trip K) (est : Estimator K W) : List Nat → Except LegError (List Leg)
  | a :: b :: rest => do
    let l ← t.leg est a b
    if l.first = l.last then .error (.standstill l.source)
    else do
      let more ← legs t est (b :: rest)
      .ok (l :: more)
  | _ => .ok []

/-- Every road point on the way along nodes in a row. A single node is the start of the trip, which
    is then also its finish. -/
def roadPoints (t : Trip K) (est : Estimator K W) : List Nat → Except LegError (List RoadPoint)
  | [] => .ok []
  | [_] => .ok [t.start.point]
  | nodes => do
    let legs ← t.legs est nodes
    .ok (Leg.roadPoints legs)

end Trip

end RoadRouting
