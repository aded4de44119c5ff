import RoadRouting.Search.Frontier
import RoadRouting.Search.Graph
import RoadRouting.Search.Labels

/-!
# Search from both ends

Two searches by cost run towards each other: one over outgoing edges from the start, one over
incoming edges from the goal. Whenever one of them finds a way to a node, the way is joined with
what the other knows of that node. The node at which the cheapest whole way was joined is the
meeting node. The searches stop when their next entries together cost no less than that way.

* `TwoSided.State.next?`: the side that takes the next step.
* `TwoSided.step`: one entry taken on one side.
* `TwoSided.search`: steps until no side is chosen.
-/

namespace RoadRouting.Search.TwoSided

variable {ε : Type} {W : Type} [Cost W]

/-- The search on one side. -/
structure Side (W : Type) where
  frontier : Frontier W
  labels : Labels W

/-- A side that has only met its origin. -/
def Side.start (origin : Nat) : Side W := ⟨[⟨origin, 0, 0⟩], .start origin⟩

/-- Both sides and the cheapest way joined so far. -/
structure State (W : Type) where
  /-- From the start over outgoing edges. -/
  forward : Side W
  /-- From the goal over incoming edges. -/
  backward : Side W
  meeting : Option Nat
  best : W
  /-- The number of settled nodes, both sides together. -/
  visited : Nat

namespace State

/-- The side that follows edges of the given direction. -/
def side (s : State W) : Direction → Side W
  | .outgoing => s.forward
  | .incoming => s.backward

/-- Replaces the side that follows edges of the given direction. -/
def withSide (s : State W) : Direction → Side W → State W
  | .outgoing, side => { s with forward := side }
  | .incoming, side => { s with backward := side }

/-- The side whose next entry costs less takes the next step, the forward side if they cost the
    same. The search is over when both next entries together, or the only one, cost no less than
    the best way joined. -/
def next? (s : State W) : Option Direction :=
  match s.forward.frontier.nextCost?, s.backward.frontier.nextCost? with
  | none, none => none
  | some f, some b =>
    if s.best ≤ f + b then none
    else if f ≤ b then some .outgoing
    else some .incoming
  | some f, none => if f < s.best then some .outgoing else none
  | none, some b => if b < s.best then some .incoming else none

/-- Records the way through `node` if it is cheaper than the best way joined. -/
def join (s : State W) (node : Nat) (total : W) : State W :=
  if total < s.best then { s with meeting := named? node, best := total } else s

end State

/-- Offers the far end of an edge the way through the settled entry `via` on one side. The offer
    is passed over when that end is settled there or the way costs no less than the one known. -/
def relax (d : Direction) (via : Entry W) (s : State W) (edge : Edge W) : State W :=
  let side := s.side d
  let label := side.labels.of edge.target
  let cost := via.cost + edge.weight
  if label.settled = true ∨ label.cost ≤ cost then s
  else
    let side : Side W :=
      { labels := side.labels.insert edge.target ⟨cost, named? via.node, label.settled⟩
        frontier := side.frontier.push ⟨edge.target, cost, cost⟩ }
    (s.withSide d side).join edge.target
      (cost + ((s.side d.opposite).labels.of edge.target).cost)

/-- Takes one entry from the frontier of a side and settles its node, unless the entry is
    stale. -/
def step (g : Graph ε W) (d : Direction) (s : State W) : Except ε (State W) :=
  let side := s.side d
  match side.frontier with
  | [] => .ok s
  | e :: rest =>
    let label := side.labels.of e.node
    if label.settled = true ∨ label.cost < e.cost then
      .ok (s.withSide d { side with frontier := rest })
    else do
      let edges ← g.edges d e.node
      let side : Side W := ⟨rest, side.labels.insert e.node { label with settled := true }⟩
      let s := edges.foldl (relax d e) (s.withSide d side)
      .ok { s with visited := s.visited + 1 }

/-- At most `steps` steps. -/
def run (g : Graph ε W) : (steps : Nat) → State W → Except ε (State W)
  | 0, s => .ok s
  | steps + 1, s =>
    match s.next? with
    | none => .ok s
    | some d => do run g steps (← step g d s)

/-- The state before the first step. A start that is the goal is the meeting node of a way that
    costs nothing. -/
def init (start goal : Nat) : State W where
  forward := .start start
  backward := .start goal
  meeting := if start = goal then named? start else none
  best := if start = goal then 0 else Cost.infinity
  visited := 0

/-- Every edge puts at most one entry into the frontier of its side, and each step takes one
    out. -/
def stepBound (g : Graph ε W) : Nat := 2 + g.edgeCount .outgoing + g.edgeCount .incoming

/-- The way from the start to `meeting` and on to the goal. -/
def State.pathVia (s : State W) (meeting : Nat) : List Nat :=
  (s.forward.labels.trail meeting).reverse ++ meeting :: s.backward.labels.trail meeting

/-- The path to the goal, absent when the two sides never met. -/
def search (g : Graph ε W) (start goal : Nat) : Except ε (Option (Path W)) := do
  let s ← run g (stepBound g) (init start goal)
  .ok (s.meeting.map fun meeting => ⟨s.pathVia meeting, s.best, s.visited⟩)

end RoadRouting.Search.TwoSided
