import RoadRouting.Search.Frontier
import RoadRouting.Search.Graph
import RoadRouting.Search.Labels

/-!
# Best-first search

The search with an estimate of the remaining cost, known as A*. It takes the entry of least
estimated total from the frontier, settles its node, and offers every neighbour the way through
it. A settled node is never reopened, and a frontier entry that is no longer the best of its node
is passed over. With the estimate zero this is Dijkstra's search.

* `BestFirst.step`: one entry taken from the frontier.
* `BestFirst.search`: steps until the goal is settled or the frontier is empty.
* `dijkstra`: the search that estimates nothing.
-/

namespace RoadRouting.Search

variable {ε : Type} {W : Type} [Cost W]

namespace BestFirst

/-- What the search holds between two steps. -/
structure State (W : Type) where
  frontier : Frontier W
  labels : Labels W
  /-- The number of settled nodes. -/
  visited : Nat

/-- What a step leads to. -/
inductive Progress (W : Type) where
  | running (state : State W)
  | arrived (path : Path W)
  | exhausted

/-- The nodes from the origin to `node` along parents. -/
def pathTo (labels : Labels W) (node : Nat) : List Nat := (node :: labels.trail node).reverse

/-- Offers the far end of an edge the way through the settled entry `via`. The offer is accepted
    when that end is not settled and the way is cheaper than the one known. -/
def relax (estimate : Nat → Except ε W) (via : Entry W) (s : State W) (edge : Edge W) :
    Except ε (State W) :=
  let label := s.labels.of edge.target
  let cost := via.cost + edge.weight
  if label.settled = false ∧ cost < label.cost then do
    let rest ← estimate edge.target
    .ok { s with
      labels := s.labels.insert edge.target ⟨cost, named? via.node, false⟩
      frontier := s.frontier.push ⟨edge.target, cost, cost + rest⟩ }
  else .ok s

/-- The entry is stale: its node is settled, or a cheaper way to it is known. -/
def isStale (labels : Labels W) (e : Entry W) : Bool :=
  (labels.of e.node).settled || decide ((labels.of e.node).cost < e.cost)

/-- The state after `e` left the frontier, which keeps `rest`, and its node was settled. -/
def settle (s : State W) (e : Entry W) (rest : Frontier W) : State W where
  frontier := rest
  labels := s.labels.insert e.node { s.labels.of e.node with settled := true }
  visited := s.visited + 1

/-- Takes one entry from the frontier. -/
def step (g : Graph ε W) (estimate : Nat → Except ε W) (goal : Nat) (s : State W) :
    Except ε (Progress W) :=
  match s.frontier with
  | [] => .ok .exhausted
  | e :: rest =>
    if isStale s.labels e then .ok (.running { s with frontier := rest })
    else
      let s := settle s e rest
      if e.node = goal then .ok (.arrived ⟨pathTo s.labels goal, e.cost, s.visited⟩)
      else do
        let edges ← g.edges .outgoing e.node
        let s ← edges.foldlM (relax estimate e) s
        .ok (.running s)

/-- At most `steps` steps. -/
def run (g : Graph ε W) (estimate : Nat → Except ε W) (goal : Nat) :
    (steps : Nat) → State W → Except ε (Option (Path W))
  | 0, _ => .ok none
  | steps + 1, s => do
    match ← step g estimate goal s with
    | .running s => run g estimate goal steps s
    | .arrived path => .ok (some path)
    | .exhausted => .ok none

/-- The state before the first step: the frontier holds the start. -/
def init (start : Nat) (rest : W) : State W := ⟨[⟨start, 0, rest⟩], .start start, 0⟩

/-- Every edge puts at most one entry into the frontier, and each step takes one out. -/
def stepBound (g : Graph ε W) : Nat := 1 + g.edgeCount .outgoing

/-- The path to the goal, absent when the goal is not reached. The estimate is that of the cost
    from a node to the goal. -/
def search (g : Graph ε W) (estimate : Nat → Except ε W) (start goal : Nat) :
    Except ε (Option (Path W)) := do
  let rest ← estimate start
  run g estimate goal (stepBound g) (init start rest)

end BestFirst

/-- Dijkstra's search: best-first without an estimate. -/
def dijkstra (g : Graph ε W) (start goal : Nat) : Except ε (Option (Path W)) :=
  BestFirst.search g (fun _ => .ok 0) start goal

end RoadRouting.Search
