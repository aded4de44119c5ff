import RoadRouting.Edge

/-!
# Graphs for searching

A search sees a graph through the edge lists of its nodes. Producing a list may fail: then the
search fails in the same way.

* `Graph.edgeCount`: the number of edges listed over all nodes on one side. It bounds the work of
  a search, since every node is settled at most once.
* `Path`: what a search answers.
-/

namespace RoadRouting

/-- A graph whose edge lists may fail with an error of type `ε`. Only the listed nodes have
    edges. -/
structure Graph (ε : Type) (W : Type) where
  nodes : List Nat
  edges : Direction → Nat → Except ε (List (Edge W))
  edges_eq_nil : ∀ {d n es}, n ∉ nodes → edges d n = .ok es → es = []

namespace Graph

variable {ε : Type} {W : Type}

/-- The edges of a node, none where they cannot be listed. -/
def edgesOrNone (g : Graph ε W) (d : Direction) (n : Nat) : List (Edge W) :=
  match g.edges d n with
  | .ok es => es
  | .error _ => []

/-- The number of edges that the nodes of the graph list on one side. -/
def edgeCount (g : Graph ε W) (d : Direction) : Nat :=
  (g.nodes.flatMap (g.edgesOrNone d)).length

/-- The graph of a list of arcs `(from, to, weight)`. Every node lists its arcs in their order. -/
def ofArcs (arcs : List (Nat × Nat × W)) : Graph ε W where
  nodes := arcs.map (·.1) ++ arcs.map (·.2.1)
  edges
    | .outgoing, n => .ok (arcs.filterMap fun a => if a.1 = n then some ⟨a.2.1, a.2.2⟩ else none)
    | .incoming, n => .ok (arcs.filterMap fun a => if a.2.1 = n then some ⟨a.1, a.2.2⟩ else none)
  edges_eq_nil := by
    intro d n es hn h
    simp only [List.mem_append, List.mem_map, not_or, not_exists, not_and] at hn
    cases d <;> (
      simp only [Except.ok.injEq] at h
      subst h
      rw [List.filterMap_eq_nil_iff]
      intro a ha
      exact if_neg (by first | exact hn.1 a ha | exact hn.2 a ha))

end Graph

namespace Search

/-- The answer of a search: the joints from the start to the goal, the cost of going along them,
    and the number of nodes that the search settled. -/
structure Path (W : Type) where
  joints : List Nat
  weight : W
  visited : Nat
deriving Repr, DecidableEq

end Search

end RoadRouting
