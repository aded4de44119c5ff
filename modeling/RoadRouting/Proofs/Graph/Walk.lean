import Mathlib.Order.Bounds.Defs
import RoadRouting.Proofs.Cost.Ordered
import RoadRouting.Search.Graph

/-!
# Walks in a graph

A walk follows listed edges from an origin on one side of a graph. Its cost is that of its edges,
added from the first on to the zero at the origin.

* `Graph.Walk`: walks with the nodes they visit and their cost.
* `Graph.Domain`: a set of nodes that list their edges, none of which leads out of the set.
* `Graph.Mirrored`: the edges that arrive at a node are those that leave for it.
* `Graph.Walk.glue`: in a mirrored graph, a walk over outgoing edges and one over incoming edges
  that end at the same node are the two parts of one walk.
* `Graph.Cheapest`: the answer that a search owes.
-/

namespace RoadRouting

variable {ε W : Type}

/-- The weights of those of some edges that lead to a node. -/
def Edge.weightsTo (target : Nat) (edges : List (Edge W)) : List W :=
  (edges.filter (·.target = target)).map (·.weight)

theorem Edge.mem_weightsTo {v : Nat} {edges : List (Edge W)} {w : W} :
    w ∈ Edge.weightsTo v edges ↔ ⟨v, w⟩ ∈ edges := by
  simp only [Edge.weightsTo, List.mem_map, List.mem_filter, decide_eq_true_eq]
  constructor
  · rintro ⟨⟨_, _⟩, ⟨he, rfl⟩, rfl⟩
    exact he
  · intro he
    exact ⟨⟨v, w⟩, ⟨he, rfl⟩, rfl⟩

namespace Graph

theorem edgesOrNone_eq {g : Graph ε W} {d : Direction} {n : Nat} {es : List (Edge W)}
    (h : g.edges d n = .ok es) : g.edgesOrNone d n = es := by
  simp only [edgesOrNone, h]

/-- A set of nodes that list their edges on both sides and that no edge leaves. -/
structure Domain (g : Graph ε W) (P : Nat → Prop) : Prop where
  lists : ∀ {n}, P n → ∀ d, ∃ es, g.edges d n = .ok es
  stays : ∀ {n}, P n → ∀ {d e}, e ∈ g.edgesOrNone d n → P e.target

theorem Domain.edges_eq {g : Graph ε W} {P : Nat → Prop} (h : g.Domain P) {n : Nat} (hn : P n)
    (d : Direction) : g.edges d n = .ok (g.edgesOrNone d n) := by
  obtain ⟨es, hes⟩ := h.lists hn d
  rw [edgesOrNone_eq hes, hes]

/-- Between any two nodes of a set, the weights of the edges that leave the one for the other are
    those of the edges that arrive at the other from the one. -/
def Mirrored (g : Graph ε W) (P : Nat → Prop) : Prop :=
  ∀ u v, P u → P v →
    (Edge.weightsTo v (g.edgesOrNone .outgoing u)).Perm
      (Edge.weightsTo u (g.edgesOrNone .incoming v))

theorem Mirrored.mem_iff {g : Graph ε W} {P : Nat → Prop} (h : g.Mirrored P) {u v : Nat}
    (hu : P u) (hv : P v) {w : W} :
    ⟨v, w⟩ ∈ g.edgesOrNone .outgoing u ↔ ⟨u, w⟩ ∈ g.edgesOrNone .incoming v := by
  rw [← Edge.mem_weightsTo, ← Edge.mem_weightsTo, (h u v hu hv).mem_iff]

/-- No edge at a node of the set has a negative weight. -/
def NonNegative [Cost W] (g : Graph ε W) (P : Nat → Prop) : Prop :=
  ∀ n, P n → ∀ d, ∀ e ∈ g.edgesOrNone d n, 0 ≤ e.weight

/-! ### Graphs of arcs -/

section Arcs

variable {arcs : List (Nat × Nat × W)} {P : Nat → Prop} {u v : Nat} {w : W}

theorem mem_edgesOrNone_ofArcs {d : Direction} :
    ⟨v, w⟩ ∈ (ofArcs arcs : Graph ε W).edgesOrNone d u ↔
      match d with
      | .outgoing => (u, v, w) ∈ arcs
      | .incoming => (v, u, w) ∈ arcs := by
  cases d with
  | outgoing =>
    simp only [edgesOrNone, ofArcs, List.mem_filterMap, Option.ite_none_right_eq_some,
      Option.some.injEq, Edge.mk.injEq, Prod.exists]
    constructor
    · rintro ⟨_, _, _, ha, rfl, rfl, rfl⟩
      exact ha
    · exact fun ha => ⟨_, _, _, ha, rfl, rfl, rfl⟩
  | incoming =>
    simp only [edgesOrNone, ofArcs, List.mem_filterMap, Option.ite_none_right_eq_some,
      Option.some.injEq, Edge.mk.injEq, Prod.exists]
    constructor
    · rintro ⟨_, _, _, ha, rfl, rfl, rfl⟩
      exact ha
    · exact fun ha => ⟨_, _, _, ha, rfl, rfl, rfl⟩

theorem domain_ofArcs (h : ∀ a ∈ arcs, P a.1 ∧ P a.2.1) :
    (ofArcs arcs : Graph ε W).Domain P where
  lists _ d := by cases d <;> exact ⟨_, rfl⟩
  stays := by
    intro n _ d e he
    cases d with
    | outgoing => exact (h _ (mem_edgesOrNone_ofArcs.mp he)).2
    | incoming => exact (h _ (mem_edgesOrNone_ofArcs.mp he)).1

/-- Both sides list the same arcs. -/
theorem mirrored_ofArcs : (ofArcs arcs : Graph ε W).Mirrored P := by
  intro u v _ _
  refine List.Perm.of_eq ?_
  simp only [Edge.weightsTo, edgesOrNone, ofArcs]
  induction arcs with
  | nil => rfl
  | cons a arcs ih =>
    obtain ⟨x, y, w⟩ := a
    by_cases hx : x = u <;> by_cases hy : y = v <;> simp [hx, hy, ih]

theorem forall_edges_ofArcs {M : Nat → Edge W → Prop} (h : ∀ a ∈ arcs, M a.1 ⟨a.2.1, a.2.2⟩)
    (u : Nat) : ∀ e ∈ (ofArcs arcs : Graph ε W).edgesOrNone .outgoing u, M u e :=
  fun _ he => h _ (mem_edgesOrNone_ofArcs.mp he)

/-- Every node lists the same edges when the arcs are given in another order. -/
theorem edgesOrNone_ofArcs_perm {arcs' : List (Nat × Nat × W)} (h : arcs.Perm arcs') (d : Direction)
    (n : Nat) : ((ofArcs arcs : Graph ε W).edgesOrNone d n).Perm
      ((ofArcs arcs' : Graph ε W).edgesOrNone d n) := by
  cases d <;> exact h.filterMap _

theorem nonNegative_ofArcs [Cost W] (h : ∀ a ∈ arcs, 0 ≤ a.2.2) :
    (ofArcs arcs : Graph ε W).NonNegative P := by
  intro n _ d e he
  cases d with
  | outgoing => exact h _ (mem_edgesOrNone_ofArcs.mp he)
  | incoming => exact h _ (mem_edgesOrNone_ofArcs.mp he)

end Arcs

/-! ## Walks -/

/-- `g.Walk d origin nodes last cost`: the edges of `g` on the side `d` lead from `origin` through
    `nodes`, the first and the last one included, to `last`. -/
inductive Walk [Zero W] [Add W] (g : Graph ε W) (d : Direction) (origin : Nat) :
    List Nat → Nat → W → Prop
  | here : Walk g d origin [origin] origin 0
  | step {nodes : List Nat} {u v : Nat} {c w : W} : Walk g d origin nodes u c →
      ⟨v, w⟩ ∈ g.edgesOrNone d u → Walk g d origin (nodes ++ [v]) v (c + w)

namespace Walk

section Cost

variable [Cost W] {g : Graph ε W} {P : Nat → Prop} {d : Direction} {origin last : Nat}
  {nodes : List Nat} {c : W}

theorem last_mem_domain (hg : g.Domain P) (ho : P origin) (h : g.Walk d origin nodes last c) :
    P last := by
  induction h with
  | here => exact ho
  | step _ he hu => exact hg.stays hu he

theorem nodes_eq (h : g.Walk d origin nodes last c) : nodes = nodes.dropLast ++ [last] := by
  cases h <;> simp

theorem head?_nodes (h : g.Walk d origin nodes last c) : nodes.head? = some origin := by
  induction h with
  | here => rfl
  | step h _ ih => rw [List.head?_append, ih, Option.some_or]

theorem getLast?_nodes (h : g.Walk d origin nodes last c) : nodes.getLast? = some last := by
  rw [h.nodes_eq, List.getLast?_concat]

end Cost

theorem nonneg [OrderedCost W] {g : Graph ε W} {P : Nat → Prop} {d : Direction}
    {origin last : Nat} {nodes : List Nat} {c : W} (hg : g.Domain P) (hw : g.NonNegative P)
    (ho : P origin) (h : g.Walk d origin nodes last c) : 0 ≤ c := by
  induction h with
  | here => exact le_refl _
  | step h he ih =>
    have hu := h.last_mem_domain hg ho
    exact le_trans ih (OrderedCost.le_add (hw _ hu d _ he) _)

section Exact

variable [LinearOrderedAddCommMonoidWithTop W] {g : Graph ε W} {P : Nat → Prop}
  {start goal m : Nat} {nodes nodes' : List Nat} {c c' : W}

/-- In a mirrored graph, a walk that arrives at `m` over outgoing edges goes on along a walk that
    was found from the goal over incoming edges. -/
theorem glue (hg : g.Domain P) (hm : g.Mirrored P) (hs : P start) (ht : P goal)
    (h' : g.Walk .incoming goal nodes' m c') (h : g.Walk .outgoing start nodes m c) :
    g.Walk .outgoing start (nodes ++ nodes'.dropLast.reverse) goal (c + c') := by
  induction h' generalizing nodes c with
  | here => simpa using h
  | @step nodes'' u v c'' w hu he ih =>
    have hPu : P u := hu.last_mem_domain hg ht
    have hPv : P v := h.last_mem_domain hg hs
    have hvu : g.Walk .outgoing start (nodes ++ [u]) u (c + w) :=
      .step h ((hm.mem_iff hPv hPu).mpr he)
    have hwalk := ih hvu
    have hnodes : nodes ++ [u] ++ nodes''.dropLast.reverse = nodes ++ nodes''.reverse := by
      conv_rhs => rw [hu.nodes_eq]
      simp
    have hcost : c + w + c'' = c + (c'' + w) := by
      rw [add_assoc, add_comm w]
    rw [hnodes, hcost] at hwalk
    simpa using hwalk

end Exact

end Walk

/-! ## Cheapest walks -/

/-- The answer that a search owes: a walk of least cost, or nothing when no walk costs less than
    infinity. Every node is reached from itself. -/
inductive Cheapest [Cost W] (g : Graph ε W) (start goal : Nat) : Option (Search.Path W) → Prop
  | walk {path : Search.Path W} : g.Walk .outgoing start path.joints goal path.weight →
      (∀ {nodes c}, g.Walk .outgoing start nodes goal c → path.weight ≤ c) →
      (start = goal ∨ path.weight < Cost.infinity) → Cheapest g start goal (some path)
  | none : start ≠ goal →
      (∀ {nodes c}, g.Walk .outgoing start nodes goal c → ¬ c < Cost.infinity) →
      Cheapest g start goal none

namespace Cheapest

variable [OrderedCost W] {g : Graph ε W} {start goal : Nat} {answer : Option (Search.Path W)}
  {path : Search.Path W}

theorem lt_infinity (hzero : (0 : W) < Cost.infinity) (h : g.Cheapest start goal (some path)) :
    path.weight < Cost.infinity := by
  cases h with
  | walk _ hleast hfin =>
    rcases hfin with rfl | hlt
    · exact lt_of_le_of_lt (hleast .here) hzero
    · exact hlt

theorem isLeast (h : g.Cheapest start goal (some path)) :
    IsLeast {c | ∃ nodes, g.Walk .outgoing start nodes goal c} path.weight := by
  cases h with
  | walk hwalk hleast _ => exact ⟨⟨_, hwalk⟩, fun _ ⟨_, hother⟩ => hleast hother⟩

/-- There is an answer exactly if some walk has a finite cost. -/
theorem isSome_iff (hzero : (0 : W) < Cost.infinity) (h : g.Cheapest start goal answer) :
    answer.isSome = true ↔ ∃ nodes c, g.Walk .outgoing start nodes goal c ∧ c < Cost.infinity := by
  cases answer with
  | none =>
    cases h with
    | none _ hnone =>
      refine ⟨fun h => Bool.noConfusion h, ?_⟩
      rintro ⟨_, _, hwalk, hlt⟩
      exact absurd hlt (hnone hwalk)
  | some path =>
    refine ⟨fun _ => ?_, fun _ => rfl⟩
    have hlt := h.lt_infinity hzero
    cases h with
    | walk hwalk _ _ => exact ⟨_, _, hwalk, hlt⟩

end Cheapest

/-- Two answers are both absent or of the same weight. -/
theorem Cheapest.weight_eq [LinearOrderedAddCommMonoidWithTop W] {g : Graph ε W}
    {start goal : Nat} {a b : Option (Search.Path W)} (ha : g.Cheapest start goal a)
    (hb : g.Cheapest start goal b) : a.map (·.weight) = b.map (·.weight) := by
  cases ha with
  | walk hwalk hleast hfin =>
    cases hb with
    | walk hwalk' hleast' _ => exact congrArg some (le_antisymm (hleast hwalk') (hleast' hwalk))
    | none hne hnone => exact absurd (hfin.resolve_left hne) (hnone hwalk)
  | none hne hnone =>
    cases hb with
    | walk hwalk' _ hfin' => exact absurd (hfin'.resolve_left hne) (hnone hwalk')
    | none => rfl

end Graph

end RoadRouting
