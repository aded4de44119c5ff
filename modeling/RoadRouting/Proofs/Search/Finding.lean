import Mathlib.Logic.Relation
import RoadRouting.Proofs.Search.Estimates
import RoadRouting.Proofs.Search.Paths

/-!
# Ways that are found

Whatever the signs of the weights are, and whatever is estimated, a search finds a way exactly if the
goal is reached from the start over edges of finite weight. Labels need not be least then, and the way
found need not be a cheapest one. But the labels of a side always are the costs of its ways, and a side
that has nothing left has met everything that is reached from its origin.

* `Graph.Passes`: an edge of finite weight.
* `Graph.Finds`: the answer owed where any way will do.
* `State.Spreading`: both sides are grown, and the forward side has met what its edges lead to.
* `every_search_finds`: the three searches owe and give such an answer.
-/

namespace RoadRouting

variable {ε W : Type}

/-! ## Edges of finite weight -/

namespace Graph

section Finite

variable [LinearOrderedAddCommMonoidWithTop W] {g : Graph ε W} {start last u v : Nat}
  {nodes : List Nat} {c : W}

/-- An edge of finite weight leads from one node to another. -/
def Passes (g : Graph ε W) (u v : Nat) : Prop :=
  ∃ w < ⊤, ⟨v, w⟩ ∈ g.edgesOrNone .outgoing u

/-- The answer owed where any way will do. It is missing exactly if the goal is out of reach, and its
    weight is the sum of finite weights of edges that lead from joint to joint. -/
structure Finds (g : Graph ε W) (start goal : Nat) (answer : Option (Search.Path W)) : Prop where
  isSome_iff : answer.isSome = true ↔ Relation.ReflTransGen g.Passes start goal
  head : ∀ path ∈ answer, path.joints.head? = some start
  last : ∀ path ∈ answer, path.joints.getLast? = some goal
  weight : ∀ path ∈ answer, ∃ weights : List W, weights.sum = path.weight ∧
    List.Forall₂ (fun leg w => w < ⊤ ∧ ⟨leg.2, w⟩ ∈ g.edgesOrNone .outgoing leg.1)
      (path.joints.zip path.joints.tail) weights

namespace Walk

/-- One more node at the end of a walk is one more pair of nodes in a row. -/
theorem zip_tail_concat (h : g.Walk .outgoing start nodes u c) (v : Nat) :
    (nodes ++ [v]).zip (nodes ++ [v]).tail = nodes.zip nodes.tail ++ [(u, v)] := by
  obtain ⟨init, rfl⟩ : ∃ init, nodes = init ++ [u] := ⟨_, h.nodes_eq⟩
  have hlength : init.length = (init ++ [u]).tail.length := by simp
  rw [List.tail_append_of_ne_nil (by simp), List.append_assoc, List.zip_append hlength]
  conv_rhs => rw [← List.append_nil (init ++ [u]).tail, List.zip_append hlength]
  simp

/-- The cost of a walk is the sum of the weights along it. -/
theorem exists_weights (h : g.Walk .outgoing start nodes last c) (hc : c < ⊤) :
    ∃ weights : List W, weights.sum = c ∧
      List.Forall₂ (fun leg w => w < ⊤ ∧ ⟨leg.2, w⟩ ∈ g.edgesOrNone .outgoing leg.1)
        (nodes.zip nodes.tail) weights := by
  induction h with
  | here => exact ⟨[], rfl, .nil⟩
  | @step nodes u v c w hu he ih =>
    obtain ⟨hfirst, hlast⟩ := Cost.add_lt_top_iff.mp hc
    obtain ⟨weights, rfl, hweights⟩ := ih hfirst
    refine ⟨weights ++ [w], by simp, ?_⟩
    rw [hu.zip_tail_concat]
    exact List.rel_append hweights (.cons ⟨hlast, he⟩ .nil)

theorem reaches (h : g.Walk .outgoing start nodes last c) (hc : c < ⊤) :
    Relation.ReflTransGen g.Passes start last := by
  induction h with
  | here => exact .refl
  | step _ he ih =>
    obtain ⟨hfirst, hlast⟩ := Cost.add_lt_top_iff.mp hc
    exact (ih hfirst).tail ⟨_, hlast, he⟩

end Walk

/-- What is reached over edges of finite weight is reached by a walk of finite cost. -/
theorem exists_walk_iff [Nontrivial W] : (∃ nodes c, g.Walk .outgoing start nodes last c ∧ c < ⊤) ↔
    Relation.ReflTransGen g.Passes start last := by
  constructor
  · rintro ⟨nodes, c, hwalk, hc⟩
    exact hwalk.reaches hc
  · intro h
    induction h with
    | refl => exact ⟨_, _, .here, Cost.zero_lt_top⟩
    | tail _ hpasses ih =>
      obtain ⟨nodes, c, hwalk, hc⟩ := ih
      obtain ⟨w, hw, hedge⟩ := hpasses
      exact ⟨_, _, .step hwalk hedge, Cost.add_lt_top_iff.mpr ⟨hc, hw⟩⟩

/-- An answer that is a walk of finite cost, and is missing only if there is none. -/
theorem finds_of_walk [Nontrivial W] {goal : Nat} {answer : Option (Search.Path W)}
    (hsome : answer.isSome = true ↔ ∃ nodes c, g.Walk .outgoing start nodes goal c ∧ c < ⊤)
    (hwalk : ∀ path ∈ answer,
      g.Walk .outgoing start path.joints goal path.weight ∧ path.weight < ⊤) :
    g.Finds start goal answer where
  isSome_iff := hsome.trans exists_walk_iff
  head path hpath := (hwalk path hpath).1.head?_nodes
  last path hpath := (hwalk path hpath).1.getLast?_nodes
  weight path hpath := (hwalk path hpath).1.exists_weights (hwalk path hpath).2

end Finite

end Graph

namespace Search

open TwoSided (Side)

/-! ## Search from both ends -/

/-- Whatever was offered to a side, it is cheaper than infinity. -/
theorem TwoSided.Side.Advance.finite_entries [OrderedCost W] {g : Graph ε W} {d : Direction}
    {π : Policy W} {s s' : Side W} (ha : Side.Advance g d π s s') (hπ : π.Strict)
    (h : ∀ e ∈ s.frontier, e.cost < Cost.infinity) :
    ∀ e ∈ s'.frontier, e.cost < Cost.infinity := by
  cases ha with
  | drop hf _ => exact fun x hx => h x (Frontier.mem_of_mem_rest hf hx)
  | @expand e rest es hf _ _ =>
    refine Side.expand_induct (M := fun s' => ∀ x ∈ s'.frontier, x.cost < Cost.infinity)
      (fun x hx => h x (Frontier.mem_of_mem_rest hf hx)) ?_
    intro s' hs' edge _ hadmits x hx
    rcases Frontier.mem_push.mp hx with rfl | hx
    · exact lt_of_lt_of_le ((hπ _ _).mp (Side.admits_iff.mp hadmits).2) (OrderedCost.le_infinity _)
    · exact hs' x hx

namespace TwoSided

variable [LinearOrderedAddCommMonoidWithTop W] {g : Graph ε W} {P : Nat → Prop}
  {start goal : Nat} {s s' : State W}

/-- Both sides are grown, the forward side has met what edges at settled nodes lead to, and nothing
    waits at an infinite cost. -/
structure State.Spreading (g : Graph ε W) (P : Nat → Prop) (start goal : Nat) (s : State W) :
    Prop where
  joined : s.Joined g P start goal
  spread : (s.side .outgoing).Spread g .outgoing start
  finite : ∀ d, ∀ e ∈ (s.side d).frontier, e.cost < ⊤

namespace State.Spreading

theorem init [Nontrivial W] (hid : ∀ n, P n → n ≠ noJoint) (hs : P start) :
    State.Spreading g P start goal (TwoSided.init start goal) where
  joined := .init hid hs
  spread := .start start 0
  finite d e he := by
    rw [State.side_init] at he
    rw [List.mem_singleton.mp he]
    exact Cost.zero_lt_top

theorem next (h : s.Spreading g P start goal) (hg : g.Domain P) (hid : ∀ n, P n → n ≠ noJoint)
    (hP : ∀ d, P (origin start goal d)) (hnext : Next g s s') :
    s'.Spreading g P start goal where
  joined := h.joined.next hg hid hP hnext
  spread := by
    rcases hnext.side .outgoing with hkeep | hadvance
    · rw [hkeep]
      exact h.spread
    · exact (h.joined.grown .outgoing).spread_advance h.spread policy_strict hadvance
  finite d := by
    rcases hnext.side d with hkeep | hadvance
    · rw [hkeep]
      exact h.finite d
    · exact hadvance.finite_entries policy_strict (h.finite d)

/-- A search that has joined no way stops only when it has nothing left on the forward side. -/
theorem frontier_eq_nil (h : s.Spreading g P start goal) (hstop : s.next? = none)
    (hbest : s.best = ⊤) : (s.side .outgoing).frontier = [] := by
  cases hf : (s.side .outgoing).frontier with
  | nil => rfl
  | cons e rest =>
    exfalso
    have he : e.cost < ⊤ := h.finite .outgoing e (Frontier.front_mem hf)
    have hforward : s.forward.frontier.nextCost? = some e.cost := congrArg Frontier.nextCost? hf
    cases hb : (s.side .incoming).frontier with
    | nil =>
      have hbackward : s.backward.frontier.nextCost? = none := congrArg Frontier.nextCost? hb
      simp only [State.next?, hforward, hbackward, hbest, if_pos he] at hstop
      cases hstop
    | cons e' rest' =>
      have he' : e'.cost < ⊤ := h.finite .incoming e' (Frontier.front_mem hb)
      have hle := h.joined.best_le_of_stopped hstop (hf ▸ List.mem_cons_self)
        (hb ▸ List.mem_cons_self)
      rw [hbest] at hle
      exact not_lt_of_ge hle (Cost.add_lt_top_iff.mpr ⟨he, he'⟩)

/-- When no way was joined, no walk to the goal has a finite cost: the forward side would have settled
    the goal, which the backward side knows. -/
theorem not_walk_of_unmet (h : s.Spreading g P start goal) (hstop : s.next? = none)
    (hmeeting : s.meeting = none) {nodes : List Nat} {c : W}
    (hwalk : g.Walk .outgoing start nodes goal c) : ¬ c < ⊤ := by
  intro hc
  obtain ⟨hbest, hne⟩ := h.joined.met.unmet hmeeting
  have hnil := h.frontier_eq_nil hstop hbest
  have htree := (h.joined.grown .outgoing).tree hnil
  have hset := htree.settled_of_walk h.spread hnil hwalk hc
  have hforward := (htree.meets_of_settled hset).resolve_left hne.symm
  have hthrough : s.through goal = ((s.side .outgoing).labels.of goal).cost := by
    have hbackward : (s.backward.labels.of goal).cost = 0 := (h.joined.grown .incoming).cost_origin
    rw [State.through, hbackward, add_zero]
    rfl
  have hle := h.joined.met.le_through goal
  rw [hbest, hthrough] at hle
  exact not_lt_of_ge hle hforward

end State.Spreading

/-- Whatever the signs of the weights are, the search from both ends of a mirrored graph answers with a
    walk of finite cost to the goal, and it does so exactly if there is one. -/
theorem search_finds [Nontrivial W] (hg : g.Domain P) (hm : g.Mirrored P)
    (hid : ∀ n, P n → n ≠ noJoint) (hs : P start) (ht : P goal) :
    ∃ answer, search g start goal = .ok answer ∧
      (answer.isSome = true ↔ ∃ nodes c, g.Walk .outgoing start nodes goal c ∧ c < ⊤) ∧
      ∀ path ∈ answer, g.Walk .outgoing start path.joints goal path.weight ∧ path.weight < ⊤ := by
  have hP := origin_mem hs ht
  obtain ⟨s, -, hspreading, hstop, hsearch⟩ := search_induct
    (M := State.Spreading g P start goal) hg hs ht (.init hid hs)
    fun _ _ _ h hnext => h.next hg hid hP hnext
  cases hmeeting : s.meeting with
  | none =>
    rw [hmeeting] at hsearch
    refine ⟨none, hsearch, ⟨fun h => Bool.noConfusion h, ?_⟩, fun _ h => nomatch h⟩
    rintro ⟨nodes, c, hwalk, hlt⟩
    exact absurd hlt (hspreading.not_walk_of_unmet hstop hmeeting hwalk)
  | some m =>
    rw [hmeeting] at hsearch
    have hwalk := hspreading.joined.walk hg hm hs ht hmeeting
    have hlt := hspreading.joined.best_lt_top hmeeting
    refine ⟨_, hsearch, ⟨fun _ => ⟨_, _, hwalk, hlt⟩, fun _ => rfl⟩, ?_⟩
    rintro path hpath
    obtain rfl := Option.some.inj hpath
    exact ⟨hwalk, hlt⟩

end TwoSided

/-! ## All searches -/

/-- With weights of any sign and estimates of any kind, every search finds a way exactly if the goal is
    reached over edges of finite weight. The joints lead from the start to the goal, and the weight is
    the exact sum of finite weights of edges between them. -/
theorem every_search_finds [LinearOrderedAddCommMonoidWithTop W] [Nontrivial W] {g : Graph ε W}
    {P : Nat → Prop} {start goal : Nat} (hg : g.Domain P) (hid : ∀ n, P n → n ≠ noJoint)
    (hs : P start) :
    (∀ h : Nat → W, ∃ answer,
      BestFirst.search g (fun n => .ok (h n)) start goal = .ok answer ∧
        g.Finds start goal answer) ∧
    (∃ answer, dijkstra g start goal = .ok answer ∧ g.Finds start goal answer) ∧
    (g.Mirrored P → P goal → ∃ answer, TwoSided.search g start goal = .ok answer ∧
      g.Finds start goal answer) := by
  have hguided : ∀ h : Nat → W, ∃ answer,
      BestFirst.search g (fun n => .ok (h n)) start goal = .ok answer ∧
        g.Finds start goal answer := by
    intro h
    obtain ⟨answer, hsearch, hsome, hwalk⟩ : ∃ answer,
        BestFirst.search g (fun n => .ok (h n)) start goal = .ok answer ∧ _ ∧ _ :=
      BestFirst.search_finds hg hid hs fun n _ => ⟨h n, rfl⟩
    exact ⟨answer, hsearch, Graph.finds_of_walk hsome hwalk⟩
  refine ⟨hguided, hguided fun _ => 0, fun hm ht => ?_⟩
  obtain ⟨answer, hsearch, hsome, hwalk⟩ := TwoSided.search_finds hg hm hid hs ht
  exact ⟨answer, hsearch, Graph.finds_of_walk hsome hwalk⟩

/-- Over a cycle of negative weight and past an arc that cannot be travelled, with an estimate that
    misleads. -/
theorem every_search_finds_negative :
    let g : Graph Empty (WithTop ℤ) := .ofArcs
      [(0, 1, (5 : ℤ)), (1, 2, (-3 : ℤ)), (2, 1, (1 : ℤ)), (2, 3, (-4 : ℤ)), (0, 3, ⊤)]
    (∃ answer, BestFirst.search g (fun n => .ok (10 * n : ℤ)) 0 3 = .ok answer ∧
      g.Finds 0 3 answer) ∧
    (∃ answer, dijkstra g 0 3 = .ok answer ∧ g.Finds 0 3 answer) ∧
    ∃ answer, TwoSided.search g 0 3 = .ok answer ∧ g.Finds 0 3 answer := by
  intro g
  have hid : ∀ n, n < 4 → n ≠ noJoint := by
    intro n hn
    rw [noJoint]
    omega
  have hfinds := @every_search_finds Empty (WithTop ℤ) _ _ g (· < 4) 0 3
    (Graph.domain_ofArcs (by decide)) hid (by decide)
  exact ⟨hfinds.1 _, hfinds.2.1, hfinds.2.2 Graph.mirrored_ofArcs (by decide)⟩

end Search

end RoadRouting
