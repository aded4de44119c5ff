import Mathlib.Algebra.Order.Monoid.Unbundled.WithTop
import Mathlib.Algebra.Ring.Int.Defs
import RoadRouting.Proofs.Search.BestFirst

/-!
# What an estimate does to a search

An estimate decides which entries a search takes first, and nothing else. Whatever it says, the search
finds some way if there is one of finite cost. Only the cost of that way depends on it: if the estimate
drops along no edge by more than the edge weighs, the way found is a cheapest one.

* `Graph.Guides`: the estimates that drop along no edge by more than its weight.
* `BestFirst.search_agrees`, `BestFirst.guided_search_agrees_with_dijkstra`: with them the search
  answers like Dijkstra's.
* `Side.Spread`: what was met while searching with any estimate.
* `BestFirst.search_finds`: with any estimate, some way is found if there is one.
-/

namespace RoadRouting

variable {ε W : Type}

/-! ## Estimates that guide a search -/

/-- Every node of the set has an estimate, and no edge between them leads to an estimate that is lower
    by more than the weight of the edge. -/
structure Graph.Guides [Cost W] (g : Graph ε W) (P : Nat → Prop) (estimate : Nat → Except ε W) :
    Prop where
  answers : ∀ {n}, P n → ∃ rest, estimate n = .ok rest
  drop_le : ∀ {u v w a b}, P u → ⟨v, w⟩ ∈ g.edgesOrNone .outgoing u → estimate u = .ok a →
    estimate v = .ok b → a ≤ w + b

namespace Search

open TwoSided (Side)

namespace BestFirst

section Guides

variable [LinearOrderedAddCommMonoidWithTop W] {g : Graph ε W} {P : Nat → Prop}
  {estimate : Nat → Except ε W} {start goal : Nat}

/-- Costs with such an estimate added do not decrease along edges. -/
theorem policy_consistent (h : g.Guides P estimate) (hg : g.Domain P) :
    (policy estimate).Consistent g .outgoing P where
  mono n c c' hc := by
    simp only [policy]
    cases estimate n with
    | ok rest => exact add_le_add_left hc rest
    | error => exact hc
  step {u v w} hu he c := by
    obtain ⟨a, ha⟩ := h.answers hu
    obtain ⟨b, hb⟩ := h.answers (hg.stays hu he)
    simp only [policy, ha, hb]
    calc c + a ≤ c + (w + b) := add_le_add_right (h.drop_le hu he ha hb) c
      _ = c + w + b := (add_assoc c w b).symm

/-- With an estimate that guides it, the search finds a way when Dijkstra's does, one of the same
    weight. -/
theorem search_agrees (h : g.Guides P estimate) (hg : g.Domain P) (hw : g.NonNegative P)
    (hid : ∀ n, P n → n ≠ noJoint) (hs : P start) :
    ∃ one guided, dijkstra g start goal = .ok one ∧ search g estimate start goal = .ok guided ∧
      guided.map (·.weight) = one.map (·.weight) ∧
      ∀ path ∈ guided, g.Walk .outgoing start path.joints goal path.weight := by
  have hfirst : ∃ answer, dijkstra g start goal = .ok answer ∧ g.Cheapest start goal answer :=
    dijkstra_spec hg hw hid hs
  have hsecond : ∃ answer, search g estimate start goal = .ok answer ∧
      g.Cheapest start goal answer :=
    search_spec hg hw hid hs (fun _ => h.answers) (policy_consistent h hg)
  obtain ⟨one, hone, hcheapest⟩ := hfirst
  obtain ⟨guided, hguided, hcheapest'⟩ := hsecond
  refine ⟨one, guided, hone, hguided, hcheapest'.weight_eq hcheapest, ?_⟩
  rintro path rfl
  cases hcheapest' with
  | walk hwalk _ _ => exact hwalk

/-- An estimate of either sign that drops along no edge by more than its weight changes neither whether
    a way is found nor its weight, and the joints found are those of a walk of that weight. The
    estimate of the goal need not be zero. -/
theorem guided_search_agrees_with_dijkstra {h : Nat → W} (hg : g.Domain P) (hw : g.NonNegative P)
    (hid : ∀ n, P n → n ≠ noJoint) (hs : P start)
    (hh : ∀ u, P u → ∀ e ∈ g.edgesOrNone .outgoing u, h u ≤ e.weight + h e.target) :
    ∃ one guided, dijkstra g start goal = .ok one ∧
      search g (fun n => .ok (h n)) start goal = .ok guided ∧
      guided.map (·.weight) = one.map (·.weight) ∧
      ∀ path ∈ guided, path.joints.head? = some start ∧ path.joints.getLast? = some goal ∧
        g.Walk .outgoing start path.joints goal path.weight := by
  have hguides : g.Guides P fun n => .ok (h n) := by
    refine ⟨fun _ => ⟨_, rfl⟩, fun hu he ha hb => ?_⟩
    obtain rfl := Except.ok.inj ha
    obtain rfl := Except.ok.inj hb
    exact hh _ hu _ he
  have hagrees : ∃ one guided, dijkstra g start goal = .ok one ∧
      search g (fun n => .ok (h n)) start goal = .ok guided ∧
      guided.map (·.weight) = one.map (·.weight) ∧
      ∀ path ∈ guided, g.Walk .outgoing start path.joints goal path.weight :=
    search_agrees hguides hg hw hid hs
  obtain ⟨one, guided, hone, hguided, hweight, hwalk⟩ := hagrees
  refine ⟨one, guided, hone, hguided, hweight, fun path hpath => ?_⟩
  have hjoints := hwalk path hpath
  exact ⟨hjoints.head?_nodes, hjoints.getLast?_nodes, hjoints⟩

/-- Negative estimates, an arc that cannot be travelled, and a goal whose estimate is not zero. -/
theorem guided_search_agrees_with_dijkstra_negative :
    let g : Graph Empty (WithTop ℤ) :=
      .ofArcs [(0, 1, (2 : ℤ)), (0, 2, (4 : ℤ)), (1, 3, (5 : ℤ)), (2, 3, (1 : ℤ)), (3, 0, ⊤)]
    let h : Nat → WithTop ℤ := fun n => ([-2, -2, -6, -7].getD n 0 : ℤ)
    ∃ one guided, dijkstra g 0 3 = .ok one ∧ search g (fun n => .ok (h n)) 0 3 = .ok guided ∧
      guided.map (·.weight) = one.map (·.weight) ∧
      ∀ path ∈ guided, path.joints.head? = some 0 ∧ path.joints.getLast? = some 3 ∧
        g.Walk .outgoing 0 path.joints 3 path.weight := by
  intro g h
  have hid : ∀ n, n < 4 → n ≠ noJoint := by
    intro n hn
    rw [noJoint]
    omega
  refine guided_search_agrees_with_dijkstra (Graph.domain_ofArcs (by decide))
    (Graph.nonNegative_ofArcs (by decide)) hid (by decide) fun u _ => ?_
  exact Graph.forall_edges_ofArcs (M := fun u e => h u ≤ e.weight + h e.target) (by decide) u

end Guides

end BestFirst

/-! ## Searching with any estimate -/

namespace TwoSided.Side

section Spread

variable [OrderedCost W] {g : Graph ε W} {d : Direction} {π : Policy W} {P : Nat → Prop}
  {origin : Nat} {s s' : Side W} {e : Entry W} {rest : Frontier W} {es : List (Edge W)} {n : Nat}

/-- A node was met: it is the origin, or a way of finite cost to it is known. -/
def Meets (origin : Nat) (s : Side W) (n : Nat) : Prop :=
  n = origin ∨ (s.labels.of n).cost < Cost.infinity

/-- Every edge at a settled node that leads on at a finite cost leads to a node that was met. -/
def Spread (g : Graph ε W) (d : Direction) (origin : Nat) (s : Side W) : Prop :=
  ∀ u v w, (s.labels.of u).settled = true → ⟨v, w⟩ ∈ g.edgesOrNone d u →
    (s.labels.of u).cost + w < Cost.infinity → s.Meets origin v

theorem Tree.meets_of_settled (h : s.Tree g d π P origin) (hn : (s.labels.of n).settled = true) :
    s.Meets origin n := by
  by_cases hp : (s.labels.of n).parent = none
  · exact .inl ((h.unmet hp).resolve_right (Labels.ne_unmet_of_settled hn))
  · exact .inr (h.finite hp)

/-- With nothing left in the frontier, every node that was met is settled. -/
theorem Tree.settled_of_meets (h : s.Tree g d π P origin) (hnil : s.frontier = [])
    (hn : s.Meets origin n) : (s.labels.of n).settled = true := by
  rcases hn with rfl | hlt
  · exact h.settled_origin
  · by_contra hset
    have hp : (s.labels.of n).parent ≠ none := by
      intro hnone
      rcases h.unmet hnone with rfl | hunmet
      · exact hset h.settled_origin
      · rw [hunmet] at hlt
        exact lt_irrefl _ hlt
    obtain ⟨e, he, -⟩ := h.live (Bool.eq_false_iff.mpr hset) hp
    rw [hnil] at he
    cases he

theorem Spread.start (origin : Nat) (t : W) :
    Spread g d origin ⟨[⟨origin, 0, t⟩], .start origin⟩ := by
  intro u v w hu
  rw [Labels.of_start] at hu
  split at hu <;> cases hu

/-- Offers lower costs, so a node that was met stays so. -/
theorem Meets.expand (hπ : π.Strict) (h : s.Meets origin n) :
    (s.expand π e rest es).Meets origin n :=
  h.imp_right fun hlt => lt_of_le_of_lt (cost_expand_le hπ) hlt

theorem Spread.expand (h : s.Spread g d origin) (hπ : π.Strict)
    (htree : (s.settle e rest).Tree g d π P origin)
    (hcost : (s.labels.of e.node).cost = e.cost) (hes : g.edges d e.node = .ok es) :
    (s.expand π e rest es).Spread g d origin := by
  intro u v w hu hedge hlt
  rw [cost_expand_of_settled hu] at hlt
  rcases settled_expand_cases hu with rfl | hu'
  · have hmem : ⟨v, w⟩ ∈ es := by rwa [Graph.edgesOrNone_eq hes] at hedge
    by_cases hv : ((s.settle e rest).labels.of v).settled = true
    · have hmet : s.Meets origin v :=
        (htree.meets_of_settled hv).imp_right fun hlt => by rwa [cost_of_settle] at hlt
      exact hmet.expand hπ
    · -- the offer along this edge was accepted, or something cheaper is known
      rw [hcost] at hlt
      exact .inr (lt_of_le_of_lt
        (cost_offers_le hπ es _ _ hmem (Bool.eq_false_iff.mpr hv)) hlt)
  · exact (h u v w hu' hedge hlt).expand hπ

theorem Grown.spread_advance (h : s.Grown g d π P origin) (hs : s.Spread g d origin)
    (hπ : π.Strict) (ha : Advance g d π s s') : s'.Spread g d origin := by
  cases ha with
  | drop => exact hs
  | @expand e rest es hf hstale hes =>
    have he : e ∈ s.frontier := Frontier.front_mem hf
    exact hs.expand hπ (h.settle hf hstale) (h.cost_eq he hstale) hes

end Spread

/-- With nothing left in the frontier, every walk of finite cost ends at a settled node. -/
theorem Tree.settled_of_walk [LinearOrderedAddCommMonoidWithTop W] {g : Graph ε W} {d : Direction}
    {π : Policy W} {P : Nat → Prop} {s : Side W} {origin n : Nat} {nodes : List Nat} {c : W}
    (h : s.Tree g d π P origin) (hs : s.Spread g d origin) (hnil : s.frontier = [])
    (hwalk : g.Walk d origin nodes n c) (hc : c < ⊤) : (s.labels.of n).settled = true := by
  induction hwalk with
  | here => exact h.settled_origin
  | @step nodes u v c w hu he ih =>
    obtain ⟨hfirst, hlast⟩ := Cost.add_lt_top_iff.mp hc
    have hset := ih hfirst
    have hcost : (s.labels.of u).cost < ⊤ := by
      rcases h.meets_of_settled hset with rfl | hlt
      · rw [h.cost_origin]
        exact Cost.zero_lt_top_of_lt hc
      · exact hlt
    exact h.settled_of_meets hnil
      (hs u v w hset he (Cost.add_lt_top_iff.mpr ⟨hcost, hlast⟩))

end TwoSided.Side

namespace BestFirst

section AnyEstimate

variable [LinearOrderedAddCommMonoidWithTop W] {g : Graph ε W} {P : Nat → Prop}
  {estimate : Nat → Except ε W} {start goal : Nat} {s s' : State W}

/-- The search is under way, and has met what edges at settled nodes lead to. -/
structure Exploring (g : Graph ε W) (estimate : Nat → Except ε W) (P : Nat → Prop)
    (start goal : Nat) (s : State W) : Prop where
  underway : Underway g estimate P start goal s
  spread : s.side.Spread g .outgoing start

namespace Exploring

theorem init (rest : W) : Exploring g estimate P start goal (BestFirst.init start rest) :=
  ⟨.init rest, .start start rest⟩

theorem next (h : Exploring g estimate P start goal s) (hg : g.Domain P)
    (hid : ∀ n, P n → n ≠ noJoint) (hs : P start) (hnext : Next g estimate goal s s') :
    Exploring g estimate P start goal s' where
  underway := h.underway.next hg hid hs hnext
  spread := h.underway.grown.spread_advance h.spread (policy_strict _) (step_running hnext).1

end Exploring

/-- Whatever it estimates, and whatever the signs of the weights are, a search answers with a walk of
    finite cost to the goal, and it does so exactly if there is one. -/
theorem search_finds [Nontrivial W] (hg : g.Domain P) (hid : ∀ n, P n → n ≠ noJoint)
    (hs : P start) (hest : ∀ n, P n → ∃ rest, estimate n = .ok rest) :
    ∃ answer, search g estimate start goal = .ok answer ∧
      (answer.isSome = true ↔ ∃ nodes c, g.Walk .outgoing start nodes goal c ∧ c < ⊤) ∧
      ∀ path ∈ answer, g.Walk .outgoing start path.joints goal path.weight ∧ path.weight < ⊤ := by
  obtain ⟨s, hexploring, hend⟩ := search_ends (M := Exploring g estimate P start goal)
    (fun _ h _ he => h.underway.grown.node_mem hs he) hg hs hest .init
    fun _ _ h hnext => h.next hg hid hs hnext
  rcases hend with ⟨hnil, hsearch⟩ | ⟨path, hstep, hsearch⟩
  · refine ⟨none, hsearch, ⟨fun h => Bool.noConfusion h, ?_⟩, fun _ h => nomatch h⟩
    rintro ⟨nodes, c, hwalk, hlt⟩
    have htree := hexploring.underway.grown.tree hnil
    have hset := htree.settled_of_walk hexploring.spread hnil hwalk hlt
    rw [hexploring.underway.ahead] at hset
    exact Bool.noConfusion hset
  · obtain ⟨hwalk, hfin⟩ := hexploring.underway.walk hstep
    have hlt : path.weight < ⊤ := by
      rcases hfin with ⟨-, hzero⟩ | hlt
      · rw [hzero]
        exact Cost.zero_lt_top
      · exact hlt
    refine ⟨some path, hsearch, ⟨fun _ => ⟨_, _, hwalk, hlt⟩, fun _ => rfl⟩, ?_⟩
    intro path' hpath'
    obtain rfl := Option.some.inj hpath'
    exact ⟨hwalk, hlt⟩

end AnyEstimate

end BestFirst

end Search

end RoadRouting
