import RoadRouting.Proofs.Graph.Distance
import RoadRouting.Proofs.Search.Ending
import RoadRouting.Proofs.Search.Estimates

/-!
# What an estimate saves

An estimate that drops along no edge by more than the edge weighs, and is zero at the goal, never
makes a search settle more nodes. A node that is nearer than the goal is settled by Dijkstra's
search before the goal, so only those at the same distance as the goal matter. Of them the guided
search settles only nodes whose estimate is zero: the rim. Both searches take the nodes of the rim
in the same order, by the tie-breaks of their frontiers, although what they settle in between
differs.

* `Rim`: the nodes at the distance of the goal whose estimate is zero.
* `Rim.node_eq`: two searches that have settled the same part of the rim agree on its next node.
* `BestFirst.follow`: the one settles that node whenever the other does.
* `BestFirst.better_estimate_settles_no_more`: of two such estimates the greater one is the better
  one.
* `BestFirst.guided_search_settles_no_more`: so none is worse than Dijkstra's search, which
  estimates zero.
-/

namespace RoadRouting.Search

open TwoSided (Side)
open BestFirst (isStale policy)

variable {ε W : Type} [LinearOrderedAddCommMonoidWithTop W] {g : Graph ε W} {P : Nat → Prop}
  {h k : Nat → W} {start goal : Nat} {C c : W} {n : Nat} {nodes : List Nat}

/-- Estimates that do not fail. -/
abbrev certain (ε : Type) (h : Nat → W) : Nat → Except ε W := fun n => .ok (h n)

theorem guides_certain (hdrop : ∀ u, P u → ∀ e ∈ g.edgesOrNone .outgoing u,
    h u ≤ e.weight + h e.target) : g.Guides P (certain ε h) := by
  refine ⟨fun _ => ⟨_, rfl⟩, fun hu he ha hb => ?_⟩
  obtain rfl := Except.ok.inj ha
  obtain rfl := Except.ok.inj hb
  exact hdrop _ hu _ he

/-! ## The node settled next -/

namespace TwoSided.Side

variable {s s' : Side W} {e e' : Entry W}

theorem Optimal.distance {π : Policy W} (ho : s.Optimal g .outgoing start)
    (ha : s.Agenda g .outgoing π P start) (hn : (s.labels.of n).settled = true) :
    g.Distance start n (s.labels.of n).cost := by
  refine ⟨.inr (ha.walk (ha.met hn)), ?_⟩
  rintro c (rfl | ⟨nodes, hwalk⟩)
  · exact le_top
  · exact ho.least hn hwalk

/-- A search guided by `k` has settled its origin, and is about to settle the node of `e`. -/
structure Ready (g : Graph ε W) (k : Nat → W) (P : Nat → Prop) (start : Nat) (s : Side W)
    (e : Entry W) : Prop where
  guides : g.Guides P (certain ε k)
  agenda : s.Agenda g .outgoing (policy (certain ε k)) P start
  optimal : s.Optimal g .outgoing start
  front : ∃ rest, s.frontier = e :: rest
  fresh : isStale s.labels e = false

namespace Ready

theorem mem (hr : s.Ready g k P start e) : e ∈ s.frontier := by
  obtain ⟨rest, hf⟩ := hr.front
  rw [hf]
  exact List.mem_cons_self

theorem cost_lt_top (hr : s.Ready g k P start e) : e.cost < ⊤ := by
  rw [← hr.agenda.cost_eq hr.mem hr.fresh]
  exact (hr.agenda.entry e hr.mem).2.1

theorem total_eq (hr : s.Ready g k P start e) : e.total = e.cost + k e.node :=
  (hr.agenda.entry e hr.mem).2.2.1

theorem unsettled (hr : s.Ready g k P start e) : (s.labels.of e.node).settled = false :=
  (isStale_eq_false_iff.mp hr.fresh).1

variable (hg : g.Domain P) (hw : g.NonNegative P) (hs : P start)

include hg hw hs

theorem distance (hr : s.Ready g k P start e) : g.Distance start e.node e.cost := by
  refine ⟨.inr ?_, ?_⟩
  · rw [← hr.agenda.cost_eq hr.mem hr.fresh]
    exact hr.agenda.walk (.inr (hr.agenda.entry e hr.mem).2.1)
  · rintro c (rfl | ⟨nodes, hwalk⟩)
    · exact le_top
    · obtain ⟨rest, hf⟩ := hr.front
      exact hr.agenda.cost_le_of_head hr.optimal (BestFirst.policy_consistent hr.guides hg) hg hw hs
        hf hr.fresh hwalk

/-- All that is nearer is settled, unless its estimate makes up for it. -/
theorem settled_of_lt (hr : s.Ready g k P start e) (hzero : k e.node = 0)
    (hwalk : g.Walk .outgoing start nodes n c) (hlt : c < e.cost) (htotal : c + k n ≤ e.cost) :
    (s.labels.of n).settled = true := by
  obtain ⟨rest, hf⟩ := hr.front
  rcases hr.agenda.cut hr.optimal (BestFirst.policy_consistent hr.guides hg) hg hw hs hwalk
    (lt_of_lt_of_le hlt le_top) with ⟨hset, -⟩ | ⟨x, hx, hcost, hxtotal⟩
  · exact hset
  · have hxe : x.total ≤ e.total := by
      rw [hr.total_eq, hzero, add_zero]
      exact le_trans hxtotal htotal
    have hex : e.cost ≤ x.cost := (hr.agenda.sorted.head_le hf hx).2 hxe
    exact absurd (le_trans hex hcost) (not_le_of_gt hlt)

end Ready

end TwoSided.Side

/-! ## The rim -/

/-- The nodes at distance `C` from the start whose estimate is zero. -/
structure Rim (g : Graph ε W) (h : Nat → W) (start : Nat) (C : W) (n : Nat) : Prop where
  estimate : h n = 0
  distance : g.Distance start n C

namespace Rim

variable {s s' : Side W} {e e' : Entry W} {k' : Nat → W} (hg : g.Domain P) (hw : g.NonNegative P)
  (hs : P start) (hh : g.Guides P (certain ε h)) (hnonneg : ∀ n, P n → 0 ≤ h n)

include hg hw hs hh hnonneg

/-- The node before a node of the rim that is about to be settled is settled on every side that has
    settled the same part of the rim and is about to settle one of its nodes. -/
theorem settled_before (he : Rim g h start C e.node) (hr : s.Ready g k P start e)
    (he' : Rim g h start C e'.node) (hr' : s'.Ready g k' P start e')
    (hzero' : ∀ n, Rim g h start C n → k' n = 0)
    (hsame : ∀ n, Rim g h start C n → (s.labels.of n).settled = true →
      (s'.labels.of n).settled = true)
    {p : Nat} {w : W} (hp : (s.labels.of p).settled = true)
    (hedge : ⟨e.node, w⟩ ∈ g.edgesOrNone .outgoing p) (hsum : C = (s.labels.of p).cost + w) :
    (s'.labels.of p).settled = true := by
  obtain ⟨nodes, hwalk⟩ := hr.agenda.walk (hr.agenda.met hp)
  have hP : P p := hwalk.last_mem_domain hg hs
  have hC : e'.cost = C := (hr'.distance hg hw hs).unique he'.distance
  have hle : (s.labels.of p).cost ≤ C := by
    rw [hsum]
    exact le_add_of_nonneg_right (hw p hP .outgoing _ hedge)
  rcases lt_or_eq_of_le hle with hlt | heq
  · refine hr'.settled_of_lt hg hw hs (hzero' _ he') hwalk (by rwa [hC]) ?_
    have hdrop : k' p ≤ w + k' e.node := hr'.guides.drop_le hP hedge rfl rfl
    rw [hzero' _ he, add_zero] at hdrop
    rw [hC, hsum]
    exact add_le_add_right hdrop _
  · -- the edge weighs nothing, so the node before is on the rim as well
    have hw0 : w = 0 := by
      have htop : C ≠ ⊤ := by
        rw [← hC]
        exact ne_of_lt hr'.cost_lt_top
      rw [heq] at hsum
      rw [← add_right_inj_of_ne_top htop, ← hsum, add_zero]
    have hdrop : h p ≤ w + h e.node := hh.drop_le hP hedge rfl rfl
    rw [he.estimate, hw0, add_zero] at hdrop
    refine hsame p ⟨le_antisymm hdrop (hnonneg p hP), ?_⟩ hp
    rw [← heq]
    exact hr.optimal.distance hr.agenda hp

/-- So the node waits on that side, at its distance. -/
theorem cost_eq (he : Rim g h start C e.node) (hr : s.Ready g k P start e)
    (he' : Rim g h start C e'.node) (hr' : s'.Ready g k' P start e')
    (hzero' : ∀ n, Rim g h start C n → k' n = 0)
    (hsame : ∀ n, Rim g h start C n → (s.labels.of n).settled = true →
      (s'.labels.of n).settled = true) : (s'.labels.of e.node).cost = C := by
  have hcost := hr.agenda.cost_eq hr.mem hr.fresh
  have hC : e.cost = C := (hr.distance hg hw hs).unique he.distance
  rcases hr.agenda.link (hr.agenda.entry e hr.mem).2.1 with heq | ⟨p, w, hp, hedge, hsum⟩
  · have hunset := hr.unsettled
    rw [heq, hr.agenda.settled_origin] at hunset
    cases hunset
  · rw [hcost, hC] at hsum
    have hp' : (s'.labels.of p).settled = true :=
      settled_before hg hw hs hh hnonneg he hr he' hr' hzero' hsame hp hedge hsum
    have hsum' : C = (s'.labels.of p).cost + w := by
      rw [(hr'.optimal.distance hr'.agenda hp').unique (hr.optimal.distance hr.agenda hp), hsum]
    have hle : (s'.labels.of e.node).cost ≤ C := by
      rw [hsum']
      exact hr'.optimal.followed hp' hedge
    refine le_antisymm hle (he.distance.2 (.inr (hr'.agenda.walk (.inr ?_))))
    rw [← hC] at hle
    exact lt_of_le_of_lt hle hr.cost_lt_top

/-- An entry in front that is on the rim is taken no later than what another side is about to
    settle. -/
theorem notAfter (he : Rim g h start C e.node) (hr : s.Ready g k P start e)
    (hzero : ∀ n, Rim g h start C n → k n = 0)
    (he' : Rim g h start C e'.node) (hr' : s'.Ready g k' P start e')
    (hzero' : ∀ n, Rim g h start C n → k' n = 0)
    (hsame : ∀ n, Rim g h start C n →
      ((s.labels.of n).settled = true ↔ (s'.labels.of n).settled = true)) : e.NotAfter e' := by
  have hC : e'.cost = C := (hr'.distance hg hw hs).unique he'.distance
  have hcost : (s.labels.of e'.node).cost = C :=
    cost_eq hg hw hs hh hnonneg he' hr' he hr hzero fun n hn => (hsame n hn).mpr
  have hset : (s.labels.of e'.node).settled = false := by
    rw [Bool.eq_false_iff, Ne, hsame _ he', hr'.unsettled]
    exact Bool.false_ne_true
  obtain ⟨rest, hf⟩ := hr.front
  have hfront := hr.agenda.front_notAfter hf hset (by
    rw [hcost, ← hC]
    exact hr'.cost_lt_top)
  have hentry : (⟨e'.node, C, (policy (certain ε k)).total e'.node C⟩ : Entry W) = e' := by
    have htotal : (policy (certain ε k)).total e'.node C = e'.total := by
      show C + k e'.node = e'.total
      rw [hr'.total_eq, hzero _ he', hzero' _ he', hC]
    rw [htotal, ← hC]
  rwa [hcost, hentry] at hfront

/-- Two sides that have settled the same part of the rim agree on which of its nodes comes next. -/
theorem node_eq (he : Rim g h start C e.node) (hr : s.Ready g k P start e)
    (hzero : ∀ n, Rim g h start C n → k n = 0)
    (he' : Rim g h start C e'.node) (hr' : s'.Ready g k' P start e')
    (hzero' : ∀ n, Rim g h start C n → k' n = 0)
    (hsame : ∀ n, Rim g h start C n →
      ((s.labels.of n).settled = true ↔ (s'.labels.of n).settled = true)) : e.node = e'.node :=
  (notAfter hg hw hs hh hnonneg he hr hzero he' hr' hzero' hsame).node_eq
    (notAfter hg hw hs hh hnonneg he' hr' hzero' he hr hzero fun n hn => (hsame n hn).symm)

end Rim

/-! ## Two searches -/

namespace BestFirst

section Runs

variable {s s' a b last : State W} {e : Entry W} {rest : Frontier W}

variable (hg : g.Domain P) (hw : g.NonNegative P) (hs : P start)

include hg hw hs

theorem Reaches.optimal (hk : g.Guides P (certain ε k)) (hr : Reaches g (certain ε k) start goal s) :
    s.side.Optimal g .outgoing start :=
  hr.induct (M := fun s => s.side.Optimal g .outgoing start) (fun rest _ => .start start rest)
    fun _ _ hr ho hnext => (hr.opened hg hs).optimal_advance ho (policy_strict _)
      (policy_consistent hk hg) hg hw hs (step_running hnext).1

theorem Reaches.ready (hk : g.Guides P (certain ε k)) (hr : Reaches g (certain ε k) start goal s)
    (hstart : (s.side.labels.of start).settled = true) (hf : s.frontier = e :: rest)
    (hfresh : isStale s.labels e = false) : s.side.Ready g k P start e where
  guides := hk
  agenda := (hr.opened hg hs).agenda_of_settled hstart
  optimal := hr.optimal hg hw hs hk
  front := ⟨rest, hf⟩
  fresh := hfresh

/-- A search with nothing left has settled all that is reached at a finite cost. -/
theorem Reaches.settled_of_nil (hk : g.Guides P (certain ε k))
    (hr : Reaches g (certain ε k) start goal s) (hnil : s.frontier = [])
    (hwalk : g.Walk .outgoing start nodes n c) (hc : c < ⊤) :
    (s.side.labels.of n).settled = true := by
  have hagenda := (hr.opened hg hs).agenda_of_nil hnil
  rcases hagenda.cut (hr.optimal hg hw hs hk) (policy_consistent hk hg) hg hw hs hwalk hc
    with ⟨hset, -⟩ | ⟨x, hx, -⟩
  · exact hset
  · rw [State.side, hnil] at hx
    cases hx

/-- What one of two searches has settled is settled by the other one in the end, if neither finds
    its goal. -/
theorem Reaches.visited_le_of_nil (hh : g.Guides P (certain ε h))
    (hr : Reaches g (certain ε k) start goal s) (hnil : s.frontier = [])
    (hr' : Reaches g (certain ε h) start goal s') (hnil' : s'.frontier = []) :
    s.visited ≤ s'.visited := by
  refine hr.visited_le hr' fun n hn => ?_
  have hagenda := (hr.opened hg hs).agenda_of_nil hnil
  rcases hagenda.met hn with rfl | hlt
  · exact ((hr'.opened hg hs).agenda_of_nil hnil').settled_origin
  · obtain ⟨nodes, hwalk⟩ := hagenda.walk (.inr hlt)
    exact hr'.settled_of_nil hg hw hs hh hnil' hwalk hlt

variable (hh : g.Guides P (certain ε h)) (hk : g.Guides P (certain ε k))
  (hnonneg : ∀ n, P n → 0 ≤ h n) (hzero : ∀ n, Rim g h start C n → k n = 0)

include hh hk hnonneg hzero

/-- Two searches that have settled the same part of the rim, and are about to settle one of its
    nodes, settle the same node. -/
theorem same_node (ha : Reaches g (certain ε h) start goal a) (hf : a.frontier = e :: rest)
    (hfresh : isStale a.labels e = false) (he : Rim g h start C e.node)
    (hb : Reaches g (certain ε k) start goal b) {x : Entry W} {xs : Frontier W}
    (hx : b.frontier = x :: xs) (hxfresh : isStale b.labels x = false)
    (hxrim : Rim g h start C x.node) (hsame : ∀ n, Rim g h start C n →
      ((a.side.labels.of n).settled = true ↔ (b.side.labels.of n).settled = true)) :
    e.node = x.node := by
  have hmem : e ∈ a.side.frontier := Frontier.front_mem hf
  have hxmem : x ∈ b.side.frontier := Frontier.front_mem hx
  by_cases hstart : (a.side.labels.of start).settled = true
  · have hstart' : (b.side.labels.of start).settled = true := by
      by_contra hnot
      rw [(hb.opened hg hs).node_eq_origin hnot hxmem] at hxrim
      exact hnot ((hsame start hxrim).mp hstart)
    exact Rim.node_eq hg hw hs hh hnonneg he (ha.ready hg hw hs hh hstart hf hfresh)
      (fun _ hn => hn.estimate) hxrim (hb.ready hg hw hs hk hstart' hx hxfresh) hzero hsame
  · -- neither has settled the start, and nothing else waits
    have horigin := (ha.opened hg hs).node_eq_origin hstart hmem
    rw [horigin] at he
    rw [hsame start he] at hstart
    rw [horigin, (hb.opened hg hs).node_eq_origin hstart hxmem]

/-- When a search is about to settle a node of the rim, another one that has settled the same part
    of the rim comes to settle that node, as long as it comes to settle some node of the rim. -/
theorem follow (ha : Reaches g (certain ε h) start goal a) (hf : a.frontier = e :: rest)
    (hfresh : isStale a.labels e = false) (he : Rim g h start C e.node) (hgoal : e.node ≠ goal)
    (hb : Reaches g (certain ε k) start goal b)
    (hsame : ∀ n, Rim g h start C n →
      ((a.side.labels.of n).settled = true ↔ (b.side.labels.of n).settled = true))
    (hlast : Relation.ReflTransGen (Next g (certain ε k) goal) b last)
    {x : Entry W} {xs : Frontier W} (hx : last.frontier = x :: xs)
    (hxfresh : isStale last.labels x = false) (hxrim : Rim g h start C x.node) :
    ∃ b', Reaches g (certain ε k) start goal b' ∧ ∀ n, Rim g h start C n →
      ((b'.side.labels.of n).settled = true ↔ e.node = n ∨ (a.side.labels.of n).settled = true) := by
  obtain ⟨b', hreach, hkeep, e', rest', hf', hfresh', he'⟩ := exists_first hlast hx hxfresh hxrim
  have hb' := hb.next hreach
  have hsame' : ∀ n, Rim g h start C n →
      ((a.side.labels.of n).settled = true ↔ (b'.side.labels.of n).settled = true) := by
    intro n hn
    rw [hsame n hn, hkeep n hn]
  have hnode : e.node = e'.node :=
    same_node hg hw hs hh hk hnonneg hzero ha hf hfresh he hb' hf' hfresh' he' hsame'
  have hmem' : e' ∈ b'.side.frontier := Frontier.front_mem hf'
  have hes : g.edges .outgoing e'.node = .ok (g.edgesOrNone .outgoing e'.node) :=
    hg.edges_eq ((hb'.opened hg hs).node_mem hs hmem') .outgoing
  obtain ⟨b'', hnext, hside, -⟩ : ∃ s', Next g (certain ε k) goal b' s' ∧ _ ∧ _ :=
    exists_next hf' hfresh' (hnode ▸ hgoal) hes fun edge _ => ⟨k edge.target, rfl⟩
  refine ⟨b'', hb'.next (.single hnext), fun n hn => ?_⟩
  rw [hside, Side.settled_of_expand, Bool.or_eq_true, decide_eq_true_eq, hsame' n hn, hnode]

end Runs

section Guided

variable {a a' b last : State W} {e x : Entry W} {rest xs : Frontier W}

variable (hg : g.Domain P) (hw : g.NonNegative P) (hs : P start) (hh : g.Guides P (certain ε h))
  (hnonneg : ∀ n, P n → 0 ≤ h n) (hgoal : h goal = 0) (hle : ∀ n, P n → k n ≤ h n)

include hg hw hs hh hnonneg hgoal hle

/-- A node that the guided search settles before the goal is nearer than the goal, or on the rim.
    The other search has settled it before the goal in the first case. -/
theorem settled_or_rim (ha : Reaches g (certain ε h) start goal a) (hx : a.frontier = x :: xs)
    (hxfresh : isStale a.labels x = false) (hlast : last.side.Ready g k P start e)
    (hnode : e.node = goal) (hzero : k goal = 0) :
    (last.side.labels.of x.node).settled = true ∨ Rim g h start e.cost x.node := by
  by_cases hstart : (a.side.labels.of start).settled = true
  · have hready := ha.ready hg hw hs hh hstart hx hxfresh
    have hP : P x.node := (ha.opened hg hs).node_mem hs hready.mem
    have hxtotal : x.cost + h x.node ≤ e.cost := by
      obtain ⟨nodes, hwalk⟩ := (hlast.distance hg hw hs).1.resolve_left (ne_of_lt hlast.cost_lt_top)
      rw [hnode] at hwalk
      rcases hready.agenda.cut hready.optimal (policy_consistent hh hg) hg hw hs hwalk
        hlast.cost_lt_top with ⟨hset, -⟩ | ⟨y, hy, -, hytotal⟩
      · rw [ha.ahead] at hset
        cases hset
      · have hxy : x.total ≤ y.total := (hready.agenda.sorted.head_le hx hy).1
        rw [← hready.total_eq]
        refine le_trans hxy (le_trans hytotal ?_)
        show e.cost + h goal ≤ e.cost
        rw [hgoal, add_zero]
    have hxcost : x.cost ≤ e.cost := le_trans (le_add_of_nonneg_right (hnonneg _ hP)) hxtotal
    rcases lt_or_eq_of_le hxcost with hlt | heq
    · obtain ⟨nodes, hwalk⟩ :=
        (hready.distance hg hw hs).1.resolve_left (ne_of_lt hready.cost_lt_top)
      refine .inl (hlast.settled_of_lt hg hw hs (by rw [hnode, hzero]) hwalk hlt ?_)
      exact le_trans (add_le_add_right (hle _ hP) _) hxtotal
    · refine .inr ⟨?_, heq ▸ hready.distance hg hw hs⟩
      rw [← heq] at hxtotal
      refine le_antisymm ?_ (hnonneg _ hP)
      rwa [← add_le_add_iff_right_of_ne_top (ne_of_lt hready.cost_lt_top), add_zero]
  · have hmem : x ∈ a.side.frontier := Frontier.front_mem hx
    rw [(ha.opened hg hs).node_eq_origin hstart hmem]
    exact .inl hlast.agenda.settled_origin

/-- What the guided search has settled is settled when the other one arrives, and that one has come
    to settle the same part of the rim. -/
structure Tracked (g : Graph ε W) (h k : Nat → W) (start goal : Nat) (C : W) (last a : State W) :
    Prop where
  settled : ∀ n, (a.side.labels.of n).settled = true → (last.side.labels.of n).settled = true
  rim : ∃ b, Reaches g (certain ε k) start goal b ∧ ∀ n, Rim g h start C n →
    ((a.side.labels.of n).settled = true ↔ (b.side.labels.of n).settled = true)

omit hg hw hs hh hnonneg hgoal hle in
theorem Tracked.init (C t : W) (last : State W) :
    Tracked g h k start goal C last (init start t) where
  settled n hn := by
    rw [State.side, BestFirst.init, Labels.of_start] at hn
    split at hn <;> cases hn
  rim := ⟨BestFirst.init start (k start), ⟨_, rfl, .refl⟩, fun _ _ => Iff.rfl⟩

theorem Tracked.next (ht : Tracked g h k start goal e.cost last a) (hk : g.Guides P (certain ε k))
    (hzero : ∀ n, Rim g h start e.cost n → k n = 0) (ha : Reaches g (certain ε h) start goal a)
    (hnext : Next g (certain ε h) goal a a') (hlast : Reaches g (certain ε k) start goal last)
    (hf : last.frontier = e :: rest) (hfresh : isStale last.labels e = false)
    (hnode : e.node = goal) (hready : last.side.Ready g k P start e) :
    Tracked g h k start goal e.cost last a' := by
  have hgoalrim : Rim g h start e.cost e.node :=
    ⟨by rw [hnode, hgoal], hready.distance hg hw hs⟩
  have hstop : ∀ s, ¬ Next g (certain ε k) goal last s := by
    intro s hnext
    cases (step_of_goal hf hfresh hnode).symm.trans hnext
  obtain ⟨hsub, b, hb, hsame⟩ := ht
  rcases next_cases hnext with ⟨hlabels, -⟩ | ⟨x, xs, es, hx, hxfresh, hxgoal, -, hside, -⟩
  · refine ⟨?_, b, hb, ?_⟩
    · rwa [hlabels]
    · rwa [hlabels]
  · have hsettled : ∀ n, (a'.side.labels.of n).settled = true ↔
        x.node = n ∨ (a.side.labels.of n).settled = true := by
      intro n
      rw [hside, Side.settled_of_expand, Bool.or_eq_true, decide_eq_true_eq]
    by_cases hxrim : Rim g h start e.cost x.node
    · obtain ⟨b', hb', hsame'⟩ := follow hg hw hs hh hk hnonneg hzero ha hx hxfresh hxrim hxgoal hb
        hsame (hb.reaches_last hlast hstop) hf hfresh hgoalrim
      refine ⟨fun n hn => ?_, b', hb', fun n hn => (hsettled n).trans (hsame' n hn).symm⟩
      rcases (hsettled n).mp hn with rfl | hn
      · exact settled_of_reaches (hb'.reaches_last hlast hstop) ((hsame' _ hxrim).mpr (.inl rfl))
      · exact hsub n hn
    · refine ⟨fun n hn => ?_, b, hb, fun n hn => ?_⟩
      · rcases (hsettled n).mp hn with rfl | hn
        · exact (settled_or_rim hg hw hs hh hnonneg hgoal hle ha hx hxfresh hready hnode
            (hnode ▸ hzero _ hgoalrim)).resolve_right hxrim
        · exact hsub n hn
      · have hne : x.node ≠ n := by
          rintro rfl
          exact hxrim hn
        rw [hsettled, ← hsame n hn]
        exact or_iff_right hne

/-- When both searches arrive, the guided one has settled no more nodes. -/
theorem visited_le_of_arrived (hk : g.Guides P (certain ε k)) (hknonneg : ∀ n, P n → 0 ≤ k n)
    (ha : Reaches g (certain ε h) start goal a) (hlast : Reaches g (certain ε k) start goal last)
    (hf : last.frontier = e :: rest) (hfresh : isStale last.labels e = false)
    (hnode : e.node = goal) : a.visited ≤ last.visited := by
  refine ha.visited_le hlast fun n hn => ?_
  have hne : start ≠ goal := by
    rintro rfl
    have hset := (ha.opened hg hs).settled_origin hn
    rw [ha.ahead] at hset
    cases hset
  have hstart : (last.side.labels.of start).settled = true := by
    by_contra hnot
    refine hne ?_
    rw [← hnode, (hlast.opened hg hs).node_eq_origin hnot]
    rw [State.side, hf]
    exact List.mem_cons_self
  have hready := hlast.ready hg hw hs hk hstart hf hfresh
  have hzero : ∀ n, Rim g h start e.cost n → k n = 0 := by
    intro n hn
    obtain ⟨nodes, hwalk⟩ := hn.distance.1.resolve_left (ne_of_lt hready.cost_lt_top)
    have hP : P n := hwalk.last_mem_domain hg hs
    exact le_antisymm (le_of_le_of_eq (hle n hP) hn.estimate) (hknonneg n hP)
  have htracked : Tracked g h k start goal e.cost last a :=
    ha.induct (fun t _ => .init e.cost t last) fun a a' ha ht hnext =>
      ht.next hg hw hs hh hnonneg hgoal hle hk hzero ha hnext hlast hf hfresh hnode hready
  exact htracked.settled n hn

end Guided

/-- Of two searches with estimates that guide them, either both arrive or none does. -/
theorem arrives_of_arrives (hg : g.Domain P) (hw : g.NonNegative P) (hs : P start)
    (hh : g.Guides P (certain ε h)) (hk : g.Guides P (certain ε k)) {a b : State W} {e : Entry W}
    {rest : Frontier W} (ha : Reaches g (certain ε h) start goal a)
    (hb : Reaches g (certain ε k) start goal b) (hf : b.frontier = e :: rest)
    (hfresh : isStale b.labels e = false) (hnode : e.node = goal) : a.frontier ≠ [] := by
  intro hnil
  have hahead := ha.ahead
  have hset : (a.side.labels.of goal).settled = true := by
    by_cases hstart : (b.side.labels.of start).settled = true
    · have hready := hb.ready hg hw hs hk hstart hf hfresh
      obtain ⟨nodes, hwalk⟩ :=
        (hready.distance hg hw hs).1.resolve_left (ne_of_lt hready.cost_lt_top)
      rw [hnode] at hwalk
      exact ha.settled_of_nil hg hw hs hh hnil hwalk hready.cost_lt_top
    · have hmem : e ∈ b.side.frontier := Frontier.front_mem hf
      rw [← hnode, (hb.opened hg hs).node_eq_origin hstart hmem]
      exact ((ha.opened hg hs).agenda_of_nil hnil).settled_origin
  rw [hahead] at hset
  cases hset

/-- A search whose estimate is nowhere below that of another one settles no more nodes than that,
    and as many if there is no way. Both estimates are zero or more, and guide the search. -/
theorem better_estimate_settles_no_more (hg : g.Domain P) (hw : g.NonNegative P) (hs : P start)
    (hh : g.Guides P (certain ε h)) (hk : g.Guides P (certain ε k)) (hgoal : h goal = 0)
    (hnonneg : ∀ n, P n → 0 ≤ k n) (hle : ∀ n, P n → k n ≤ h n) :
    ∃ better other m n, Ends g (certain ε h) start goal better m ∧
      Ends g (certain ε k) start goal other n ∧ (better = none ↔ other = none) ∧ m ≤ n ∧
      (other = none → m = n) := by
  obtain ⟨a, ha, hlasta⟩ : ∃ s, Reaches g (certain ε h) start goal s ∧ _ :=
    exists_last hg hs fun n _ => ⟨h n, rfl⟩
  obtain ⟨b, hb, hlastb⟩ : ∃ s, Reaches g (certain ε k) start goal s ∧ _ :=
    exists_last hg hs fun n _ => ⟨k n, rfl⟩
  rcases hlasta with hnila | ⟨x, xs, hx, hxfresh, hxgoal⟩
  · rcases hlastb with hnilb | ⟨e, rest, hf, hfresh, hnode⟩
    · have hvisited : a.visited = b.visited :=
        le_antisymm (ha.visited_le_of_nil hg hw hs hk hnila hb hnilb)
          (hb.visited_le_of_nil hg hw hs hh hnilb ha hnila)
      exact ⟨none, none, _, _, .exhausted ha hnila, .exhausted hb hnilb, Iff.rfl, le_of_eq hvisited,
        fun _ => hvisited⟩
    · exact absurd hnila (arrives_of_arrives hg hw hs hh hk ha hb hf hfresh hnode)
  · rcases hlastb with hnilb | ⟨e, rest, hf, hfresh, hnode⟩
    · exact absurd hnilb (arrives_of_arrives hg hw hs hk hh hb ha hx hxfresh hxgoal)
    · have hvisited : a.visited ≤ b.visited :=
        visited_le_of_arrived hg hw hs hh (fun n hn => le_trans (hnonneg n hn) (hle n hn)) hgoal hle
          hk hnonneg ha hb hf hfresh hnode
      exact ⟨_, _, _, _, .arrived ha (step_of_goal hx hxfresh hxgoal),
        .arrived hb (step_of_goal hf hfresh hnode),
        iff_of_false (Option.some_ne_none _) (Option.some_ne_none _), Nat.succ_le_succ hvisited,
        fun hnone => absurd hnone (Option.some_ne_none _)⟩

/-- With an estimate that is zero or more, zero at the goal, and drops along no edge by more than
    the edge weighs, the search settles at most as many nodes as Dijkstra's, and as many if there is
    no way. An answer tells how many. -/
theorem guided_search_settles_no_more (hg : g.Domain P) (hw : g.NonNegative P) (hs : P start)
    (hnonneg : ∀ n, P n → 0 ≤ h n) (hgoal : h goal = 0)
    (hdrop : ∀ u, P u → ∀ e ∈ g.edgesOrNone .outgoing u, h u ≤ e.weight + h e.target) :
    ∃ guided one m n, Ends g (fun n => .ok (h n)) start goal guided m ∧
      Ends g (fun _ => .ok 0) start goal one n ∧
      search g (fun n => .ok (h n)) start goal = .ok guided ∧ dijkstra g start goal = .ok one ∧
      (∀ path ∈ guided, path.visited = m) ∧ (∀ path ∈ one, path.visited = n) ∧
      (guided = none ↔ one = none) ∧ m ≤ n ∧ (one = none → m = n) := by
  have hzero : g.Guides P (certain ε fun _ => 0) := guides_certain fun u hu e he => by
    rw [add_zero]
    exact hw u hu .outgoing e he
  obtain ⟨guided, one, m, n, hm, hn, hnone, hle, heq⟩ :=
    better_estimate_settles_no_more hg hw hs (guides_certain hdrop) hzero hgoal (fun _ _ => le_rfl)
      hnonneg
  exact ⟨guided, one, m, n, hm, hn, hm.search_eq, hn.search_eq, hm.visited_eq, hn.visited_eq, hnone,
    hle, heq⟩

/-- Nodes 2, 3 and 5 are as far from the start as the goal 4, and two edges weigh nothing. The estimate
    leads away from node 6. -/
theorem guided_search_settles_no_more_ties :
    let g : Graph Empty (WithTop ℤ) := .ofArcs [(0, 1, (1 : ℤ)), (0, 2, (2 : ℤ)), (0, 6, (1 : ℤ)),
      (1, 3, (1 : ℤ)), (3, 4, (0 : ℤ)), (2, 5, (0 : ℤ)), (2, 4, (1 : ℤ))]
    let h : Nat → WithTop ℤ := fun n => ([2, 1, 1, 0, 0, 1, 5].getD n 0 : ℤ)
    ∃ guided one m n, Ends g (fun n => .ok (h n)) 0 4 guided m ∧ Ends g (fun _ => .ok 0) 0 4 one n ∧
      search g (fun n => .ok (h n)) 0 4 = .ok guided ∧ dijkstra g 0 4 = .ok one ∧
      (∀ path ∈ guided, path.visited = m) ∧ (∀ path ∈ one, path.visited = n) ∧
      (guided = none ↔ one = none) ∧ m ≤ n ∧ (one = none → m = n) := by
  intro g h
  refine guided_search_settles_no_more (P := (· < 7)) (Graph.domain_ofArcs (by decide))
    (Graph.nonNegative_ofArcs (by decide)) (by decide) (by decide) rfl fun u _ => ?_
  exact Graph.forall_edges_ofArcs (M := fun u e => h u ≤ e.weight + h e.target) (by decide) u

end BestFirst

end RoadRouting.Search
