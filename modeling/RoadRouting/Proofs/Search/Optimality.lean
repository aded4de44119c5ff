import RoadRouting.Proofs.Search.Agenda

/-!
# Settled labels are least costs

With weights that are not negative and totals that do not decrease along edges, the label of a
settled node costs no more than any walk from the origin to it. The argument is the classical one:
every walk that leaves the settled nodes does so towards a node that waits in the frontier, and the
entry in front precedes that node's entry.

* `Policy.Consistent`: totals grow with the cost and do not decrease along edges.
* `Side.Agenda.cut`: a walk ends at a settled node, or an entry of the frontier lies on it.
* `Side.Optimal`: settled labels are least costs, and the edges at settled nodes have been followed.
* `Side.Opened.optimal_advance`: every step keeps them least.
-/

namespace RoadRouting.Search

open TwoSided (Side)
open BestFirst (isStale)

variable {ε W : Type} [OrderedCost W]

/-- Totals grow with the cost, and an edge leads to no smaller total. -/
structure Policy.Consistent (π : Policy W) (g : Graph ε W) (d : Direction) (P : Nat → Prop) :
    Prop where
  mono : ∀ n {c c' : W}, c ≤ c' → π.total n c ≤ π.total n c'
  step : ∀ {u v} {w : W}, P u → ⟨v, w⟩ ∈ g.edgesOrNone d u →
    ∀ c, π.total u c ≤ π.total v (c + w)

namespace TwoSided.Side

variable {g : Graph ε W} {d : Direction} {π : Policy W} {P : Nat → Prop}
  {origin : Nat} {s s' : Side W} {e via : Entry W} {rest : Frontier W} {edge : Edge W}
  {es nodes : List (Edge W)} {n : Nat}

/-! ## Offers only lower labels -/

theorem cost_accept_le (hπ : π.Strict) (hadmits : s.admits π via edge = true) :
    ((s.accept π via edge).labels.of n).cost ≤ (s.labels.of n).cost := by
  rw [of_accept]
  split
  case isTrue hn =>
    rw [← hn]
    exact le_of_lt ((hπ _ _).mp (admits_iff.mp hadmits).2)
  case isFalse => exact le_refl _

theorem cost_expand_le (hπ : π.Strict) :
    ((s.expand π e rest es).labels.of n).cost ≤ (s.labels.of n).cost := by
  refine expand_induct (M := fun s' => (s'.labels.of n).cost ≤ (s.labels.of n).cost)
    (by rw [cost_of_settle]) ?_
  intro s' hs' edge _ hadmits
  exact le_trans (cost_accept_le hπ hadmits) hs'

theorem of_expand_of_settled (hn : ((s.settle e rest).labels.of n).settled = true) :
    (s.expand π e rest es).labels.of n = (s.settle e rest).labels.of n := by
  refine expand_induct (M := fun s' => s'.labels.of n = (s.settle e rest).labels.of n) rfl ?_
  intro s' hs' edge _ hadmits
  rw [of_accept_of_settled hadmits (by rw [hs', hn]), hs']

/-- What is settled by an expansion is its own node. -/
theorem settled_expand_cases (hn : ((s.expand π e rest es).labels.of n).settled = true) :
    e.node = n ∨ (s.labels.of n).settled = true := by
  rwa [settled_of_expand, Bool.or_eq_true, decide_eq_true_eq] at hn

/-- No label of a settled node changes its cost. -/
theorem cost_expand_of_settled (hn : ((s.expand π e rest es).labels.of n).settled = true) :
    ((s.expand π e rest es).labels.of n).cost = (s.labels.of n).cost := by
  rw [of_expand_of_settled, cost_of_settle]
  rwa [settled_of_settle, ← settled_of_expand]

/-- After the offers along some edges, no far end that is not settled costs more than the way
    through `via`. -/
theorem cost_offers_le (hπ : π.Strict) (es : List (Edge W)) (s : Side W) :
    ∀ edge ∈ es, (s.labels.of edge.target).settled = false →
      ((es.foldl (offer π via) s).labels.of edge.target).cost ≤ via.cost + edge.weight := by
  have hlower : ∀ (es : List (Edge W)) (s : Side W) (n : Nat),
      ((es.foldl (offer π via) s).labels.of n).cost ≤ (s.labels.of n).cost := by
    intro es s n
    refine List.foldlRecOn (motive := fun s' : Side W =>
      (s'.labels.of n).cost ≤ (s.labels.of n).cost) es _ (le_refl _) fun s' hs' edge _ => ?_
    rw [offer]
    split
    case isTrue h => exact le_trans (cost_accept_le hπ h) hs'
    case isFalse => exact hs'
  induction es generalizing s with
  | nil => intro edge hedge; cases hedge
  | cons x es ih =>
    intro edge hedge hset
    rw [List.foldl_cons]
    rcases List.mem_cons.mp hedge with rfl | hedge
    · refine le_trans (hlower es _ _) ?_
      rw [offer]
      split
      case isTrue h => rw [of_accept, if_pos rfl]
      case isFalse h =>
        apply OrderedCost.le_of_not_lt
        intro hlt
        exact h (admits_iff.mpr ⟨hset, (hπ _ _).mpr hlt⟩)
    · apply ih _ edge hedge
      rw [offer]
      split
      case isTrue h => rw [settled_of_accept h, hset]
      case isFalse => exact hset

/-! ## The frontier cuts every walk -/

/-- Settled labels are least costs, and each edge at a settled node was followed. -/
structure Optimal (g : Graph ε W) (d : Direction) (origin : Nat) (s : Side W) : Prop where
  least : ∀ {n nodes c}, (s.labels.of n).settled = true → g.Walk d origin nodes n c →
    (s.labels.of n).cost ≤ c
  followed : ∀ {u v w}, (s.labels.of u).settled = true → ⟨v, w⟩ ∈ g.edgesOrNone d u →
    (s.labels.of v).cost ≤ (s.labels.of u).cost + w

/-- A walk of finite cost ends at a settled node that is known to cost no more, or leaves the
    settled nodes towards a node whose entry is in the frontier. -/
theorem Agenda.cut (h : s.Agenda g d π P origin) (ho : s.Optimal g d origin)
    (hπ : π.Consistent g d P) (hg : g.Domain P) (hw : g.NonNegative P) (hP : P origin)
    {nodes : List Nat} {c : W} (hwalk : g.Walk d origin nodes n c) (hc : c < Cost.infinity) :
    ((s.labels.of n).settled = true ∧ (s.labels.of n).cost ≤ c) ∨
      ∃ e ∈ s.frontier, e.cost ≤ c ∧ e.total ≤ π.total n c := by
  induction hwalk with
  | here => exact .inl ⟨h.settled_origin, le_of_eq h.cost_origin⟩
  | @step nodes u v c w hu he ih =>
    have hPu : P u := hu.last_mem_domain hg hP
    have hcw : c ≤ c + w := OrderedCost.le_add (hw u hPu d _ he) c
    rcases ih (lt_of_le_of_lt hcw hc) with ⟨hset, hle⟩ | ⟨e, hmem, hcost, htotal⟩
    · have hv : (s.labels.of v).cost ≤ c + w :=
        le_trans (ho.followed hset he) (OrderedCost.add_mono hle w)
      by_cases hvset : (s.labels.of v).settled = true
      · exact .inl ⟨hvset, hv⟩
      · -- the far end is labelled, so it waits in the frontier
        obtain ⟨e, hmem, rfl, hcost⟩ :=
          h.live (Bool.eq_false_iff.mpr hvset) (lt_of_le_of_lt hv hc)
        refine .inr ⟨e, hmem, by rwa [hcost], ?_⟩
        rw [(h.entry e hmem).2.2.1]
        exact hπ.mono _ (by rwa [hcost])
    · exact .inr ⟨e, hmem, le_trans hcost hcw, le_trans htotal (hπ.step hPu he c)⟩

/-- The entry in front, unless it is stale, holds the least cost of its node. -/
theorem Agenda.cost_le_of_head (h : s.Agenda g d π P origin) (ho : s.Optimal g d origin)
    (hπ : π.Consistent g d P) (hg : g.Domain P) (hw : g.NonNegative P) (hP : P origin)
    (hf : s.frontier = e :: rest) (hs : isStale s.labels e = false)
    {nodes : List Nat} {c : W} (hwalk : g.Walk d origin nodes e.node c) : e.cost ≤ c := by
  by_contra hnot
  have hlt : c < e.cost := OrderedCost.lt_of_not_le hnot
  have hfin : c < Cost.infinity := lt_of_lt_of_le hlt (OrderedCost.le_infinity _)
  have hmem : e ∈ s.frontier := Frontier.front_mem hf
  rcases h.cut ho hπ hg hw hP hwalk hfin with ⟨hset, -⟩ | ⟨x, hx, hcost, htotal⟩
  · rw [(isStale_eq_false_iff.mp hs).1] at hset
    cases hset
  · have hxe : x.total ≤ e.total := by
      rw [(h.entry e hmem).2.2.1]
      exact le_trans htotal (hπ.mono _ (le_of_lt hlt))
    exact hnot (le_trans ((h.sorted.head_le hf hx).2 hxe) hcost)

/-! ## Every step keeps settled labels least -/

theorem Optimal.start (origin : Nat) (t : W) :
    Optimal g d origin ⟨[⟨origin, 0, t⟩], .start origin⟩ := by
  have hset : ∀ n, ((Labels.start origin : Labels W).of n).settled = false := by
    intro n
    rw [Labels.of_start]
    split <;> rfl
  constructor
  case least => intro n _ _ hn; rw [hset] at hn; cases hn
  case followed => intro u _ _ hu; rw [hset] at hu; cases hu

theorem Opened.cost_le_of_head (h : s.Opened g d π P origin) (ho : s.Optimal g d origin)
    (hπ : π.Consistent g d P) (hg : g.Domain P) (hw : g.NonNegative P) (hP : P origin)
    (hf : s.frontier = e :: rest) (hs : isStale s.labels e = false)
    {nodes : List Nat} {c : W} (hwalk : g.Walk d origin nodes e.node c) : e.cost ≤ c := by
  rcases h with ⟨t, rfl⟩ | h
  · obtain ⟨rfl, rfl⟩ : (⟨origin, 0, t⟩ : Entry W) = e ∧ [] = rest := List.cons.inj hf
    exact hwalk.nonneg hg hw hP
  · exact h.cost_le_of_head ho hπ hg hw hP hf hs hwalk

/-- `Agenda.cut` for a side that may not have settled its origin yet. -/
theorem Opened.cut (h : s.Opened g d π P origin) (ho : s.Optimal g d origin)
    (hπ : π.Consistent g d P) (hg : g.Domain P) (hw : g.NonNegative P) (hP : P origin)
    {nodes : List Nat} {c : W} (hwalk : g.Walk d origin nodes n c) (hc : c < Cost.infinity) :
    ((s.labels.of n).settled = true ∧ (s.labels.of n).cost ≤ c) ∨
      ∃ e ∈ s.frontier, e.cost ≤ c := by
  rcases h with ⟨t, rfl⟩ | h
  · exact .inr ⟨_, List.mem_singleton_self _, hwalk.nonneg hg hw hP⟩
  · exact (h.cut ho hπ hg hw hP hwalk hc).imp_right fun ⟨e, he, hcost, _⟩ => ⟨e, he, hcost⟩

theorem Optimal.expand (ho : s.Optimal g d origin) (hπ : π.Strict)
    (hagenda : (s.settle e rest).Agenda g d π P origin)
    (hcost : (s.labels.of e.node).cost = e.cost)
    (hleast : ∀ {nodes c}, g.Walk d origin nodes e.node c → e.cost ≤ c)
    (hes : g.edges d e.node = .ok es) : (s.expand π e rest es).Optimal g d origin := by
  have hnewleast : ∀ {n nodes c}, ((s.expand π e rest es).labels.of n).settled = true →
      g.Walk d origin nodes n c → ((s.expand π e rest es).labels.of n).cost ≤ c := by
    intro n nodes c hn hwalk
    rw [cost_expand_of_settled hn]
    rcases settled_expand_cases hn with rfl | hn
    · rw [hcost]
      exact hleast hwalk
    · exact ho.least hn hwalk
  refine ⟨hnewleast, ?_⟩
  intro u v w hu hedge
  rw [cost_expand_of_settled hu]
  rcases settled_expand_cases hu with rfl | hu'
  · have hmem : ⟨v, w⟩ ∈ es := by rwa [Graph.edgesOrNone_eq hes] at hedge
    by_cases hv : ((s.settle e rest).labels.of v).settled = true
    · -- a settled far end costs no more than the walk along this edge
      obtain ⟨_, hwalk⟩ := hagenda.walk (hagenda.met settled_settle_node)
      rw [cost_of_settle] at hwalk
      refine hnewleast ?_ (.step hwalk hedge)
      rwa [settled_of_expand, ← settled_of_settle]
    · rw [hcost]
      exact cost_offers_le hπ es _ _ hmem (Bool.eq_false_iff.mpr hv)
  · exact le_trans (cost_expand_le hπ) (ho.followed hu' hedge)

theorem Opened.optimal_advance (h : s.Opened g d π P origin) (ho : s.Optimal g d origin)
    (hstrict : π.Strict) (hπ : π.Consistent g d P) (hg : g.Domain P) (hw : g.NonNegative P)
    (hP : P origin) (ha : Advance g d π s s') : s'.Optimal g d origin := by
  cases ha with
  | drop => exact ⟨ho.least, ho.followed⟩
  | @expand e rest es hf hs hes =>
    have he : e ∈ s.frontier := Frontier.front_mem hf
    exact ho.expand hstrict (h.settle hf) (h.cost_eq he hs)
      (h.cost_le_of_head ho hπ hg hw hP hf hs) hes

end TwoSided.Side

end RoadRouting.Search
