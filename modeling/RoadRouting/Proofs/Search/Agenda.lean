import RoadRouting.Proofs.Search.Tree

/-!
# What decides the next node

The labels alone tell which node is settled next: every node that was met and is not settled waits
under the cost of its label, and other entries are stale.

Parents have no part in this. So nothing is assumed of the numbers of nodes, not even that none of
them stands for the absence of a node.

* `Side.Agenda`: the labels are costs of walks, and those of unsettled nodes wait in the frontier.
* `Side.Opened.advance`: a step keeps this, and the first step establishes it.
* `Side.Opened.front_eq`: two sides with the same labels settle the same node next.
-/

namespace RoadRouting.Search

open TwoSided (Side)
open BestFirst (isStale)

variable {ε W : Type}

namespace TwoSided.Side

section Ranked

variable [Cost W] {g : Graph ε W} {d : Direction} {π : Policy W} {P : Nat → Prop} {origin : Nat}
  {s s' : Side W} {e via : Entry W} {rest : Frontier W} {edge : Edge W} {es : List (Edge W)} {n : Nat}

/-- Every finite label is the cost of a walk that ends with an edge at a settled node, and the
    frontier holds the labels of the nodes that are not settled, among stale entries. -/
structure Agenda (g : Graph ε W) (d : Direction) (π : Policy W) (P : Nat → Prop) (origin : Nat)
    (s : Side W) : Prop extends s.Waiting π P fun n => (s.labels.of n).cost < Cost.infinity where
  settled_origin : (s.labels.of origin).settled = true
  cost_origin : (s.labels.of origin).cost = 0
  met : ∀ {n}, (s.labels.of n).settled = true → n = origin ∨ (s.labels.of n).cost < Cost.infinity
  link : ∀ {n}, (s.labels.of n).cost < Cost.infinity → n = origin ∨
    ∃ p w, (s.labels.of p).settled = true ∧ ⟨n, w⟩ ∈ g.edgesOrNone d p ∧
      (s.labels.of n).cost = (s.labels.of p).cost + w
  walk : ∀ {n}, n = origin ∨ (s.labels.of n).cost < Cost.infinity →
    ∃ nodes, g.Walk d origin nodes n (s.labels.of n).cost

/-- The side has only met its origin, or keeps an agenda. -/
def Opened (g : Graph ε W) (d : Direction) (π : Policy W) (P : Nat → Prop) (origin : Nat)
    (s : Side W) : Prop :=
  (∃ t, s = ⟨[⟨origin, 0, t⟩], .start origin⟩) ∨ s.Agenda g d π P origin

namespace Agenda

/-! ## Taking an entry -/

theorem settle (h : s.Agenda g d π P origin) (hf : s.frontier = e :: rest) :
    (s.settle e rest).Agenda g d π P origin where
  toWaiting := (h.toWaiting.settle hf).congr fun n => by rw [cost_of_settle]
  settled_origin := by rw [settled_of_settle, h.settled_origin, Bool.or_true]
  cost_origin := by rw [cost_of_settle, h.cost_origin]
  met {n} hn := by
    rw [cost_of_settle]
    rw [settled_of_settle, Bool.or_eq_true, decide_eq_true_eq] at hn
    rcases hn with rfl | hn
    · exact .inr (h.entry e (Frontier.front_mem hf)).2.1
    · exact h.met hn
  link {n} hlt := by
    rw [cost_of_settle] at hlt
    refine (h.link hlt).imp_right fun ⟨p, w, hset, hw, hcost⟩ => ⟨p, w, ?_, hw, ?_⟩
    · rw [settled_of_settle, hset, Bool.or_true]
    · rw [cost_of_settle, cost_of_settle, hcost]
  walk {n} hn := by
    rw [cost_of_settle] at hn ⊢
    exact h.walk hn

variable [RankedCost W]

theorem drop (h : s.Agenda g d π P origin) (hf : s.frontier = e :: rest)
    (hs : isStale s.labels e = true) : Agenda g d π P origin ⟨rest, s.labels⟩ where
  toWaiting := h.toWaiting.drop hf hs
  settled_origin := h.settled_origin
  cost_origin := h.cost_origin
  met := h.met
  link := h.link
  walk := h.walk

/-! ## Accepting an offer -/

theorem accept (h : s.Agenda g d π P origin) (hπ : π.Strict) (htarget : P edge.target)
    (hset : (s.labels.of via.node).settled = true) (hcost : (s.labels.of via.node).cost = via.cost)
    (hedge : edge ∈ g.edgesOrNone d via.node) (hadmits : s.admits π via edge = true) :
    (s.accept π via edge).Agenda g d π P origin := by
  have hcheaper : via.cost + edge.weight < (s.labels.of edge.target).cost :=
    (hπ _ _).mp (admits_iff.mp hadmits).2
  have hfinite : via.cost + edge.weight < Cost.infinity := RankedCost.lt_infinity hcheaper
  have hsettled : ∀ {m}, (s.labels.of m).settled = true →
      (s.accept π via edge).labels.of m = s.labels.of m := of_accept_of_settled hadmits
  have hother : ∀ {m}, edge.target ≠ m →
      (s.accept π via edge).labels.of m = s.labels.of m := fun hm => by rw [of_accept, if_neg hm]
  have hnew : ((s.accept π via edge).labels.of edge.target).cost = via.cost + edge.weight := by
    rw [of_accept, if_pos rfl]
  have hmet : ∀ m, ((s.accept π via edge).labels.of m).cost < Cost.infinity ↔
      edge.target = m ∨ (s.labels.of m).cost < Cost.infinity := by
    intro m
    by_cases hm : edge.target = m
    · subst hm
      exact iff_of_true (by rwa [hnew]) (.inl rfl)
    · rw [hother hm, or_iff_right hm]
  constructor
  case toWaiting => exact h.toWaiting.accept htarget hcheaper hmet
  case settled_origin => rw [hsettled h.settled_origin, h.settled_origin]
  case cost_origin => rw [hsettled h.settled_origin, h.cost_origin]
  case met =>
    intro m hm
    rw [settled_of_accept hadmits] at hm
    rw [hsettled hm]
    exact h.met hm
  case link =>
    intro m hlt
    by_cases hm : edge.target = m
    · subst hm
      refine .inr ⟨via.node, edge.weight, ?_, hedge, ?_⟩
      · rw [hsettled hset, hset]
      · rw [hnew, hsettled hset, hcost]
    · rw [hother hm] at hlt ⊢
      refine (h.link hlt).imp_right fun ⟨p, w, hp, hw, hsum⟩ => ⟨p, w, ?_, hw, ?_⟩
      · rw [hsettled hp, hp]
      · rw [hsettled hp, hsum]
  case walk =>
    intro m hfinite
    by_cases hm : edge.target = m
    · subst hm
      obtain ⟨nodes, hwalk⟩ := h.walk (h.met hset)
      rw [hnew, ← hcost]
      exact ⟨_, .step hwalk hedge⟩
    · rw [hother hm] at hfinite ⊢
      exact h.walk hfinite

/-- The expansion of a settled node: its label stays as it is. -/
theorem expand (h : (s.settle e rest).Agenda g d π P origin) (hπ : π.Strict)
    (hP : ∀ {u}, P u → ∀ x ∈ g.edgesOrNone d u, P x.target) (hnode : P e.node)
    (hcost : (s.labels.of e.node).cost = e.cost) (hes : g.edges d e.node = .ok es) :
    (s.expand π e rest es).Agenda g d π P origin := by
  have hcost' : ((s.settle e rest).labels.of e.node).cost = e.cost := by
    rw [cost_of_settle, hcost]
  refine (expand_induct (M := fun s' => s'.Agenda g d π P origin ∧
    (s'.labels.of e.node).settled = true ∧ (s'.labels.of e.node).cost = e.cost)
    ⟨h, settled_settle_node, hcost'⟩ ?_).1
  intro s' ⟨hs', hset, hcost⟩ edge hedge hadmits
  rw [← Graph.edgesOrNone_eq hes] at hedge
  rw [of_accept_of_settled hadmits hset]
  exact ⟨hs'.accept hπ (hP hnode _ hedge) hset hcost hedge hadmits, hset, hcost⟩

end Agenda

namespace Opened

theorem node_mem (h : s.Opened g d π P origin) (ho : P origin) (he : e ∈ s.frontier) :
    P e.node := by
  rcases h with ⟨t, rfl⟩ | h
  · rw [List.mem_singleton.mp he]
    exact ho
  · exact (h.entry e he).1

theorem cost_eq (h : s.Opened g d π P origin) (he : e ∈ s.frontier)
    (hs : isStale s.labels e = false) : (s.labels.of e.node).cost = e.cost := by
  rcases h with ⟨t, rfl⟩ | h
  · rw [List.mem_singleton.mp he, Labels.of_start, if_pos rfl]
    rfl
  · exact h.cost_eq he hs

theorem agenda_of_settled (h : s.Opened g d π P origin)
    (ho : (s.labels.of origin).settled = true) : s.Agenda g d π P origin := by
  refine h.resolve_left ?_
  rintro ⟨t, rfl⟩
  rw [Labels.of_start, if_pos rfl] at ho
  cases ho

/-- A side that has nothing left has settled its origin. -/
theorem agenda_of_nil (h : s.Opened g d π P origin) (hnil : s.frontier = []) :
    s.Agenda g d π P origin := by
  refine h.resolve_left ?_
  rintro ⟨t, rfl⟩
  cases hnil

/-- The origin is the first node to be settled. -/
theorem settled_origin (h : s.Opened g d π P origin) (hn : (s.labels.of n).settled = true) :
    (s.labels.of origin).settled = true := by
  rcases h with ⟨t, rfl⟩ | h
  · rw [Labels.of_start] at hn
    split at hn <;> cases hn
  · exact h.settled_origin

/-- Until the origin is settled, nothing else waits. -/
theorem node_eq_origin (h : s.Opened g d π P origin)
    (ho : ¬ (s.labels.of origin).settled = true) (he : e ∈ s.frontier) : e.node = origin := by
  rcases h with ⟨t, rfl⟩ | h
  · rw [List.mem_singleton.mp he]
  · exact absurd h.settled_origin ho

variable [RankedCost W]

theorem settle (h : s.Opened g d π P origin) (hf : s.frontier = e :: rest) :
    (s.settle e rest).Agenda g d π P origin := by
  rcases h with ⟨t, rfl⟩ | h
  · obtain ⟨rfl, rfl⟩ : (⟨origin, 0, t⟩ : Entry W) = e ∧ [] = rest := List.cons.inj hf
    have hunmet : ∀ {n}, n ≠ origin → ((settle (⟨[⟨origin, 0, t⟩], .start origin⟩ : Side W)
        ⟨origin, 0, t⟩ []).labels.of n) = .unmet := by
      intro n hn
      rw [of_settle, if_neg (Ne.symm hn), Labels.of_start, if_neg (Ne.symm hn)]
    have hcost : ((settle (⟨[⟨origin, 0, t⟩], .start origin⟩ : Side W)
        ⟨origin, 0, t⟩ []).labels.of origin).cost = 0 := by
      rw [cost_of_settle, Labels.of_start, if_pos rfl]
      rfl
    have hmet : ∀ {n}, ((settle (⟨[⟨origin, 0, t⟩], .start origin⟩ : Side W)
        ⟨origin, 0, t⟩ []).labels.of n).cost < Cost.infinity → n = origin := by
      intro n hlt
      by_contra hn
      rw [hunmet hn] at hlt
      exact RankedCost.lt_irrefl _ hlt
    constructor
    case toWaiting =>
      refine ⟨fun _ hx => absurd hx List.not_mem_nil, fun hn hlt => ?_, List.Pairwise.nil⟩
      rw [hmet hlt, settled_settle_node] at hn
      cases hn
    case settled_origin => exact settled_settle_node
    case cost_origin => exact hcost
    case met =>
      intro n hn
      by_contra hnot
      rw [hunmet (not_or.mp hnot).1] at hn
      cases hn
    case link => exact fun hlt => .inl (hmet hlt)
    case walk =>
      intro n hn
      obtain rfl := hn.elim id hmet
      rw [hcost]
      exact ⟨_, .here⟩
  · exact h.settle hf

theorem advance (h : s.Opened g d π P origin) (hπ : π.Strict)
    (hP : ∀ {u}, P u → ∀ x ∈ g.edgesOrNone d u, P x.target) (ho : P origin)
    (ha : Advance g d π s s') : s'.Agenda g d π P origin := by
  cases ha with
  | @drop e rest hf hs =>
    rcases h with ⟨t, rfl⟩ | h
    · -- the entry of the origin is not stale
      obtain ⟨rfl, rfl⟩ : (⟨origin, 0, t⟩ : Entry W) = e ∧ [] = rest := List.cons.inj hf
      simp [isStale, Label.origin, RankedCost.lt_irrefl] at hs
    · exact h.drop hf hs
  | @expand e rest es hf hs hes =>
    have he : e ∈ s.frontier := Frontier.front_mem hf
    exact (h.settle hf).expand hπ hP (h.node_mem ho he) (h.cost_eq he hs) hes

end Opened

/-! ## The node settled next -/

/-- When one of two sides with the same labels has nothing left, the other holds stale entries only.
    -/
theorem Opened.stale_of_nil {g₁ g₂ : Graph ε W} {s₁ s₂ : Side W} (h₁ : s₁.Opened g₁ d π P origin)
    (h₂ : s₂.Opened g₂ d π P origin) (hlabels : ∀ n, s₁.labels.of n = s₂.labels.of n)
    (hnil : s₁.frontier = []) (he : e ∈ s₂.frontier) : isStale s₂.labels e = true := by
  have hagenda₁ := h₁.agenda_of_nil hnil
  have hagenda₂ := h₂.agenda_of_settled (hlabels origin ▸ hagenda₁.settled_origin)
  by_contra hs
  have hset := (isStale_eq_false_iff.mp (Bool.eq_false_iff.mpr hs)).1
  have hlt := (hagenda₂.entry e he).2.1
  rw [← hlabels] at hset hlt
  obtain ⟨x, hx, -⟩ := hagenda₁.live hset hlt
  rw [hnil] at hx
  cases hx

variable [RankedCost W]

/-- Of two sides with the same labels, the entries in front are for the same node at the same cost,
    once neither is stale. -/
theorem Opened.front_eq {g₁ g₂ : Graph ε W} {s₁ s₂ : Side W} {e₁ e₂ : Entry W}
    {rest₁ rest₂ : Frontier W} (h₁ : s₁.Opened g₁ d π P origin) (h₂ : s₂.Opened g₂ d π P origin)
    (hlabels : ∀ n, s₁.labels.of n = s₂.labels.of n) (hf₁ : s₁.frontier = e₁ :: rest₁)
    (hf₂ : s₂.frontier = e₂ :: rest₂) (hs₁ : isStale s₁.labels e₁ = false)
    (hs₂ : isStale s₂.labels e₂ = false) : e₁.node = e₂.node ∧ e₁.cost = e₂.cost := by
  have hmem₁ : e₁ ∈ s₁.frontier := Frontier.front_mem hf₁
  have hmem₂ : e₂ ∈ s₂.frontier := Frontier.front_mem hf₂
  have hcost₁ : (s₁.labels.of e₁.node).cost = e₁.cost := h₁.cost_eq hmem₁ hs₁
  have hcost₂ : (s₁.labels.of e₂.node).cost = e₂.cost := by
    rw [hlabels]
    exact h₂.cost_eq hmem₂ hs₂
  suffices hnode : e₁.node = e₂.node by
    refine ⟨hnode, ?_⟩
    rw [← hcost₁, ← hcost₂, hnode]
  by_cases horigin : (s₁.labels.of origin).settled = true
  · have hagenda₁ := h₁.agenda_of_settled horigin
    have hagenda₂ := h₂.agenda_of_settled (hlabels origin ▸ horigin)
    obtain ⟨-, hlt₁, htotal₁, -⟩ := hagenda₁.entry e₁ hmem₁
    obtain ⟨-, hlt₂, htotal₂, -⟩ := hagenda₂.entry e₂ hmem₂
    have hset₁ := (isStale_eq_false_iff.mp hs₁).1
    have hset₂ := (isStale_eq_false_iff.mp hs₂).1
    rw [← hlabels] at hlt₂ hset₂
    -- each of them waits on the other side as well
    have h₁₂ := hagenda₁.front_notAfter hf₁ hset₂ hlt₂
    have h₂₁ := hagenda₂.front_notAfter hf₂ (hlabels e₁.node ▸ hset₁) (hlabels e₁.node ▸ hlt₁)
    rw [hcost₂, ← htotal₂] at h₁₂
    rw [← hlabels, hcost₁, ← htotal₁] at h₂₁
    exact h₁₂.node_eq h₂₁
  · have horigin₂ : ¬ (s₂.labels.of origin).settled = true := by rwa [← hlabels]
    rw [h₁.node_eq_origin horigin hmem₁, h₂.node_eq_origin horigin₂ hmem₂]

end Ranked

/-! ## Trees -/

section Ordered

variable [OrderedCost W] {g : Graph ε W} {d : Direction} {π : Policy W} {P : Nat → Prop}
  {origin : Nat} {s : Side W}

/-- A tree of parents comes with an agenda. -/
theorem Tree.agenda (h : s.Tree g d π P origin) : s.Agenda g d π P origin := by
  have hmet : ∀ {n}, (s.labels.of n).cost < Cost.infinity → s.labels.of n ≠ .unmet := by
    intro n hlt hunmet
    rw [hunmet] at hlt
    exact lt_irrefl _ hlt
  have horigin : ∀ {n}, (s.labels.of n).parent = none →
      (s.labels.of n).cost < Cost.infinity → n = origin :=
    fun hnone hlt => (h.unmet hnone).resolve_right (hmet hlt)
  constructor
  case toWaiting =>
    refine ⟨fun e he => ?_, fun hn hlt => h.live hn fun hnone => ?_, h.sorted⟩
    · obtain ⟨hP, hparent, htotal, hcosts⟩ := h.entry e he
      exact ⟨hP, h.finite hparent, htotal, hcosts⟩
    · rw [horigin hnone hlt, h.settled_origin] at hn
      cases hn
  case settled_origin => exact h.settled_origin
  case cost_origin => exact h.cost_origin
  case met =>
    intro n hn
    by_cases hnone : (s.labels.of n).parent = none
    · exact .inl ((h.unmet hnone).resolve_right (Labels.ne_unmet_of_settled hn))
    · exact .inr (h.finite hnone)
  case link =>
    intro n hlt
    cases hparent : (s.labels.of n).parent with
    | none => exact .inl (horigin hparent hlt)
    | some p =>
      obtain ⟨hset, w, hw, hcost⟩ := h.link hparent
      exact .inr ⟨p, w, hset, hw, hcost⟩
  case walk => exact fun hn => ⟨_, h.walk (hn.imp_right hmet)⟩

theorem Grown.opened (h : s.Grown g d π P origin) : s.Opened g d π P origin :=
  Or.imp_right Tree.agenda h

end Ordered

end TwoSided.Side

end RoadRouting.Search
