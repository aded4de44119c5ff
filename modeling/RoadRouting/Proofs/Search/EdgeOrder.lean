import Mathlib.Logic.Function.Basic
import RoadRouting.Proofs.Cost.WithNaN
import RoadRouting.Proofs.Search.Ending

/-!
# The order of edges

A graph lists the edges of a node in some order, and the best-first search offers them in this
order. Of several edges to one node, a worse one that comes first leaves a stale entry behind, and
one that comes last leaves none. So the frontiers of two searches that are told the same edges in
different orders differ all the way. Their labels do not, and it is labels that decide which node is
settled next.

Costs may be of any sign. What is used of them is that those below infinity compare, and nothing is
used of sums.

* `Known.offers_perm`: the offers over some edges have the same effect on labels in any order.
* `BestFirst.Alike.next`: a search in one order is followed by that in the other.
* `BestFirst.edge_order_is_immaterial`: both answer the same.
-/

namespace RoadRouting.Search

open TwoSided (Side)

variable {ε W : Type}

/-! ## What labels tell -/

/-- What is known of each node: its label, once it was met. -/
abbrev Known (W : Type) := Nat → Option (Label W)

namespace Known

variable [Cost W]

/-- The label of a node. -/
def of (k : Known W) (n : Nat) : Label W := (k n).getD .unmet

/-- The way through `via` to the far end of the edge is better than what is known. -/
def admits (π : Policy W) (via : Entry W) (k : Known W) (edge : Edge W) : Bool :=
  !(k.of edge.target).settled && π.accepts (via.cost + edge.weight) (k.of edge.target).cost

/-- Offers the far end of the edge the way through `via`. -/
def offer (π : Policy W) (via : Entry W) (k : Known W) (edge : Edge W) : Known W :=
  if k.admits π via edge then
    Function.update k edge.target (some ⟨via.cost + edge.weight, named? via.node, false⟩)
  else k

end Known

/-- What the labels tell. -/
def Labels.known (labels : Labels W) : Known W := fun n => labels[n]?

theorem Labels.of_known [Cost W] (labels : Labels W) (n : Nat) : labels.known.of n = labels.of n := by
  rw [Known.of, known, Labels.of, Std.TreeMap.getD_eq_getD_getElem?]

theorem Labels.known_insert (labels : Labels W) (n : Nat) (l : Label W) :
    Labels.known (labels.insert n l) = Function.update labels.known n (some l) := by
  funext m
  rw [known, Std.TreeMap.getElem?_insert]
  by_cases hm : n = m
  · subst hm
    simp
  · simp [hm, Function.update_of_ne (Ne.symm hm), known]

/-- The way back is told by what is known. -/
theorem Labels.trail_congr {labels labels' : Labels W} (h : labels.known = labels'.known) (n : Nat) :
    labels.trail n = labels'.trail n := by
  have hget : ∀ n : Nat, labels[n]? = labels'[n]? := congrFun h
  have hclimb : ∀ steps n, labels.climb steps n = labels'.climb steps n := by
    intro steps
    induction steps with
    | zero => exact fun _ => rfl
    | succ steps ih =>
      intro n
      simp only [Labels.climb, hget, ih]
  rw [trail, trail, hclimb, (Std.TreeMap.Equiv.of_forall_constGet?_eq hget).size_eq]

namespace Known

variable [Cost W] {π : Policy W} {via : Entry W} {k k' : Known W} {x y : Edge W}
  {es es' : List (Edge W)} {n : Nat}

theorem known_offer (π : Policy W) (via : Entry W) (s : Side W) (edge : Edge W) :
    (s.offer π via edge).labels.known = s.labels.known.offer π via edge := by
  have hadmits : s.labels.known.admits π via edge = s.admits π via edge := by
    rw [admits, Labels.of_known, Side.admits]
  rw [offer, hadmits, Side.offer]
  split
  · exact Labels.known_insert ..
  · rfl

theorem known_offers (π : Policy W) (via : Entry W) (s : Side W) (es : List (Edge W)) :
    (es.foldl (Side.offer π via) s).labels.known = es.foldl (offer π via) s.labels.known :=
  (List.foldl_hom (fun s : Side W => s.labels.known) fun s edge =>
    (known_offer π via s edge).symm).symm

theorem known_settle (s : Side W) (e : Entry W) (rest : Frontier W) :
    (s.settle e rest).labels.known =
      Function.update s.labels.known e.node
        (some { s.labels.known.of e.node with settled := true }) := by
  rw [Labels.of_known]
  exact Labels.known_insert ..

/-! ## Offers in any order -/

theorem of_offer : (k.offer π via x).of n = if k.admits π via x = true ∧ x.target = n then
    ⟨via.cost + x.weight, named? via.node, false⟩ else k.of n := by
  rw [offer]
  by_cases hadmits : k.admits π via x = true
  · by_cases hn : x.target = n
    · subst hn
      simp [hadmits, of]
    · simp [hadmits, hn, of, Function.update_of_ne (Ne.symm hn)]
  · simp [hadmits]

theorem admits_iff (hπ : π.Strict) : k.admits π via x = true ↔
    (k.of x.target).settled = false ∧ via.cost + x.weight < (k.of x.target).cost := by
  rw [admits, Bool.and_eq_true, Bool.not_eq_true', hπ]

/-- An offer to another node makes no difference. -/
theorem admits_offer_of_ne (hne : x.target ≠ y.target) :
    (k.offer π via x).admits π via y = k.admits π via y := by
  rw [admits, admits, of_offer, if_neg fun h => hne h.2]

/-- An offer to the same node leaves what was accepted if it is cheaper than the accepted one. -/
theorem admits_offer_of_eq (hπ : π.Strict) (heq : x.target = y.target)
    (hx : k.admits π via x = true) :
    (k.offer π via x).admits π via y = true ↔ via.cost + y.weight < via.cost + x.weight := by
  rw [admits_iff hπ, of_offer, if_pos ⟨hx, heq⟩]
  exact and_iff_right rfl

theorem offer_of_admits (hx : k.admits π via x = true) : k.offer π via x =
    Function.update k x.target (some ⟨via.cost + x.weight, named? via.node, false⟩) :=
  if_pos hx

theorem offer_of_not_admits (hx : ¬ k.admits π via x = true) : k.offer π via x = k :=
  if_neg hx

/-- Of two offers to a node, one that is accepted and not undercut by the other is what remains. -/
theorem offer_offer (hπ : π.Strict) (heq : x.target = y.target) (hx : k.admits π via x = true)
    (hnot : ¬ via.cost + y.weight < via.cost + x.weight)
    (hlt : k.admits π via y = true → via.cost + x.weight < via.cost + y.weight) :
    (k.offer π via x).offer π via y = k.offer π via x ∧
      (k.offer π via y).offer π via x = k.offer π via x := by
  refine ⟨offer_of_not_admits fun h => hnot ((admits_offer_of_eq hπ heq hx).mp h), ?_⟩
  by_cases hy : k.admits π via y = true
  · rw [offer_of_admits ((admits_offer_of_eq hπ heq.symm hy).mpr (hlt hy)), offer_of_admits hy,
      ← heq, Function.update_idem, offer_of_admits hx]
  · rw [offer_of_not_admits hy]

/-- Offers to different nodes have nothing to do with each other. -/
theorem offer_comm_of_ne (hne : x.target ≠ y.target) :
    (k.offer π via x).offer π via y = (k.offer π via y).offer π via x := by
  have hy : (k.offer π via x).admits π via y = k.admits π via y := admits_offer_of_ne hne
  have hx : (k.offer π via y).admits π via x = k.admits π via x := admits_offer_of_ne hne.symm
  rw [offer, hy, offer, offer.eq_def π via (k.offer π via y), hx, offer]
  split
  case isTrue =>
    split
    case isTrue => exact Function.update_comm hne _ _ _
    case isFalse => rfl
  case isFalse => rfl

variable [RankedCost W]

/-- An offer that is not accepted is not accepted after a better one. -/
theorem offer_comm_of_not_admits (hπ : π.Strict) (heq : x.target = y.target)
    (hx : k.admits π via x = true) (hy : ¬ k.admits π via y = true) :
    (k.offer π via x).offer π via y = (k.offer π via y).offer π via x := by
  obtain ⟨hset, hlt⟩ := (admits_iff hπ).mp hx
  have hnot : ¬ via.cost + y.weight < via.cost + x.weight := by
    intro hyx
    rw [heq] at hset hlt
    exact hy ((admits_iff hπ).mpr ⟨hset, RankedCost.lt_trans hyx hlt⟩)
  obtain ⟨h₁, h₂⟩ := offer_offer hπ heq hx hnot fun h => absurd h hy
  rw [h₁, h₂]

/-- Two offers that are both accepted: the cheaper one remains. -/
theorem offer_comm_of_admits (hπ : π.Strict)
    (htri : ∀ a b : W, a < Cost.infinity → b < Cost.infinity → ¬ a < b → ¬ b < a → a = b)
    (heq : x.target = y.target) (hx : k.admits π via x = true) (hy : k.admits π via y = true) :
    (k.offer π via x).offer π via y = (k.offer π via y).offer π via x := by
  by_cases hxy : via.cost + x.weight < via.cost + y.weight
  · have hnot : ¬ via.cost + y.weight < via.cost + x.weight := fun hyx =>
      RankedCost.lt_irrefl _ (RankedCost.lt_trans hxy hyx)
    obtain ⟨h₁, h₂⟩ := offer_offer hπ heq hx hnot fun _ => hxy
    rw [h₁, h₂]
  · by_cases hyx : via.cost + y.weight < via.cost + x.weight
    · obtain ⟨h₁, h₂⟩ := offer_offer hπ heq.symm hy hxy fun _ => hyx
      rw [h₁, h₂]
    · have hcost : via.cost + x.weight = via.cost + y.weight :=
        htri _ _ (RankedCost.lt_infinity ((admits_iff hπ).mp hx).2)
          (RankedCost.lt_infinity ((admits_iff hπ).mp hy).2) hxy hyx
      have hy' : ¬ (k.offer π via x).admits π via y = true :=
        fun h => hyx ((admits_offer_of_eq hπ heq hx).mp h)
      have hx' : ¬ (k.offer π via y).admits π via x = true :=
        fun h => hxy ((admits_offer_of_eq hπ heq.symm hy).mp h)
      rw [offer_of_not_admits hy', offer_of_not_admits hx', offer_of_admits hx,
        offer_of_admits hy, hcost, heq]

theorem offer_comm (hπ : π.Strict)
    (htri : ∀ a b : W, a < Cost.infinity → b < Cost.infinity → ¬ a < b → ¬ b < a → a = b) :
    (k.offer π via x).offer π via y = (k.offer π via y).offer π via x := by
  by_cases heq : x.target = y.target
  · by_cases hx : k.admits π via x = true <;> by_cases hy : k.admits π via y = true
    · exact offer_comm_of_admits hπ htri heq hx hy
    · exact offer_comm_of_not_admits hπ heq hx hy
    · exact (offer_comm_of_not_admits hπ heq.symm hy hx).symm
    · rw [offer_of_not_admits hx, offer_of_not_admits hy, offer_of_not_admits hx]
  · exact offer_comm_of_ne heq

/-- The offers over some edges have the same effect in any order. -/
theorem offers_perm (hπ : π.Strict)
    (htri : ∀ a b : W, a < Cost.infinity → b < Cost.infinity → ¬ a < b → ¬ b < a → a = b)
    (hes : es.Perm es') : es.foldl (offer π via) k = es'.foldl (offer π via) k :=
  hes.foldl_eq' (fun _ _ _ _ _ => offer_comm hπ htri) k

/-- What is known after an expansion depends on the labels before, and on the edges in some order.
    -/
theorem known_expand {s₁ s₂ : Side W} {e₁ e₂ : Entry W} (rest₁ rest₂ : Frontier W) (hπ : π.Strict)
    (htri : ∀ a b : W, a < Cost.infinity → b < Cost.infinity → ¬ a < b → ¬ b < a → a = b)
    (hknown : s₁.labels.known = s₂.labels.known) (hnode : e₁.node = e₂.node)
    (hcost : e₁.cost = e₂.cost) (hes : es.Perm es') :
    (s₁.expand π e₁ rest₁ es).labels.known = (s₂.expand π e₂ rest₂ es').labels.known := by
  have hoffer : offer π e₁ = offer π e₂ := by
    funext k edge
    rw [offer, offer, admits, admits, hnode, hcost]
  rw [Side.expand, Side.expand, known_offers, known_offers, known_settle, known_settle, hoffer,
    hknown, hnode, offers_perm hπ htri hes]

end Known

/-! ## Two searches -/

namespace BestFirst

/-- Both states hold the same labels, and have settled as many nodes. Their frontiers may differ in
    what is stale. -/
structure Alike (s₁ s₂ : State W) : Prop where
  known : s₁.side.labels.known = s₂.side.labels.known
  visited : s₁.visited = s₂.visited

namespace Alike

variable [Cost W] {g₁ g₂ : Graph ε W} {P : Nat → Prop} {estimate : Nat → Except ε W}
  {start goal : Nat} {s₁ s₂ s₁' : State W} {e : Entry W} {rest : Frontier W}

theorem of_eq (h : Alike s₁ s₂) (n : Nat) : s₁.side.labels.of n = s₂.side.labels.of n := by
  rw [← Labels.of_known, h.known, Labels.of_known]

/-- The other search passes over what is stale. -/
theorem pass_over (h : Alike s₁ s₂) (h₂ : Reaches g₂ estimate start goal s₂) :
    ∃ s₂', Reaches g₂ estimate start goal s₂' ∧ Alike s₁ s₂' ∧ (s₂'.frontier = [] ∨
      ∃ e rest, s₂'.frontier = e :: rest ∧ isStale s₂'.labels e = false) := by
  obtain ⟨s₂', hreach, hlabels, hvisited, hfront⟩ := BestFirst.exists_front g₂ estimate goal s₂
  refine ⟨s₂', h₂.next hreach, ⟨?_, by rw [hvisited, h.visited]⟩, hfront⟩
  rw [h.known, State.side, State.side, hlabels]

variable [RankedCost W]

/-- When one of the searches is about to settle a node, the other one comes to settle it next. -/
theorem exists_front (h : Alike s₁ s₂) (hg₁ : g₁.Domain P) (hg₂ : g₂.Domain P) (hs : P start)
    (h₁ : Reaches g₁ estimate start goal s₁) (h₂ : Reaches g₂ estimate start goal s₂)
    (hf : s₁.frontier = e :: rest) (hstale : isStale s₁.labels e = false) :
    ∃ s₂', Reaches g₂ estimate start goal s₂' ∧ Alike s₁ s₂' ∧
      ∃ e' rest', s₂'.frontier = e' :: rest' ∧ isStale s₂'.labels e' = false ∧
        e.node = e'.node ∧ e.cost = e'.cost := by
  obtain ⟨s₂', h₂', halike, hfront⟩ := h.pass_over h₂
  have hopened₁ := h₁.opened hg₁ hs
  have hopened₂ := h₂'.opened hg₂ hs
  refine ⟨s₂', h₂', halike, ?_⟩
  rcases hfront with hnil | ⟨e', rest', hf', hstale'⟩
  · have he : e ∈ s₁.side.frontier := Frontier.front_mem hf
    have hdropped := hopened₂.stale_of_nil hopened₁ (fun n => (halike.of_eq n).symm) hnil he
    cases hstale.symm.trans hdropped
  · exact ⟨e', rest', hf', hstale',
      hopened₁.front_eq hopened₂ halike.of_eq hf hf' hstale hstale'⟩

/-- Each step of one search is followed by the other one. -/
theorem next (h : Alike s₁ s₂) (hg₁ : g₁.Domain P) (hg₂ : g₂.Domain P) (hs : P start)
    (hest : ∀ n, P n → ∃ rest, estimate n = .ok rest)
    (hperm : ∀ n, P n → (g₁.edgesOrNone .outgoing n).Perm (g₂.edgesOrNone .outgoing n))
    (htri : ∀ a b : W, a < Cost.infinity → b < Cost.infinity → ¬ a < b → ¬ b < a → a = b)
    (h₁ : Reaches g₁ estimate start goal s₁) (h₂ : Reaches g₂ estimate start goal s₂)
    (hnext : Next g₁ estimate goal s₁ s₁') :
    ∃ s₂', Reaches g₂ estimate start goal s₂' ∧ Alike s₁' s₂' := by
  rcases next_cases hnext with ⟨hlabels, hvisited⟩ |
    ⟨e, rest, es, hf, hstale, hgoal, hes, hside, hvisited⟩
  · refine ⟨s₂, h₂, ?_, by rw [hvisited, h.visited]⟩
    rw [hlabels, h.known]
  · obtain ⟨s₂', h₂', halike, e', rest', hf', hstale', hnode, hcost⟩ :=
      h.exists_front hg₁ hg₂ hs h₁ h₂ hf hstale
    have he : e ∈ s₁.side.frontier := Frontier.front_mem hf
    have hP : P e.node := (h₁.opened hg₁ hs).node_mem hs he
    have hes' : g₂.edges .outgoing e'.node = .ok (g₂.edgesOrNone .outgoing e.node) := by
      rw [← hnode, hg₂.edges_eq hP]
    have hest' : ∀ edge ∈ g₂.edgesOrNone .outgoing e.node, ∃ x, estimate edge.target = .ok x :=
      fun edge hedge => hest _ (hg₂.stays hP hedge)
    obtain ⟨s₂'', hnext', hside', hvisited'⟩ :=
      exists_next hf' hstale' (hnode ▸ hgoal) hes' hest'
    refine ⟨s₂'', h₂'.next (.single hnext'), ?_, by rw [hvisited, hvisited', halike.visited]⟩
    rw [hside, hside']
    refine Known.known_expand rest rest' (policy_strict estimate) htri halike.known hnode hcost ?_
    rw [← Graph.edgesOrNone_eq hes]
    exact hperm _ hP

/-- Each state of one search is met by the other one. -/
theorem exists_alike (hg₁ : g₁.Domain P) (hg₂ : g₂.Domain P) (hs : P start)
    (hest : ∀ n, P n → ∃ rest, estimate n = .ok rest)
    (hperm : ∀ n, P n → (g₁.edgesOrNone .outgoing n).Perm (g₂.edgesOrNone .outgoing n))
    (htri : ∀ a b : W, a < Cost.infinity → b < Cost.infinity → ¬ a < b → ¬ b < a → a = b)
    (h₁ : Reaches g₁ estimate start goal s₁) :
    ∃ s₂, Reaches g₂ estimate start goal s₂ ∧ Alike s₁ s₂ :=
  h₁.induct (M := fun s₁ => ∃ s₂, Reaches g₂ estimate start goal s₂ ∧ Alike s₁ s₂)
    (fun rest hrest => ⟨init start rest, ⟨rest, hrest, .refl⟩, rfl, rfl⟩)
    fun _ _ h₁ ⟨_, h₂, h⟩ hnext => h.next hg₁ hg₂ hs hest hperm htri h₁ h₂ hnext

/-- When one of the searches has nothing left, the other one comes to the same end. -/
theorem exhausted (h : Alike s₁ s₂) (hg₁ : g₁.Domain P) (hg₂ : g₂.Domain P) (hs : P start)
    (h₁ : Reaches g₁ estimate start goal s₁) (h₂ : Reaches g₂ estimate start goal s₂)
    (hnil : s₁.frontier = []) : Ends g₂ estimate start goal none s₁.visited := by
  obtain ⟨s₂', h₂', halike, hfront⟩ := h.pass_over h₂
  rw [halike.visited]
  refine .exhausted h₂' (hfront.resolve_right ?_)
  rintro ⟨e, rest, hf, hstale⟩
  have he : e ∈ s₂'.side.frontier := Frontier.front_mem hf
  have hdropped := (h₁.opened hg₁ hs).stale_of_nil (h₂'.opened hg₂ hs) halike.of_eq hnil he
  cases hstale.symm.trans hdropped

/-- When one of the searches settles the goal, the other one comes to it by the same path. -/
theorem arrived (h : Alike s₁ s₂) (hg₁ : g₁.Domain P) (hg₂ : g₂.Domain P) (hs : P start)
    (h₁ : Reaches g₁ estimate start goal s₁) (h₂ : Reaches g₂ estimate start goal s₂)
    (hf : s₁.frontier = e :: rest) (hstale : isStale s₁.labels e = false) (hgoal : e.node = goal) :
    Ends g₂ estimate start goal
      (some ⟨pathTo (settle s₁ e rest).labels goal, e.cost, s₁.visited + 1⟩) (s₁.visited + 1) := by
  obtain ⟨s₂', h₂', halike, e', rest', hf', hstale', hnode, hcost⟩ :=
    h.exists_front hg₁ hg₂ hs h₁ h₂ hf hstale
  have hknown : (settle s₁ e rest).labels.known = (settle s₂' e' rest').labels.known := by
    have hsettled := Known.known_settle s₁.side e rest
    rw [halike.known, hnode, ← Known.known_settle s₂'.side e' rest'] at hsettled
    exact hsettled
  rw [pathTo, Labels.trail_congr hknown, hcost, halike.visited]
  exact .arrived h₂' (step_of_goal hf' hstale' (hnode ▸ hgoal))

end Alike

variable [Cost W] [RankedCost W] {g₁ g₂ : Graph ε W} {P : Nat → Prop} {estimate : Nat → Except ε W}
  {start goal : Nat}

/-- Two graphs that list the same edges, each in its own order, are searched alike: the nodes of the
    path, its weight and the number of settled nodes are the same, whatever is estimated. Weights of
    any sign are covered, and so are values that are no number, as weights and as estimates. -/
theorem edge_order_is_immaterial
    (htri : ∀ a b : W, a < Cost.infinity → b < Cost.infinity → ¬ a < b → ¬ b < a → a = b)
    (hg₁ : g₁.Domain P) (hg₂ : g₂.Domain P) (hs : P start)
    (hest : ∀ n, P n → ∃ rest, estimate n = .ok rest)
    (hperm : ∀ n, P n → (g₁.edgesOrNone .outgoing n).Perm (g₂.edgesOrNone .outgoing n)) :
    ∃ answer settled, Ends g₁ estimate start goal answer settled ∧
      Ends g₂ estimate start goal answer settled ∧
      search g₁ estimate start goal = .ok answer ∧ search g₂ estimate start goal = .ok answer := by
  suffices hends : ∃ answer settled, Ends g₁ estimate start goal answer settled ∧
      Ends g₂ estimate start goal answer settled by
    obtain ⟨answer, settled, h₁, h₂⟩ := hends
    exact ⟨answer, settled, h₁, h₂, h₁.search_eq, h₂.search_eq⟩
  obtain ⟨s₁, h₁, hlast⟩ : ∃ s, Reaches g₁ estimate start goal s ∧ _ := exists_last hg₁ hs hest
  obtain ⟨s₂, h₂, halike⟩ := Alike.exists_alike hg₁ hg₂ hs hest hperm htri h₁
  rcases hlast with hnil | ⟨e, rest, hf, hstale, hgoal⟩
  · exact ⟨none, _, .exhausted h₁ hnil, halike.exhausted hg₁ hg₂ hs h₁ h₂ hnil⟩
  · exact ⟨_, _, .arrived h₁ (step_of_goal hf hstale hgoal),
      halike.arrived hg₁ hg₂ hs h₁ h₂ hf hstale hgoal⟩

/-- Of the two edges from node 0 to node 1, the worse one comes first on one side only. Some weights
    are negative, one is no number, and neither is the estimate at node 2. -/
theorem edge_order_is_immaterial_parallel :
    let arcs : List (Nat × Nat × WithNaN true (WithTop ℤ)) := [(0, 1, .number (3 : ℤ)),
      (0, 1, .number (1 : ℤ)), (0, 2, .number (-2 : ℤ)), (1, 3, .number (-4 : ℤ)), (0, 3, .nan),
      (2, 3, .number (4 : ℤ))]
    let arcs' : List (Nat × Nat × WithNaN true (WithTop ℤ)) := [(0, 3, .nan),
      (0, 2, .number (-2 : ℤ)), (0, 1, .number (1 : ℤ)), (0, 1, .number (3 : ℤ)),
      (1, 3, .number (-4 : ℤ)), (2, 3, .number (4 : ℤ))]
    let estimate : Nat → Except Empty (WithNaN true (WithTop ℤ)) := fun n =>
      .ok ([.number (-1 : ℤ), .number (5 : ℤ), .nan, .number (0 : ℤ)].getD n .nan)
    ∃ answer settled, Ends (.ofArcs arcs) estimate 0 3 answer settled ∧
      Ends (.ofArcs arcs') estimate 0 3 answer settled ∧
      search (.ofArcs arcs) estimate 0 3 = .ok answer ∧
      search (.ofArcs arcs') estimate 0 3 = .ok answer := by
  intro arcs arcs' estimate
  exact edge_order_is_immaterial (P := (· < 4)) (fun _ _ => WithNaN.eq_of_not_lt)
    (Graph.domain_ofArcs (by decide)) (Graph.domain_ofArcs (by decide)) (by decide)
    (fun _ _ => ⟨_, rfl⟩) fun n _ => Graph.edgesOrNone_ofArcs_perm (by decide) .outgoing n

end BestFirst

end RoadRouting.Search
