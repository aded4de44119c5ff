import RoadRouting.Proofs.Search.Waiting

/-!
# The tree of a search

When offers are accepted exactly if they are cheaper, the labels of one side form a tree: the cost
of a node is that of its parent and of one edge between them, every parent is settled, and every
way back along parents ends at the origin. Weights may be of any sign.

* `Side.Tree`: the invariant of one side, from the settling of its origin on.
* `Side.Grown.advance`: a step keeps it, and the first step establishes it.
* `Side.Tree.walk`, `Side.Grown.trail_walk`: the way back of a node, read forwards, is a walk whose
  cost is that of its label.
-/

namespace RoadRouting.Search

open TwoSided (Side)
open BestFirst (isStale)

variable {ε W : Type}

/-! ## Ways back in changing labels -/

namespace Labels.Traced

variable [Cost W] {labels labels' : Labels W} {n : Nat} {l : List Nat}

theorem mono (hparent : ∀ m, (labels'.of m).parent = (labels.of m).parent)
    (hsettled : ∀ m, (labels.of m).settled = true → (labels'.of m).settled = true)
    (h : labels.Traced n l) : labels'.Traced n l := by
  induction h with
  | root hn => exact .root (by rw [hparent, hn])
  | next hp hs _ ih => exact .next (by rw [hparent, hp]) (hsettled _ hs) ih

/-- A way back depends on the parent of its first node and on the labels of settled nodes. -/
theorem congr (hsettled : ∀ m, (labels.of m).settled = true → labels'.of m = labels.of m)
    (hn : (labels'.of n).parent = (labels.of n).parent) (h : labels.Traced n l) :
    labels'.Traced n l := by
  induction h with
  | root hp => exact .root (by rw [hn, hp])
  | next hp hs _ ih =>
    have hlabel := hsettled _ hs
    exact .next (by rw [hn, hp]) (by rw [hlabel, hs]) (ih (by rw [hlabel]))

end Labels.Traced

/-- A way replaces a known one exactly if it is cheaper. -/
def Policy.Strict [Cost W] (π : Policy W) : Prop :=
  ∀ c known, π.accepts c known = true ↔ c < known

namespace TwoSided.Side

variable [OrderedCost W] {g : Graph ε W} {d : Direction} {π : Policy W} {P : Nat → Prop}
  {origin : Nat} {s s' : Side W} {e via : Entry W} {rest : Frontier W} {edge : Edge W}
  {es : List (Edge W)} {n : Nat}

/-- The labels are a tree of walks from a settled origin, and every labelled node that is not
    settled waits in the frontier under its cost. -/
structure Tree (g : Graph ε W) (d : Direction) (π : Policy W) (P : Nat → Prop) (origin : Nat)
    (s : Side W) : Prop where
  root : s.labels.of origin = ⟨0, none, true⟩
  link : ∀ {n p}, (s.labels.of n).parent = some p → (s.labels.of p).settled = true ∧
    ∃ w, ⟨n, w⟩ ∈ g.edgesOrNone d p ∧ (s.labels.of n).cost = (s.labels.of p).cost + w
  traced : ∀ n, ∃ l, s.labels.Traced n l
  unmet : ∀ {n}, (s.labels.of n).parent = none → n = origin ∨ s.labels.of n = .unmet
  finite : ∀ {n}, (s.labels.of n).parent ≠ none → (s.labels.of n).cost < Cost.infinity
  entry : ∀ e ∈ s.frontier, P e.node ∧ (s.labels.of e.node).parent ≠ none ∧
    e.total = π.total e.node e.cost ∧
    (e.cost = (s.labels.of e.node).cost ∨ (s.labels.of e.node).cost < e.cost)
  live : ∀ {n}, (s.labels.of n).settled = false → (s.labels.of n).parent ≠ none →
    ∃ e ∈ s.frontier, e.node = n ∧ e.cost = (s.labels.of n).cost
  sorted : Frontier.Sorted s.frontier

/-- The side has only met its origin, or has grown a tree from it. -/
def Grown (g : Graph ε W) (d : Direction) (π : Policy W) (P : Nat → Prop) (origin : Nat)
    (s : Side W) : Prop :=
  (∃ t, s = ⟨[⟨origin, 0, t⟩], .start origin⟩) ∨ s.Tree g d π P origin

namespace Tree

theorem settled_origin (h : s.Tree g d π P origin) :
    (s.labels.of origin).settled = true := by
  rw [h.root]

theorem cost_origin (h : s.Tree g d π P origin) : (s.labels.of origin).cost = 0 := by
  rw [h.root]

/-- The nodes with a parent wait until they are settled. -/
theorem waiting (h : s.Tree g d π P origin) :
    s.Waiting π P fun n => (s.labels.of n).parent ≠ none := ⟨h.entry, h.live, h.sorted⟩

theorem walk_of_traced (h : s.Tree g d π P origin) {l : List Nat}
    (hn : n = origin ∨ (s.labels.of n).parent ≠ none) (ht : s.labels.Traced n l) :
    g.Walk d origin (n :: l).reverse n (s.labels.of n).cost := by
  induction ht with
  | @root n hroot =>
    obtain rfl : n = origin := hn.resolve_right (not_not_intro hroot)
    rw [h.cost_origin]
    exact .here
  | @next n p l hp hset ht ih =>
    obtain ⟨-, w, hw, hcost⟩ := h.link hp
    have hmet : p = origin ∨ (s.labels.of p).parent ≠ none := by
      by_contra hnot
      obtain ⟨hne, hnone⟩ := not_or.mp hnot
      exact Labels.ne_unmet_of_settled hset ((h.unmet (not_not.mp hnone)).resolve_left hne)
    rw [hcost, List.reverse_cons]
    exact .step (ih hmet) hw

/-! ### Settling a node -/

theorem drop (h : s.Tree g d π P origin) (hf : s.frontier = e :: rest)
    (hs : isStale s.labels e = true) : Tree g d π P origin ⟨rest, s.labels⟩ where
  root := h.root
  link := h.link
  traced := h.traced
  unmet := h.unmet
  finite := h.finite
  entry := (h.waiting.drop hf hs).entry
  live := (h.waiting.drop hf hs).live
  sorted := (h.waiting.drop hf hs).sorted

theorem waiting_settle (h : s.Tree g d π P origin) (hf : s.frontier = e :: rest) :
    (s.settle e rest).Waiting π P fun n => ((s.settle e rest).labels.of n).parent ≠ none :=
  (h.waiting.settle hf).congr fun n => by rw [parent_of_settle]

theorem settle (h : s.Tree g d π P origin) (hf : s.frontier = e :: rest)
    (hs : isStale s.labels e = false) : (s.settle e rest).Tree g d π P origin where
  root := by
    rw [of_settle, if_neg, h.root]
    intro heq
    have := (isStale_eq_false_iff.mp hs).1
    rw [heq, h.settled_origin] at this
    cases this
  link {n p} hp := by
    rw [parent_of_settle] at hp
    obtain ⟨hset, w, hw, hcost⟩ := h.link hp
    refine ⟨?_, w, hw, ?_⟩
    · rw [settled_of_settle, hset, Bool.or_true]
    · rw [cost_of_settle, cost_of_settle, hcost]
  traced n := by
    obtain ⟨l, hl⟩ := h.traced n
    refine ⟨l, hl.mono (fun m => parent_of_settle) fun m hm => ?_⟩
    rw [settled_of_settle, hm, Bool.or_true]
  unmet {n} hp := by
    rw [parent_of_settle] at hp
    rw [of_settle, if_neg]
    · exact h.unmet hp
    · rintro rfl
      exact (h.entry e (Frontier.front_mem hf)).2.1 hp
  finite {n} hp := by
    rw [parent_of_settle] at hp
    rw [cost_of_settle]
    exact h.finite hp
  entry := (h.waiting_settle hf).entry
  live := (h.waiting_settle hf).live
  sorted := (h.waiting_settle hf).sorted

end Tree

/-! ### Accepting an offer -/

/-- The way along an edge at the settled node of `via` is cheaper than the one known. -/
structure Improves (g : Graph ε W) (d : Direction) (P : Nat → Prop) (s : Side W) (via : Entry W)
    (edge : Edge W) : Prop where
  named : via.node ≠ noJoint
  settled : (s.labels.of via.node).settled = true
  cost : (s.labels.of via.node).cost = via.cost
  listed : edge ∈ g.edgesOrNone d via.node
  target : P edge.target
  ahead : (s.labels.of edge.target).settled = false
  cheaper : via.cost + edge.weight < (s.labels.of edge.target).cost

namespace Improves

variable (π)

theorem of_target (h : s.Improves g d P via edge) : (s.accept π via edge).labels.of edge.target =
    ⟨via.cost + edge.weight, some via.node, false⟩ := by
  rw [of_accept, if_pos rfl, named?_of_ne h.named]

theorem of_other (hn : edge.target ≠ n) : (s.accept π via edge).labels.of n = s.labels.of n := by
  rw [of_accept, if_neg hn]

theorem of_settled (h : s.Improves g d P via edge) (hn : (s.labels.of n).settled = true) :
    (s.accept π via edge).labels.of n = s.labels.of n := by
  refine of_other π ?_
  rintro rfl
  rw [h.ahead] at hn
  cases hn

end Improves

namespace Tree

theorem link_accept (h : s.Tree g d π P origin) (hi : s.Improves g d P via edge) {p : Nat}
    (hp : ((s.accept π via edge).labels.of n).parent = some p) :
    ((s.accept π via edge).labels.of p).settled = true ∧
      ∃ w, ⟨n, w⟩ ∈ g.edgesOrNone d p ∧ ((s.accept π via edge).labels.of n).cost =
        ((s.accept π via edge).labels.of p).cost + w := by
  by_cases hn : edge.target = n
  · subst hn
    rw [hi.of_target] at hp ⊢
    obtain rfl : via.node = p := Option.some.inj hp
    rw [hi.of_settled π hi.settled, hi.cost]
    exact ⟨hi.settled, edge.weight, hi.listed, rfl⟩
  · rw [Improves.of_other π hn] at hp ⊢
    obtain ⟨hps, hw⟩ := h.link hp
    rw [hi.of_settled π hps]
    exact ⟨hps, hw⟩

theorem traced_accept (h : s.Tree g d π P origin) (hi : s.Improves g d P via edge) (n : Nat) :
    ∃ l, (s.accept π via edge).labels.Traced n l := by
  have hsettled := fun m => hi.of_settled (n := m) π
  by_cases hn : edge.target = n
  · subst hn
    obtain ⟨l, hl⟩ := h.traced via.node
    refine ⟨via.node :: l, .next ?_ ?_ (hl.congr hsettled (by rw [hsettled _ hi.settled]))⟩
    · rw [hi.of_target]
    · rw [hsettled _ hi.settled, hi.settled]
  · obtain ⟨l, hl⟩ := h.traced n
    exact ⟨l, hl.congr hsettled (by rw [Improves.of_other π hn])⟩

theorem waiting_accept (h : s.Tree g d π P origin) (hi : s.Improves g d P via edge) :
    (s.accept π via edge).Waiting π P
      fun n => ((s.accept π via edge).labels.of n).parent ≠ none := by
  refine h.waiting.accept hi.target hi.cheaper fun n => ?_
  by_cases hn : edge.target = n
  · subst hn
    rw [hi.of_target]
    exact iff_of_true (Option.some_ne_none _) (.inl rfl)
  · rw [Improves.of_other π hn, or_iff_right hn]

theorem accept (h : s.Tree g d π P origin) (hi : s.Improves g d P via edge) :
    (s.accept π via edge).Tree g d π P origin where
  root := by rw [hi.of_settled π h.settled_origin, h.root]
  link := h.link_accept hi
  traced := h.traced_accept hi
  unmet := by
    intro n hp
    by_cases hn : edge.target = n
    · subst hn
      rw [hi.of_target] at hp
      cases hp
    · rw [Improves.of_other π hn] at hp ⊢
      exact h.unmet hp
  finite := by
    intro n hp
    by_cases hn : edge.target = n
    · subst hn
      rw [hi.of_target]
      exact lt_of_lt_of_le hi.cheaper (OrderedCost.le_infinity _)
    · rw [Improves.of_other π hn] at hp ⊢
      exact h.finite hp
  entry := (h.waiting_accept hi).entry
  live := (h.waiting_accept hi).live
  sorted := (h.waiting_accept hi).sorted

/-- The expansion of a settled node: its label stays as it is. -/
theorem expand (h : (s.settle e rest).Tree g d π P origin) (hπ : π.Strict) (hg : g.Domain P)
    (hid : ∀ n, P n → n ≠ noJoint) (hnode : P e.node)
    (hcost : (s.labels.of e.node).cost = e.cost) (hes : g.edges d e.node = .ok es) :
    (s.expand π e rest es).Tree g d π P origin := by
  have hcost' : ((s.settle e rest).labels.of e.node).cost = e.cost := by
    rw [cost_of_settle, hcost]
  refine (expand_induct (M := fun s' => s'.Tree g d π P origin ∧
    (s'.labels.of e.node).settled = true ∧ (s'.labels.of e.node).cost = e.cost)
    ⟨h, settled_settle_node, hcost'⟩ ?_).1
  intro s' ⟨hs', hset, hcost⟩ edge hedge hadmits
  rw [← Graph.edgesOrNone_eq hes] at hedge
  rw [of_accept_of_settled hadmits hset]
  obtain ⟨hahead, haccepts⟩ := admits_iff.mp hadmits
  exact ⟨hs'.accept ⟨hid _ hnode, hset, hcost, hedge, hg.stays hnode hedge, hahead,
    (hπ _ _).mp haccepts⟩, hset, hcost⟩

/-- The way back of a node that was met is a walk. -/
theorem walk (h : s.Tree g d π P origin) (hn : n = origin ∨ s.labels.of n ≠ .unmet) :
    g.Walk d origin (n :: s.labels.trail n).reverse n (s.labels.of n).cost := by
  obtain ⟨l, hl⟩ := h.traced n
  rw [hl.trail_eq]
  refine h.walk_of_traced ?_ hl
  by_contra hnot
  obtain ⟨hne, hnone⟩ := not_or.mp hnot
  exact hn.resolve_left hne ((h.unmet (not_not.mp hnone)).resolve_left hne)

end Tree

namespace Grown

theorem node_mem (h : s.Grown g d π P origin) (ho : P origin) (he : e ∈ s.frontier) :
    P e.node := by
  rcases h with ⟨t, rfl⟩ | h
  · rw [List.mem_singleton.mp he]
    exact ho
  · exact (h.entry e he).1

theorem cost_eq (h : s.Grown g d π P origin) (he : e ∈ s.frontier)
    (hs : isStale s.labels e = false) : (s.labels.of e.node).cost = e.cost := by
  rcases h with ⟨t, rfl⟩ | h
  · rw [List.mem_singleton.mp he, Labels.of_start, if_pos rfl]
    rfl
  · exact h.waiting.cost_eq he hs

theorem settle (h : s.Grown g d π P origin) (hf : s.frontier = e :: rest)
    (hs : isStale s.labels e = false) : (s.settle e rest).Tree g d π P origin := by
  rcases h with ⟨t, rfl⟩ | h
  · obtain ⟨rfl, rfl⟩ : (⟨origin, 0, t⟩ : Entry W) = e ∧ [] = rest := List.cons.inj hf
    have hparent : ∀ n, ((settle (⟨[⟨origin, 0, t⟩], .start origin⟩ : Side W) ⟨origin, 0, t⟩
        []).labels.of n).parent = none := by
      intro n
      rw [parent_of_settle, Labels.of_start]
      split <;> rfl
    constructor
    case root => simp [Label.origin]
    case link => intro n p hp; rw [hparent] at hp; cases hp
    case traced => exact fun n => ⟨[], .root (hparent n)⟩
    case unmet =>
      intro n _
      by_cases hn : n = origin
      · exact .inl hn
      · exact .inr (by simp [Ne.symm hn])
    case finite => intro n hp; exact absurd (hparent n) hp
    case entry => intro x hx; cases hx
    case live => intro n _ hp; exact absurd (hparent n) hp
    case sorted => exact List.Pairwise.nil
  · exact h.settle hf hs

theorem advance (h : s.Grown g d π P origin) (hπ : π.Strict) (hg : g.Domain P)
    (hid : ∀ n, P n → n ≠ noJoint) (ho : P origin) (ha : Advance g d π s s') :
    s'.Tree g d π P origin := by
  cases ha with
  | @drop e rest hf hs =>
    rcases h with ⟨t, rfl⟩ | h
    · -- the entry of the origin is not stale
      obtain ⟨rfl, rfl⟩ : (⟨origin, 0, t⟩ : Entry W) = e ∧ [] = rest := List.cons.inj hf
      simp [isStale, Label.origin] at hs
    · exact h.drop hf hs
  | @expand e rest es hf hs hes =>
    have he : e ∈ s.frontier := Frontier.front_mem hf
    exact (h.settle hf hs).expand hπ hg hid (h.node_mem ho he) (h.cost_eq he hs) hes

theorem cost_origin (h : s.Grown g d π P origin) : (s.labels.of origin).cost = 0 := by
  rcases h with ⟨t, rfl⟩ | h
  · rw [Labels.of_start, if_pos rfl]
    rfl
  · exact h.cost_origin

/-- A side that has nothing left has settled its origin. -/
theorem tree (h : s.Grown g d π P origin) (hnil : s.frontier = []) : s.Tree g d π P origin := by
  refine h.resolve_left ?_
  rintro ⟨t, rfl⟩
  cases hnil

theorem trail_walk (h : s.Grown g d π P origin)
    (hn : n = origin ∨ (s.labels.of n).cost < Cost.infinity) :
    g.Walk d origin (n :: s.labels.trail n).reverse n (s.labels.of n).cost := by
  have hmet : n = origin ∨ s.labels.of n ≠ .unmet := by
    refine hn.imp_right fun hlt hunmet => ?_
    rw [hunmet] at hlt
    exact lt_irrefl _ hlt
  rcases h with ⟨t, rfl⟩ | h
  · obtain rfl : n = origin := by
      by_contra hne
      have hunmet := hmet.resolve_left hne
      rw [Labels.of_start, if_neg (Ne.symm hne)] at hunmet
      exact hunmet rfl
    have hlabel : (Labels.start n : Labels W).of n = .origin := by
      rw [Labels.of_start, if_pos rfl]
    have hroot : ((Labels.start n : Labels W).of n).parent = none := by
      rw [hlabel]
      rfl
    rw [(Labels.Traced.root hroot).trail_eq, hlabel]
    exact .here
  · exact h.walk hmet

end Grown

end TwoSided.Side

end RoadRouting.Search
