import Mathlib.Data.List.Nodup
import RoadRouting.Proofs.Search.Paths

/-!
# No node twice

The joints of an answer are distinct. In a best-first search this is so whatever the costs are, and
even if they obey no laws: a node is settled before it becomes a parent, so no way back returns to a
node.

The search from both ends puts two ways back together. When no weight is negative they part at the
meeting node: a node on both of them is settled on both sides and costs no more there than the meeting
node does, so the way through it was joined before, and the meeting node was no improvement.

* `Side.Rooted`: ways back end at the origin.
* `BestFirst.search_simple`: the joints of a best-first search are distinct and lead from the start to
  the goal.
* `TwoSided.State.Parted`: the two ways back of the meeting node have no node in common.
* `TwoSided.search_simple`: the same for the search from both ends.
-/

namespace RoadRouting.Search

open TwoSided (Side)

variable {ε W : Type}

/-- The nodes are distinct and lead from the start to the goal. -/
structure Path.Simple (start goal : Nat) (path : Path W) : Prop where
  nodup : path.joints.Nodup
  head : path.joints.head? = some start
  last : path.joints.getLast? = some goal

/-- The start and the goal stand at the two ends and nowhere else. -/
theorem Path.Simple.at_end {start goal i n : Nat} {path : Path W} (h : path.Simple start goal)
    (hi : path.joints[i]? = some n) (hn : n = start ∨ n = goal) :
    i = 0 ∨ i + 1 = path.joints.length := by
  have hlt : i < path.joints.length := (List.getElem?_eq_some_iff.mp hi).1
  rcases hn with rfl | rfl
  · have hhead := h.head
    rw [List.head?_eq_getElem?] at hhead
    exact .inl ((List.getElem?_inj hlt h.nodup).mp (hi.trans hhead.symm))
  · have hlast := h.last
    rw [List.getLast?_eq_getElem?] at hlast
    have := (List.getElem?_inj hlt h.nodup).mp (hi.trans hlast.symm)
    right
    omega

/-- The nodes of a path do not leave a set from which no edge leads away. -/
theorem Path.Simple.mem {start goal : Nat} {path : Path W} {g : Graph ε W} {P : Nat → Prop}
    (h : path.Simple start goal) (hs : P start) (hbeside : path.joints.IsChain (g.Beside P)) :
    ∀ n ∈ path.joints, P n :=
  hbeside.induction P _ (fun _ _ hab _ => hab.2.1) fun hne => by
    rwa [← Option.some.inj (h.head.symm.trans (List.head?_eq_some_head hne))]

/-! ## Ways back to the origin -/

namespace TwoSided.Side

section Rooted

variable [Cost W] {g : Graph ε W} {d : Direction} {π : Policy W} {P : Nat → Prop} {origin n : Nat}
  {s s' : Side W} {e via : Entry W} {rest : Frontier W} {edge : Edge W}

/-- Every node that was met has a way back to the origin through settled nodes, and only nodes that
    were met wait in the frontier. -/
structure Rooted (P : Nat → Prop) (origin : Nat) (s : Side W) : Prop where
  entry : ∀ e ∈ s.frontier, P e.node ∧ (e.node = origin ∨ s.labels.of e.node ≠ .unmet)
  met : ∀ n, n = origin ∨ s.labels.of n ≠ .unmet →
    ∃ l, s.labels.Traced n l ∧ (n :: l).getLast? = some origin

namespace Rooted

theorem init (ho : P origin) (t : W) : Rooted P origin ⟨[⟨origin, 0, t⟩], .start origin⟩ where
  entry e he := by
    obtain rfl := List.mem_singleton.mp he
    exact ⟨ho, .inl rfl⟩
  met n hn := by
    obtain rfl : n = origin := by
      refine hn.elim id fun hmet => ?_
      by_contra hne
      rw [Labels.of_start, if_neg (Ne.symm hne)] at hmet
      exact hmet rfl
    refine ⟨[], .root ?_, rfl⟩
    rw [Labels.of_start, if_pos rfl]
    rfl

theorem settle (h : s.Rooted P origin) (hf : s.frontier = e :: rest) :
    (s.settle e rest).Rooted P origin where
  entry x hx := by
    obtain ⟨hP, hmet⟩ := h.entry x (Frontier.mem_of_mem_rest hf hx)
    refine ⟨hP, ?_⟩
    by_cases hnode : e.node = x.node
    · right
      rw [← hnode]
      exact Labels.ne_unmet_of_settled settled_settle_node
    · rwa [of_settle, if_neg hnode]
  met n hn := by
    have hmet : n = origin ∨ s.labels.of n ≠ .unmet := by
      by_cases hnode : e.node = n
      · rw [← hnode]
        exact (h.entry e (Frontier.front_mem hf)).2
      · rwa [of_settle, if_neg hnode] at hn
    obtain ⟨l, hl, hlast⟩ := h.met n hmet
    refine ⟨l, hl.mono (fun m => parent_of_settle) fun m hm => ?_, hlast⟩
    rw [settled_of_settle, hm, Bool.or_true]

theorem accept (h : s.Rooted P origin) (hid : via.node ≠ noJoint) (htarget : P edge.target)
    (hset : (s.labels.of via.node).settled = true) (hadmits : s.admits π via edge = true) :
    (s.accept π via edge).Rooted P origin := by
  have hnew : (s.accept π via edge).labels.of edge.target =
      ⟨via.cost + edge.weight, some via.node, false⟩ := by
    rw [of_accept, if_pos rfl, named?_of_ne hid]
  have hnewmet : (s.accept π via edge).labels.of edge.target ≠ .unmet := by
    rw [hnew]
    intro heq
    cases congrArg Label.parent heq
  have hsettled : ∀ m, (s.labels.of m).settled = true →
      (s.accept π via edge).labels.of m = s.labels.of m :=
    fun m => of_accept_of_settled hadmits
  constructor
  case entry =>
    intro x hx
    rcases Frontier.mem_push.mp hx with rfl | hx
    · exact ⟨htarget, .inr hnewmet⟩
    · obtain ⟨hP, hmet⟩ := h.entry x hx
      refine ⟨hP, ?_⟩
      by_cases hn : edge.target = x.node
      · exact .inr (hn ▸ hnewmet)
      · rwa [of_accept, if_neg hn]
  case met =>
    intro n hn
    by_cases htn : edge.target = n
    · subst htn
      obtain ⟨l, hl, hlast⟩ := h.met via.node (.inr (Labels.ne_unmet_of_settled hset))
      refine ⟨via.node :: l, .next ?_ ?_ (hl.congr hsettled (by rw [hsettled _ hset])), hlast⟩
      · rw [hnew]
      · rw [hsettled _ hset, hset]
    · rw [of_accept, if_neg htn] at hn
      obtain ⟨l, hl, hlast⟩ := h.met n hn
      exact ⟨l, hl.congr hsettled (by rw [of_accept, if_neg htn]), hlast⟩

theorem advance (h : s.Rooted P origin) (hg : g.Domain P) (hid : ∀ n, P n → n ≠ noJoint)
    (ha : Advance g d π s s') : s'.Rooted P origin := by
  cases ha with
  | drop hf _ =>
    exact ⟨fun x hx => h.entry x (Frontier.mem_of_mem_rest hf hx), h.met⟩
  | @expand e rest es hf _ hes =>
    have hP : P e.node := (h.entry e (Frontier.front_mem hf)).1
    refine (expand_induct (M := fun s' => s'.Rooted P origin ∧
      (s'.labels.of e.node).settled = true) ⟨h.settle hf, settled_settle_node⟩ ?_).1
    intro s' ⟨hs', hset⟩ edge hedge hadmits
    rw [← Graph.edgesOrNone_eq hes] at hedge
    exact ⟨hs'.accept (hid _ hP) (hg.stays hP hedge) hset hadmits,
      by rwa [settled_of_accept hadmits]⟩

end Rooted

end Rooted

end TwoSided.Side

/-! ## Best-first search -/

namespace BestFirst

variable [Cost W] {g : Graph ε W} {P : Nat → Prop} {estimate : Nat → Except ε W} {start goal : Nat}
  {path : Path W}

/-- A search ends with ways back to its start. -/
theorem search_rooted (goal : Nat) (hg : g.Domain P) (hid : ∀ n, P n → n ≠ noJoint) (hs : P start)
    {rest : W} (hrest : estimate start = .ok rest) :
    ∃ s, s.side.Rooted P start ∧
      ((s.frontier = [] ∧ search g estimate start goal = .ok none) ∨
      (∃ path, step g estimate goal s = .ok (.arrived path) ∧
        search g estimate start goal = .ok (some path)) ∨
      ∃ x, step g estimate goal s = .error x ∧ search g estimate start goal = .error x) :=
  search_induct hrest (.init hs rest) fun _ _ hrooted hnext =>
    hrooted.advance hg hid (step_running hnext).1

/-- The joints of an answer are distinct, whatever the costs and the estimates are. -/
theorem search_simple (hg : g.Domain P) (hid : ∀ n, P n → n ≠ noJoint) (hs : P start)
    (h : search g estimate start goal = .ok (some path)) : path.Simple start goal := by
  cases hrest : estimate start with
  | error x =>
    rw [search, hrest] at h
    cases h
  | ok rest =>
    obtain ⟨s, hrooted, hend⟩ := search_rooted goal hg hid hs hrest
    rw [h] at hend
    rcases hend with ⟨-, hend⟩ | ⟨path', hstep, hend⟩ | ⟨x, -, hend⟩
    · cases hend
    · cases hend
      obtain ⟨e, rest, hf, -, rfl, hjoints, -⟩ := step_arrived hstep
      have hmet : (s.side.settle e rest).labels.of e.node ≠ .unmet :=
        Labels.ne_unmet_of_settled Side.settled_settle_node
      obtain ⟨l, hl, hlast⟩ := (hrooted.settle hf).met e.node (.inr hmet)
      have hreverse : path.joints = (e.node :: l).reverse := by
        rw [hjoints, pathTo, hl.trail_eq]
      refine ⟨?_, ?_, ?_⟩
      · rw [hreverse, List.nodup_reverse]
        exact hl.nodup
      · rw [hreverse, List.head?_reverse, hlast]
      · rw [hreverse, List.getLast?_reverse, List.head?_cons]
    · cases hend

end BestFirst

theorem dijkstra_simple [Cost W] {g : Graph ε W} {P : Nat → Prop} {start goal : Nat} {path : Path W}
    (hg : g.Domain P) (hid : ∀ n, P n → n ≠ noJoint) (hs : P start)
    (h : dijkstra g start goal = .ok (some path)) : path.Simple start goal :=
  BestFirst.search_simple hg hid hs h

/-! ## Costs along a way back -/

namespace TwoSided.Side

section Costs

variable [OrderedCost W] {g : Graph ε W} {d : Direction} {π : Policy W} {P : Nat → Prop}
  {origin n : Nat} {s s' : Side W} {e : Entry W} {rest : Frontier W} {es : List (Edge W)}
  {l : List Nat}

theorem Grown.parent_origin (h : s.Grown g d π P origin) : (s.labels.of origin).parent = none := by
  rcases h with ⟨t, rfl⟩ | h
  · rw [Labels.of_start, if_pos rfl]
    rfl
  · rw [h.root]

theorem Grown.exists_traced (h : s.Grown g d π P origin) (n : Nat) :
    ∃ l, s.labels.Traced n l := by
  rcases h with ⟨t, rfl⟩ | h
  · refine ⟨[], .root ?_⟩
    rw [Labels.of_start]
    split <;> rfl
  · exact h.traced n

/-- Without negative weights, no node costs more than those that it leads to. -/
theorem Grown.cost_le_of_traced (h : s.Grown g d π P origin) (hlinked : s.Linked g d P)
    (hw : g.NonNegative P) (ht : s.labels.Traced n l) :
    ∀ x ∈ l, (s.labels.of x).cost ≤ (s.labels.of n).cost := by
  rcases h with ⟨t, rfl⟩ | h
  · cases ht with
    | root => exact fun x hx => absurd hx List.not_mem_nil
    | next hp =>
      rw [Labels.of_start] at hp
      split at hp <;> cases hp
  · induction ht with
    | root => exact fun x hx => absurd hx List.not_mem_nil
    | @next n p l hp _ _ ih =>
      obtain ⟨-, w, hedge, hcost⟩ := h.link hp
      have hle : (s.labels.of p).cost ≤ (s.labels.of n).cost := by
        rw [hcost]
        exact OrderedCost.le_add (hw p (hlinked.parent hp).1 d _ hedge) _
      intro x hx
      rcases List.mem_cons.mp hx with rfl | hx
      · exact hle
      · exact le_trans (ih x hx) hle

/-- An expansion lowers the cost of a node, or leaves its cost and its parent as they are. -/
theorem expand_cases (hπ : π.Strict) :
    ((s.expand π e rest es).labels.of n).cost < (s.labels.of n).cost ∨
      ((s.expand π e rest es).labels.of n).parent = (s.labels.of n).parent := by
  refine (expand_induct (M := fun s' => (s'.labels.of n).cost ≤ (s.labels.of n).cost ∧
    ((s'.labels.of n).cost < (s.labels.of n).cost ∨
      (s'.labels.of n).parent = (s.labels.of n).parent))
    ⟨le_of_eq cost_of_settle, .inr parent_of_settle⟩ ?_).2
  intro s' ⟨hle, hs'⟩ edge _ hadmits
  refine ⟨le_trans (cost_accept_le hπ hadmits) hle, ?_⟩
  rw [of_accept]
  split
  case isTrue hn =>
    have hlt := (hπ _ _).mp (admits_iff.mp hadmits).2
    rw [hn] at hlt
    exact .inl (lt_of_lt_of_le hlt hle)
  case isFalse => exact hs'

theorem Advance.cost_le (hπ : π.Strict) (ha : Advance g d π s s') (n : Nat) :
    (s'.labels.of n).cost ≤ (s.labels.of n).cost := by
  cases ha with
  | drop => exact le_refl _
  | expand => exact cost_expand_le hπ

theorem Advance.cost_of_settled (ha : Advance g d π s s')
    (hn : (s'.labels.of n).settled = true) : (s'.labels.of n).cost = (s.labels.of n).cost := by
  cases ha with
  | drop => rfl
  | expand => exact cost_expand_of_settled hn

/-- A node that has not become cheaper keeps its way back. -/
theorem Advance.traced (hπ : π.Strict) (ha : Advance g d π s s')
    (hn : ¬ (s'.labels.of n).cost < (s.labels.of n).cost) (ht : s.labels.Traced n l) :
    s'.labels.Traced n l := by
  cases ha with
  | drop => exact ht
  | @expand e rest es _ _ _ =>
    refine ht.congr (fun m hm => ?_) ((expand_cases hπ).resolve_left hn)
    have hset : ((s.settle e rest).labels.of m).settled = true := by
      rw [settled_of_settle, hm, Bool.or_true]
    rw [of_expand_of_settled hset, of_settle]
    split
    case isTrue hnode =>
      subst hnode
      rw [← hm]
    case isFalse => rfl

end Costs

end TwoSided.Side

/-! ## Search from both ends -/

namespace TwoSided

variable [LinearOrderedAddCommMonoidWithTop W] {g : Graph ε W} {P : Nat → Prop}
  {start goal : Nat} {s s' : State W} {path : Path W}

/-- A step that does not find a better way keeps the meeting node. -/
theorem Next.best_cases (h : Next g s s') :
    s'.best < s.best ∨ (s'.best = s.best ∧ s'.meeting = s.meeting) := by
  obtain ⟨d, hd, hstep⟩ := h
  refine (step_induct (M := fun t => t.best ≤ s.best ∧
    (t.best < s.best ∨ (t.best = s.best ∧ t.meeting = s.meeting)))
    (frontier_ne_nil_of_next? hd) hstep ?drop ?settle ?relax ?visited).2
  case drop =>
    intro e rest _
    rw [State.best_withSide, State.meeting_withSide]
    exact ⟨le_rfl, .inr ⟨rfl, rfl⟩⟩
  case settle =>
    intro e rest _
    rw [State.settle, State.best_withSide, State.meeting_withSide]
    exact ⟨le_rfl, .inr ⟨rfl, rfl⟩⟩
  case relax =>
    rintro e _ edge _ t ⟨hle, ht⟩
    rw [relax_eq]
    split
    case isFalse => exact ⟨hle, ht⟩
    case isTrue =>
      unfold State.join
      rw [State.best_withSide]
      split
      case isTrue hlt => exact ⟨le_of_lt (lt_of_lt_of_le hlt hle), .inl (lt_of_lt_of_le hlt hle)⟩
      case isFalse =>
        rw [State.best_withSide, State.meeting_withSide]
        exact ⟨hle, ht⟩
  case visited => exact fun _ _ ht => ht

namespace Next

theorem cost_le (h : Next g s s') (d : Direction) (n : Nat) :
    ((s'.side d).labels.of n).cost ≤ ((s.side d).labels.of n).cost := by
  rcases h.side d with hkeep | hadvance
  · rw [hkeep]
  · exact hadvance.cost_le policy_strict n

theorem cost_of_settled (h : Next g s s') {d : Direction} {n : Nat}
    (hn : ((s'.side d).labels.of n).settled = true) :
    ((s'.side d).labels.of n).cost = ((s.side d).labels.of n).cost := by
  rcases h.side d with hkeep | hadvance
  · rw [hkeep]
  · exact hadvance.cost_of_settled hn

/-- A node that has not become cheaper keeps its way back. -/
theorem trail_eq (h : Next g s s') {d : Direction} {origin n : Nat}
    (hgrown : (s.side d).Grown g d policy P origin)
    (hn : ¬ ((s'.side d).labels.of n).cost < ((s.side d).labels.of n).cost) :
    (s'.side d).labels.trail n = (s.side d).labels.trail n := by
  rcases h.side d with hkeep | hadvance
  · rw [hkeep]
  · obtain ⟨l, hl⟩ := hgrown.exists_traced n
    rw [hl.trail_eq, (hadvance.traced policy_strict hn hl).trail_eq]

/-- When the way through a node costs what it did, and not infinity, so do its two parts. -/
theorem not_cost_lt (h : Next g s s') {m : Nat} (heq : s'.through m = s.through m)
    (hfin : s.through m < ⊤) (d : Direction) :
    ¬ ((s'.side d).labels.of m).cost < ((s.side d).labels.of m).cost := by
  intro hlt
  rw [State.through_eq s d] at hfin heq
  rw [State.through_eq s' d] at heq
  obtain ⟨-, hother⟩ := Cost.add_lt_top_iff.mp hfin
  have hle := h.cost_le d.opposite m
  have hother' := lt_of_le_of_lt hle hother
  refine lt_irrefl _ (lt_of_lt_of_le ?_ (le_of_eq heq.symm))
  calc ((s'.side d).labels.of m).cost + ((s'.side d.opposite).labels.of m).cost
      < ((s.side d).labels.of m).cost + ((s'.side d.opposite).labels.of m).cost :=
        (add_lt_add_iff_left_of_ne_top (lt_top_iff_ne_top.mp hother')).mpr hlt
    _ ≤ ((s.side d).labels.of m).cost + ((s.side d.opposite).labels.of m).cost :=
        add_le_add_right hle _

end Next

/-- The two ways back of the meeting node have no node in common. -/
def State.Parted (s : State W) : Prop :=
  ∀ m, s.meeting = some m →
    List.Disjoint ((s.side .outgoing).labels.trail m) ((s.side .incoming).labels.trail m)

namespace State.Parted

theorem init : State.Parted (TwoSided.init start goal : State W) := by
  intro m _ x hx _
  have hroot : ((Labels.start start : Labels W).of m).parent = none := by
    rw [Labels.of_start]
    split <;> rfl
  rw [State.side_init, origin, Side.start, (Labels.Traced.root hroot).trail_eq] at hx
  cases hx

/-- A node on both ways back is settled on both sides, so this step changed no cost of its own. The way
    through it costs no more than the best one, which is therefore no better than before: the meeting
    node and its two ways back are the old ones. -/
theorem next (h : s.Parted) (hjoined : s.Joined g P start goal)
    (hjoined' : s'.Joined g P start goal) (hlinked' : ∀ d, (s'.side d).Linked g d P)
    (hw : g.NonNegative P) (hnext : Next g s s') : s'.Parted := by
  intro m hm x hxF hxB
  obtain ⟨-, hbest', hfin⟩ := hjoined'.met.attained hm
  obtain ⟨F, hF⟩ := (hjoined'.grown .outgoing).exists_traced m
  obtain ⟨B, hB⟩ := (hjoined'.grown .incoming).exists_traced m
  rw [hF.trail_eq] at hxF
  rw [hB.trail_eq] at hxB
  rcases hfin with ⟨rfl, -⟩ | hfin
  · -- the way back of the start is empty
    obtain rfl := hF.unique (.root (hjoined'.grown .outgoing).parent_origin)
    cases hxF
  have hx : s'.through x ≤ s'.best := by
    rw [hbest']
    exact add_le_add ((hjoined'.grown .outgoing).cost_le_of_traced (hlinked' .outgoing) hw hF x hxF)
      ((hjoined'.grown .incoming).cost_le_of_traced (hlinked' .incoming) hw hB x hxB)
  have hkept : s'.through x = s.through x := by
    rw [State.through_eq s' .outgoing, State.through_eq s .outgoing,
      hnext.cost_of_settled (hF.settled_of_mem hxF)]
    exact congrArg _ (hnext.cost_of_settled (d := .incoming) (hB.settled_of_mem hxB))
  rcases hnext.best_cases with hlt | ⟨hbest, hmeeting⟩
  · rw [hkept] at hx
    exact absurd (hjoined.met.le_through x) (not_le_of_gt (lt_of_le_of_lt hx hlt))
  · rw [hmeeting] at hm
    obtain ⟨-, hattained, -⟩ := hjoined.met.attained hm
    have hthrough : s'.through m = s.through m := by rw [← hbest', ← hattained, hbest]
    have hfin' : s.through m < ⊤ := by rwa [← hattained, ← hbest]
    have hcosts := hnext.not_cost_lt hthrough hfin'
    refine h m hm (a := x) ?_ ?_
    · rwa [← hnext.trail_eq (hjoined.grown .outgoing) (hcosts .outgoing), hF.trail_eq]
    · rwa [← hnext.trail_eq (hjoined.grown .incoming) (hcosts .incoming), hB.trail_eq]

end State.Parted

/-- Put together at a meeting node whose two ways back part there, they visit no node twice. -/
theorem State.Joined.nodup_pathVia (h : s.Joined g P start goal) (hparted : s.Parted) {m : Nat}
    (hm : s.meeting = some m) : (s.pathVia m).Nodup := by
  obtain ⟨F, hF⟩ := (h.grown .outgoing).exists_traced m
  obtain ⟨B, hB⟩ := (h.grown .incoming).exists_traced m
  have hdisjoint := hparted m hm
  rw [hF.trail_eq, hB.trail_eq] at hdisjoint
  have hvia : s.pathVia m = F.reverse ++ m :: B :=
    congrArg₂ (fun F B => F.reverse ++ m :: B) hF.trail_eq hB.trail_eq
  rw [hvia, List.nodup_append']
  refine ⟨List.nodup_reverse.mpr (List.nodup_cons.mp hF.nodup).2, hB.nodup, ?_⟩
  intro x hxF hxB
  rw [List.mem_reverse] at hxF
  rcases List.mem_cons.mp hxB with rfl | hxB
  · exact hF.not_mem hxF
  · exact hdisjoint hxF hxB

/-- Without negative weights, the joints of an answer are distinct, and they lead from the start to the
    goal. -/
theorem search_simple (hg : g.Domain P) (hw : g.NonNegative P) (hid : ∀ n, P n → n ≠ noJoint)
    (hs : P start) (ht : P goal) (h : search g start goal = .ok (some path)) :
    path.Simple start goal := by
  have hP := origin_mem hs ht
  obtain ⟨s, -, ⟨hjoined, hparted⟩, -, hsearch⟩ := search_induct
    (M := fun s : State W => s.Joined g P start goal ∧ s.Parted) hg hs ht ⟨.init hid hs, .init⟩
    fun s s' hwithin ⟨hjoined, hparted⟩ hnext => by
      have hjoined' := hjoined.next hg hid hP hnext
      exact ⟨hjoined', hparted.next hjoined hjoined' (hwithin.next hg hnext).linked hw hnext⟩
  rw [h] at hsearch
  obtain ⟨m, hm, rfl⟩ := Option.map_eq_some_iff.mp (Except.ok.inj hsearch.symm)
  have hF := (hjoined.grown .outgoing).trail_walk (hjoined.reached hm .outgoing)
  have hB := (hjoined.grown .incoming).trail_walk (hjoined.reached hm .incoming)
  refine ⟨hjoined.nodup_pathVia hparted hm, ?_, ?_⟩
  · have hhead := hF.head?_nodes
    rw [List.reverse_cons] at hhead
    rw [State.pathVia, List.append_cons, List.head?_append]
    exact Option.or_eq_some_iff.mpr (.inl hhead)
  · have hlast := hB.head?_nodes
    rw [List.head?_reverse] at hlast
    rw [State.pathVia, List.getLast?_append]
    exact Option.or_eq_some_iff.mpr (.inl hlast)

end TwoSided

end RoadRouting.Search
