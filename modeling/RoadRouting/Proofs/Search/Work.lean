import Mathlib.Algebra.BigOperators.Group.Finset.Basic
import Mathlib.Data.Set.Card
import RoadRouting.Proofs.Cost.WithNaN
import RoadRouting.Proofs.Search.Ending
import RoadRouting.Proofs.Search.Simple

/-!
# The work of a search

A search comes to its end after a number of steps that depends on the edges of the graph alone.
Weights and estimates may be anything: negative on a cycle, infinite, or no number at all. What
bounds the work is that a node is settled once, and then puts at most one entry into the frontier for
each of its edges.

Runs are told by logs of the entries that were taken, so that nothing here depends on the number of
steps that a search is given.

* `Graph.edgeTotal`: the number of edges on one side.
* `Side.Tallied`: the invariant of a side and its log.
* `Accounted`: what a log may hold, and where parents lead back to.
* `BestFirst.Logged`, `BestFirst.Finishes`, `TwoSided.Logged`: the runs of the searches.
* `TwoSided.State.Joins`: both sides know the meeting node.
* `every_search_is_bounded`: all searches end within their bounds.
-/

namespace RoadRouting

variable {ε W : Type}

/-! ## Edges -/

namespace Graph

/-- An edge of the first node leads to the second. -/
def Leads (g : Graph ε W) (d : Direction) (u v : Nat) : Prop :=
  ∃ e ∈ g.edgesOrNone d u, e.target = v

/-- The nodes to which edges lead from `origin`, and `origin` itself. -/
def reach (g : Graph ε W) (d : Direction) (origin : Nat) : Set Nat :=
  {n | Relation.ReflTransGen (g.Leads d) origin n}

/-- The number of edges on one side, each counted at its node. -/
def edgeTotal (g : Graph ε W) (d : Direction) : Nat :=
  ∑ n ∈ g.nodes.toFinset, (g.edgesOrNone d n).length

/-- The graph with no node listed twice. -/
def distinct (g : Graph ε W) : Graph ε W where
  nodes := g.nodes.dedup
  edges := g.edges
  edges_eq_nil hn := g.edges_eq_nil (by rwa [List.mem_dedup] at hn)

theorem edgeCount_distinct (g : Graph ε W) (d : Direction) :
    g.distinct.edgeCount d = g.edgeTotal d := by
  have hnodes : g.distinct.nodes.toFinset = g.nodes.toFinset := by
    ext n
    simp [distinct]
  calc g.distinct.edgeCount d
      = (g.distinct.nodes.map fun n => (g.edgesOrNone d n).length).sum := List.length_flatMap
    _ = ∑ n ∈ g.distinct.nodes.toFinset, (g.edgesOrNone d n).length :=
        (List.sum_toFinset _ g.nodes.nodup_dedup).symm
    _ = g.edgeTotal d := by rw [hnodes, edgeTotal]

end Graph

namespace Search

open TwoSided (Side)
open BestFirst (isStale)

/-! ## Logs -/

/-- What was done with an entry that was taken from a frontier. -/
structure Taken where
  node : Nat
  /-- The entry was not stale, and its node was settled. -/
  settles : Bool
deriving Repr, DecidableEq

/-- The entry in front, about to be taken by a search with these labels. -/
def Taken.of [Cost W] (labels : Labels W) (e : Entry W) : Taken := ⟨e.node, !isStale labels e⟩

/-- The nodes that were settled, the last one first. -/
def settledBy (log : List Taken) : List Nat := (log.filter (·.settles)).map (·.node)

theorem settledBy_cons (n : Nat) (b : Bool) (log : List Taken) :
    settledBy (⟨n, b⟩ :: log) = if b then n :: settledBy log else settledBy log := by
  cases b <;> rfl

section Sides

variable [Cost W]

/-- The parents of `n` are followed to their end, which is `origin`. -/
def Labels.LeadsBack (labels : Labels W) (origin n : Nat) : Prop :=
  labels.Traced n (labels.trail n) ∧ (n :: labels.trail n).getLast? = some origin

/-- A search from `origin` has done no more than it may: it has taken at most one entry for each edge
    and one for its origin, and no node is settled twice or without being reached. From every node it
    has met, parents lead back to the origin. -/
structure Accounted (g : Graph ε W) (d : Direction) (origin : Nat) (log : List Taken)
    (labels : Labels W) : Prop where
  length_le : log.length ≤ 1 + g.edgeTotal d
  nodup : (settledBy log).Nodup
  settled_iff : ∀ n, n ∈ settledBy log ↔ (labels.of n).settled = true
  reached : ∀ n ∈ settledBy log, n ∈ g.reach d origin
  visits_le : ((settledBy log).length : ℕ∞) ≤ (g.reach d origin).encard
  leads_back : ∀ n, n = origin ∨ labels.of n ≠ .unmet → labels.LeadsBack origin n

namespace TwoSided.Side

variable {g : Graph ε W} {d : Direction} {π : Policy W} {P : Nat → Prop} {origin n : Nat}
  {s s' : Side W} {e : Entry W} {rest : Frontier W} {log : List Taken} {l : List Nat}

/-- A node has a way back only over edges that lead to it from where the way ends. -/
theorem Linked.mem_reach (h : s.Linked g d P) (ht : s.labels.Traced n l)
    (hlast : (n :: l).getLast? = some origin) : n ∈ g.reach d origin := by
  induction ht with
  | root =>
    cases hlast
    exact .refl
  | @next n p l hp _ _ ih =>
    -- the way back of the parent ends where that of the child does
    rw [List.getLast?_cons_cons] at hlast
    exact .tail (ih hlast) (h.parent hp).2.2.2

theorem Advance.distinct (h : Advance g d π s s') : Advance g.distinct d π s s' := by
  cases h with
  | drop hf hs => exact .drop hf hs
  | expand hf hs hes => exact .expand hf hs hes

/-- A step takes the entry in front, and settles its node unless the entry is stale. -/
theorem Advance.settled_iff (h : Advance g d π s s') (hf : s.frontier = e :: rest) :
    (s'.labels.of n).settled = true ↔
      (isStale s.labels e = false ∧ e.node = n) ∨ (s.labels.of n).settled = true := by
  cases h with
  | drop hf' hs =>
    cases hf.symm.trans hf'
    simp [hs]
  | expand hf' hs =>
    cases hf.symm.trans hf'
    rw [settled_of_expand, Bool.or_eq_true, decide_eq_true_eq]
    simp [hs]

/-- The log of a side tells what it has settled, and what it has taken fits the work that is left. -/
structure Tallied (g : Graph ε W) (d : Direction) (P : Nat → Prop) (origin : Nat)
    (log : List Taken) (s : Side W) : Prop where
  work : log.length + s.budget g.distinct d ≤ 1 + g.edgeTotal d
  nodup : (settledBy log).Nodup
  settled_iff : ∀ n, n ∈ settledBy log ↔ (s.labels.of n).settled = true
  linked : s.Linked g d P
  rooted : s.Rooted P origin

namespace Tallied

theorem init (ho : P origin) (t : W) :
    Tallied g d P origin [] ⟨[⟨origin, 0, t⟩], .start origin⟩ where
  work := by
    have hle := unsettledEdges_le (g := g.distinct) (d := d) (Labels.start origin : Labels W)
    have hbudget : budget g.distinct d (⟨[⟨origin, 0, t⟩], .start origin⟩ : Side W) =
        1 + unsettledEdges g.distinct d (Labels.start origin : Labels W) := rfl
    rw [hbudget, List.length_nil, Nat.zero_add]
    rw [g.edgeCount_distinct] at hle
    exact Nat.add_le_add_left hle 1
  nodup := List.nodup_nil
  settled_iff n := by
    rw [Labels.of_start]
    split <;> simp [settledBy, Label.origin, Label.unmet]
  linked := .init d ho t
  rooted := .init ho t

/-- Only what was not settled before is added to the nodes that are. -/
theorem settledBy_take (h : s.Tallied g d P origin log) :
    (settledBy (.of s.labels e :: log)).Nodup ∧
      ∀ n, n ∈ settledBy (.of s.labels e :: log) ↔
        (isStale s.labels e = false ∧ e.node = n) ∨ (s.labels.of n).settled = true := by
  rw [Taken.of, settledBy_cons]
  cases hs : isStale s.labels e with
  | true => simp [h.nodup, h.settled_iff]
  | false =>
    have hnew : e.node ∉ settledBy log := by
      rw [h.settled_iff, (isStale_eq_false_iff.mp hs).1]
      exact Bool.false_ne_true
    refine ⟨List.nodup_cons.mpr ⟨hnew, h.nodup⟩, fun n => ?_⟩
    simp [h.settled_iff, @eq_comm _ n]

theorem advance (h : s.Tallied g d P origin log) (hg : g.Domain P)
    (hid : ∀ n, P n → n ≠ noJoint) (hf : s.frontier = e :: rest) (ha : Advance g d π s s') :
    s'.Tallied g d P origin (.of s.labels e :: log) where
  work := by
    -- the entry that was taken is paid for with the work that is left
    have hlt := ha.distinct.budget_lt
    have hle := h.work
    rw [List.length_cons]
    omega
  nodup := h.settledBy_take.1
  settled_iff n := by rw [h.settledBy_take.2, ha.settled_iff hf]
  linked := h.linked.advance hg ha
  rooted := h.rooted.advance hg hid ha

/-- The node in front was settled, before its edges are followed. -/
theorem settle (h : s.Tallied g d P origin log) (hf : s.frontier = e :: rest)
    (hs : isStale s.labels e = false) :
    (s.settle e rest).Tallied g d P origin (.of s.labels e :: log) where
  work := by
    have hle : unsettledEdges g.distinct d (s.settle e rest).labels ≤
        unsettledEdges g.distinct d s.labels :=
      le_of_add_le_left (unsettledEdges_settle (isStale_eq_false_iff.mp hs).1)
    have hfront : (s.settle e rest).frontier.length + 1 = s.frontier.length := by
      rw [hf]
      rfl
    have hwork := h.work
    rw [budget] at hwork
    rw [List.length_cons, budget]
    omega
  nodup := h.settledBy_take.1
  settled_iff n := by
    rw [h.settledBy_take.2, settled_of_settle, Bool.or_eq_true, decide_eq_true_eq]
    simp [hs]
  linked := h.linked.settle hf
  rooted := h.rooted.settle hf

theorem leadsBack (h : s.Tallied g d P origin log) (hn : n = origin ∨ s.labels.of n ≠ .unmet) :
    s.labels.LeadsBack origin n := by
  obtain ⟨l, hl, hlast⟩ := h.rooted.met n hn
  rw [Labels.LeadsBack, hl.trail_eq]
  exact ⟨hl, hlast⟩

theorem accounted (h : s.Tallied g d P origin log) : Accounted g d origin log s.labels := by
  have hreached : ∀ n ∈ settledBy log, n ∈ g.reach d origin := by
    intro n hn
    have hmet : s.labels.of n ≠ .unmet := Labels.ne_unmet_of_settled ((h.settled_iff n).mp hn)
    obtain ⟨hl, hlast⟩ := h.leadsBack (.inr hmet)
    exact h.linked.mem_reach hl hlast
  refine ⟨le_of_add_le_left h.work, h.nodup, h.settled_iff, hreached, ?_, fun _ => h.leadsBack⟩
  have hsub : (↑(settledBy log).toFinset : Set Nat) ⊆ g.reach d origin := by
    intro n hn
    exact hreached n (by simpa using hn)
  calc ((settledBy log).length : ℕ∞)
      = ((settledBy log).toFinset.card : ℕ∞) := by rw [List.toFinset_card_of_nodup h.nodup]
    _ = (↑(settledBy log).toFinset : Set Nat).encard := (Set.encard_coe_eq_coe_finsetCard _).symm
    _ ≤ (g.reach d origin).encard := Set.encard_le_encard hsub

end Tallied

end TwoSided.Side

/-! ## Best-first search -/

namespace BestFirst

variable {g : Graph ε W} {P : Nat → Prop} {estimate : Nat → Except ε W} {start goal : Nat}
  {s s' : State W} {log : List Taken} {labels : Labels W} {answer : Except ε (Option (Path W))}

/-- The search comes to the state, and has then taken the entries of the log. -/
inductive Logged (g : Graph ε W) (estimate : Nat → Except ε W) (start goal : Nat) :
    List Taken → State W → Prop
  | init {rest : W} : estimate start = .ok rest → Logged g estimate start goal [] (init start rest)
  | next {log : List Taken} {s s' : State W} {e : Entry W} {rest : Frontier W} :
      Logged g estimate start goal log s → s.frontier = e :: rest → Next g estimate goal s s' →
      Logged g estimate start goal (.of s.labels e :: log) s'

/-- The search ends with the answer. By then it has taken the entries of the log. -/
inductive Finishes (g : Graph ε W) (estimate : Nat → Except ε W) (start goal : Nat) :
    List Taken → Labels W → Except ε (Option (Path W)) → Prop
  | unestimated {x : ε} : estimate start = .error x →
      Finishes g estimate start goal [] (.start start) (.error x)
  | exhausted {log : List Taken} {s : State W} : Logged g estimate start goal log s →
      s.frontier = [] → Finishes g estimate start goal log s.labels (.ok none)
  | arrived {log : List Taken} {s : State W} {e : Entry W} {rest : Frontier W} {path : Path W} :
      Logged g estimate start goal log s → s.frontier = e :: rest →
      step g estimate goal s = .ok (.arrived path) →
      Finishes g estimate start goal (.of s.labels e :: log) (settle s e rest).labels (.ok path)
  | failed {log : List Taken} {s : State W} {e : Entry W} {rest : Frontier W} {x : ε} :
      Logged g estimate start goal log s → s.frontier = e :: rest →
      step g estimate goal s = .error x →
      Finishes g estimate start goal (.of s.labels e :: log) (settle s e rest).labels (.error x)

theorem exists_front_of_step (h : step g estimate goal s ≠ .ok .exhausted) :
    ∃ e rest, s.frontier = e :: rest := by
  cases hf : s.frontier with
  | nil => exact absurd (step_of_nil hf) h
  | cons e rest => exact ⟨e, rest, rfl⟩

/-- A search comes to its end, whatever the weights and the estimates are. -/
theorem exists_finish (g : Graph ε W) (estimate : Nat → Except ε W) (start goal : Nat) :
    ∃ log labels, Finishes g estimate start goal log labels (search g estimate start goal) := by
  cases hrest : estimate start with
  | error x =>
    have hsearch : search g estimate start goal = .error x := by
      rw [search, hrest]
      rfl
    rw [hsearch]
    exact ⟨[], _, .unestimated hrest⟩
  | ok rest =>
    have hnext : ∀ s s', (∃ log, Logged g estimate start goal log s) → Next g estimate goal s s' →
        ∃ log, Logged g estimate start goal log s' := by
      rintro s s' ⟨log, hlog⟩ hnext
      obtain ⟨e, rest, hf⟩ := exists_front_of_step (s := s) (by rw [hnext]; simp)
      exact ⟨_, .next hlog hf hnext⟩
    obtain ⟨s, ⟨log, hlog⟩, hend⟩ := search_induct hrest ⟨[], .init hrest⟩ hnext
    rcases hend with ⟨hnil, hsearch⟩ | ⟨path, hstep, hsearch⟩ | ⟨x, hstep, hsearch⟩
    · rw [hsearch]
      exact ⟨log, _, .exhausted hlog hnil⟩
    · obtain ⟨e, rest, hf⟩ := exists_front_of_step (s := s) (by rw [hstep]; simp)
      rw [hsearch]
      exact ⟨_, _, .arrived hlog hf hstep⟩
    · obtain ⟨e, rest, hf⟩ := exists_front_of_step (s := s) (by rw [hstep]; simp)
      rw [hsearch]
      exact ⟨_, _, .failed hlog hf hstep⟩

theorem Logged.tallied (h : Logged g estimate start goal log s) (hg : g.Domain P)
    (hid : ∀ n, P n → n ≠ noJoint) (hs : P start) : s.side.Tallied g .outgoing P start log := by
  induction h with
  | init => exact .init hs _
  | next _ hf hnext ih => exact ih.advance hg hid hf (step_running hnext).1

theorem Logged.visited_eq (h : Logged g estimate start goal log s) :
    s.visited = (settledBy log).length := by
  induction h with
  | init => rfl
  | @next log s s' e rest _ hf hnext ih =>
    have hout := step_outcome g estimate goal s
    rw [hnext] at hout
    rw [Taken.of, settledBy_cons]
    cases hout with
    | dropped hf' hs =>
      cases hf.symm.trans hf'
      simp [hs, ih]
    | expanded hf' hs _ _ hfold =>
      cases hf.symm.trans hf'
      simp [hs, visited_foldlM hfold, settle, ih]

/-- The entry with which a step does not lead on is not stale, and its node is settled last. -/
theorem Logged.accounted_settle {e : Entry W} {rest : Frontier W}
    (h : Logged g estimate start goal log s) (hf : s.frontier = e :: rest)
    (hlast : ∀ s', ¬ Next g estimate goal s s') (hg : g.Domain P) (hid : ∀ n, P n → n ≠ noJoint)
    (hs : P start) :
    Accounted g .outgoing start (.of s.labels e :: log) (settle s e rest).labels := by
  have hstale : isStale s.labels e = false := by
    cases hs : isStale s.labels e with
    | false => rfl
    | true => exact absurd (next_of_stale hf hs) (hlast _)
  exact ((h.tallied hg hid hs).settle hf hstale).accounted

theorem Finishes.accounted (h : Finishes g estimate start goal log labels answer) (hg : g.Domain P)
    (hid : ∀ n, P n → n ≠ noJoint) (hs : P start) : Accounted g .outgoing start log labels := by
  cases h with
  | unestimated => exact (Side.Tallied.init hs 0).accounted
  | exhausted hlog _ => exact (hlog.tallied hg hid hs).accounted
  | arrived hlog hf hstep =>
    exact hlog.accounted_settle hf (fun _ hnext => nomatch hstep.symm.trans hnext) hg hid hs
  | failed hlog hf hstep =>
    exact hlog.accounted_settle hf (fun _ hnext => nomatch hstep.symm.trans hnext) hg hid hs

/-- The path is read off the labels, and tells how many nodes were settled. -/
theorem Finishes.path {path : Path W} (h : Finishes g estimate start goal log labels (.ok path)) :
    path.joints = pathTo labels goal ∧ path.visited = (settledBy log).length ∧
      (labels.of goal).settled = true := by
  cases h with
  | @arrived log s e rest path hlog hf hstep =>
    have hout := step_outcome g estimate goal s
    rw [hstep] at hout
    cases hout with
    | arrived hf' hs hgoal =>
      cases hf.symm.trans hf'
      refine ⟨rfl, ?_, ?_⟩
      · rw [Taken.of, settledBy_cons]
        simp [hs, hlog.visited_eq]
      · rw [← hgoal]
        show ((s.side.settle e rest).labels.of e.node).settled = true
        exact Side.settled_settle_node

end BestFirst

/-! ## Search from both ends -/

namespace TwoSided

variable {g : Graph ε W} {P : Nat → Prop} {start goal n : Nat} {s s' : State W}
  {logs : Direction → List Taken}

/-- The search comes to the state, and has then taken the entries of the log of each side. -/
inductive Logged (g : Graph ε W) (start goal : Nat) : (Direction → List Taken) → State W → Prop
  | init : Logged g start goal (fun _ => []) (init start goal)
  | next {logs : Direction → List Taken} {s s' : State W} {d : Direction} {e : Entry W}
      {rest : Frontier W} : Logged g start goal logs s → s.next? = some d →
      (s.side d).frontier = e :: rest → step g d s = .ok s' →
      Logged g start goal (Function.update logs d (.of (s.side d).labels e :: logs d)) s'

theorem Logged.tallied (h : Logged g start goal logs s) (hg : g.Domain P)
    (hid : ∀ n, P n → n ≠ noJoint) (hs : P start) (ht : P goal) (d : Direction) :
    (s.side d).Tallied g d P (origin start goal d) (logs d) := by
  induction h with
  | init =>
    rw [State.side_init]
    exact .init (origin_mem hs ht d) 0
  | @next logs s s' d' e rest _ hd hf hstep ih =>
    obtain ⟨hadvance, hother⟩ := step_ok (frontier_ne_nil_of_next? hd) hstep
    rcases d'.eq_or_eq_opposite d with rfl | rfl
    · rw [Function.update_self]
      exact ih.advance hg hid hf hadvance
    · have hne : d'.opposite ≠ d' := by cases d' <;> decide
      rw [Function.update_of_ne hne, hother]
      exact ih

/-! ### The meeting node -/

/-- The node is the origin, or it was met. -/
def Side.Knows (origin : Nat) (s : Side W) (n : Nat) : Prop := n = origin ∨ s.labels.of n ≠ .unmet

namespace Side.Knows

variable {s : Side W} {origin : Nat} {π : Policy W} {e via : Entry W} {rest : Frontier W}
  {edge : Edge W}

theorem settle (h : s.Knows origin n) : (s.settle e rest).Knows origin n := by
  refine h.imp_right fun hmet => ?_
  rw [of_settle]
  split
  case isTrue =>
    intro h
    cases congrArg Label.settled h
  case isFalse => exact hmet

/-- The far end of an edge is met with an accepted offer. -/
theorem target (hid : via.node ≠ noJoint) : (s.accept π via edge).Knows origin edge.target := by
  right
  rw [of_accept, if_pos rfl, named?_of_ne hid]
  intro h
  cases congrArg Label.parent h

theorem accept (h : s.Knows origin n) (hid : via.node ≠ noJoint) :
    (s.accept π via edge).Knows origin n := by
  by_cases hn : edge.target = n
  · rw [← hn]
    exact target hid
  · refine h.imp_right fun hmet => ?_
    rwa [of_accept, if_neg hn]

end Side.Knows

/-- Both sides know the meeting node. -/
def State.Joins (start goal : Nat) (s : State W) : Prop :=
  ∀ m, s.meeting = some m → ∀ d, (s.side d).Knows (origin start goal d) m

namespace State.Joins

theorem init : (TwoSided.init start goal : State W).Joins start goal := by
  intro m hm d
  obtain ⟨rfl, rfl⟩ := meeting_init hm
  cases d <;> exact .inl rfl

/-- A side that knows no less than before may take the place of one. -/
theorem withSide {d : Direction} {x : Side W} (h : s.Joins start goal)
    (hx : ∀ n, (s.side d).Knows (origin start goal d) n → x.Knows (origin start goal d) n) :
    (s.withSide d x).Joins start goal := by
  intro m hm d'
  rw [State.meeting_withSide] at hm
  rcases d.eq_or_eq_opposite d' with rfl | rfl
  · rw [State.side_withSide]
    exact hx m (h m hm d')
  · rw [State.side_withSide_opposite]
    exact h m hm d.opposite

/-- A way through a node that the other side does not know costs infinity, and is no improvement. -/
theorem relax (hinf : ∀ a b : W, ¬ a + Cost.infinity < b) {d : Direction} {e : Entry W}
    {edge : Edge W} (h : s.Joins start goal) (hid : e.node ≠ noJoint) :
    (TwoSided.relax d e s edge).Joins start goal := by
  rw [relax_eq]
  split
  case isFalse => exact h
  case isTrue =>
    have haccept : (s.withSide d ((s.side d).accept policy e edge)).Joins start goal :=
      h.withSide fun n hn => hn.accept hid
    intro m hm d'
    rw [State.side_join]
    rcases State.meeting_join hm with hm | ⟨rfl, hlt⟩
    · exact haccept m hm d'
    · rcases d.eq_or_eq_opposite d' with rfl | rfl
      · rw [State.side_withSide]
        exact .target hid
      · rw [State.side_withSide_opposite]
        refine .inr fun hunmet => ?_
        rw [hunmet] at hlt
        exact hinf _ _ hlt

theorem next (hinf : ∀ a b : W, ¬ a + Cost.infinity < b) (h : s.Joins start goal)
    (hwithin : s.Within g P) (hid : ∀ n, P n → n ≠ noJoint) (hnext : Next g s s') :
    s'.Joins start goal := by
  obtain ⟨d, hd, hstep⟩ := hnext
  refine step_induct (M := State.Joins start goal) (frontier_ne_nil_of_next? hd) hstep ?drop ?settle
    ?relax ?visited
  case drop => exact fun e rest _ => h.withSide fun n hn => hn
  case settle => exact fun e rest _ => h.withSide fun n hn => hn.settle
  case relax =>
    exact fun e he edge _ t ht => ht.relax hinf (hid _ ((hwithin.linked d).entry e he))
  case visited =>
    intro t k ht m hm d'
    cases d' with
    | outgoing => exact ht m hm .outgoing
    | incoming => exact ht m hm .incoming

end State.Joins

theorem Logged.joins (h : Logged g start goal logs s)
    (hinf : ∀ a b : W, ¬ a + Cost.infinity < b) (hg : g.Domain P) (hid : ∀ n, P n → n ≠ noJoint)
    (hs : P start) (ht : P goal) : s.Joins start goal := by
  have hjoins : s.Within g P ∧ s.Joins start goal := by
    induction h with
    | init => exact ⟨.init hs ht, .init⟩
    | next _ hd _ hstep ih =>
      exact ⟨ih.1.next hg ⟨_, hd, hstep⟩, ih.2.next hinf ih.1 hid ⟨_, hd, hstep⟩⟩
  exact hjoins.2

/-- A search comes to its end, whatever the weights are. -/
theorem exists_end (hg : g.Domain P) (hs : P start) (ht : P goal) :
    ∃ logs s, Logged g start goal logs s ∧ s.next? = none ∧ search g start goal =
      .ok (s.meeting.map fun m => ⟨s.pathVia m, s.best, s.visited⟩) := by
  have hnext : ∀ s s', s.Within g P → (∃ logs, Logged g start goal logs s) → Next g s s' →
      ∃ logs, Logged g start goal logs s' := by
    rintro s s' - ⟨logs, hlog⟩ ⟨d, hd, hstep⟩
    obtain ⟨e, rest, hf⟩ := List.exists_cons_of_ne_nil (frontier_ne_nil_of_next? hd)
    exact ⟨_, .next hlog hd hf hstep⟩
  obtain ⟨s, -, ⟨logs, hlog⟩, hstop, hsearch⟩ := search_induct hg hs ht ⟨_, .init⟩ hnext
  exact ⟨logs, s, hlog, hstop, hsearch⟩

end TwoSided

/-! ## All searches -/

/-- All searches come to their ends with bounded work, whatever the weights and the estimates are.

    A best-first search takes at most one entry for each edge and one for its start, settles each node
    at most once and only nodes that are reached, and its path follows parents back to the start. The
    search from both ends never takes a step on a side without entries, and at every moment the same
    holds of each of its sides. If a sum with infinity is not below anything, parents lead from the
    meeting node back to both ends. -/
theorem every_search_is_bounded {g : Graph ε W} {P : Nat → Prop} {start : Nat} (hg : g.Domain P)
    (hid : ∀ n, P n → n ≠ noJoint) (hs : P start) :
    (∀ (estimate : Nat → Except ε W) (goal : Nat),
      (∃ log labels, BestFirst.Finishes g estimate start goal log labels
        (BestFirst.search g estimate start goal)) ∧
      ∀ log labels answer, BestFirst.Finishes g estimate start goal log labels answer →
        Accounted g .outgoing start log labels ∧
        ∀ path, answer = .ok (some path) → path.visited = (settledBy log).length ∧
          path.joints = BestFirst.pathTo labels goal ∧ labels.LeadsBack start goal) ∧
    (∀ (s : TwoSided.State W) (d : Direction), s.next? = some d → (s.side d).frontier ≠ []) ∧
    ∀ goal, P goal →
      (∃ logs s, TwoSided.Logged g start goal logs s ∧ s.next? = none ∧
        TwoSided.search g start goal =
          .ok (s.meeting.map fun m => ⟨s.pathVia m, s.best, s.visited⟩)) ∧
      ∀ logs s, TwoSided.Logged g start goal logs s →
        (logs .outgoing).length + (logs .incoming).length ≤
          2 + g.edgeTotal .outgoing + g.edgeTotal .incoming ∧
        (∀ d, Accounted g d (TwoSided.origin start goal d) (logs d) (s.side d).labels) ∧
        ((∀ a b : W, ¬ a + Cost.infinity < b) → ∀ m, s.meeting = some m →
          ∀ d, (s.side d).labels.LeadsBack (TwoSided.origin start goal d) m) := by
  refine ⟨fun estimate goal => ⟨BestFirst.exists_finish g estimate start goal, ?_⟩,
    fun s d => TwoSided.frontier_ne_nil_of_next?, fun goal ht =>
      ⟨TwoSided.exists_end hg hs ht, fun logs s hlog => ?_⟩⟩
  · intro log labels answer hfinish
    have haccounted := hfinish.accounted hg hid hs
    refine ⟨haccounted, ?_⟩
    rintro path rfl
    obtain ⟨hjoints, hvisited, hgoal⟩ := hfinish.path
    exact ⟨hvisited, hjoints,
      haccounted.leads_back goal (.inr (Labels.ne_unmet_of_settled hgoal))⟩
  · have haccounted : ∀ d,
        Accounted g d (TwoSided.origin start goal d) (logs d) (s.side d).labels :=
      fun d => (hlog.tallied hg hid hs ht d).accounted
    refine ⟨?_, haccounted, fun hinf m hm d => ?_⟩
    · have hout := (haccounted .outgoing).length_le
      have hin := (haccounted .incoming).length_le
      omega
    · exact (haccounted d).leads_back m (hlog.joins hinf hg hid hs ht m hm d)

end Sides

/-- Two nodes on a cycle of negative weight, one edge of infinite weight and one whose weight is no
    number, and an estimate that is no number either. -/
theorem every_search_is_bounded_wild :
    let g : Graph Empty (WithNaN true (WithTop ℤ)) := .ofArcs [(0, 1, .number (-1 : ℤ)),
      (1, 0, .number (-1 : ℤ)), (1, 2, .nan), (0, 2, .number ⊤), (1, 2, .number (3 : ℤ))]
    (∃ log labels, BestFirst.Finishes g (fun _ => .ok .nan) 0 2 log labels
      (BestFirst.search g (fun _ => .ok .nan) 0 2) ∧ log.length ≤ 6 ∧ (settledBy log).Nodup) ∧
    ∃ logs s, TwoSided.Logged g 0 2 logs s ∧ s.next? = none ∧
      (logs .outgoing).length + (logs .incoming).length ≤ 12 ∧
      ∀ m, s.meeting = some m → ∀ d, (s.side d).labels.LeadsBack (TwoSided.origin 0 2 d) m := by
  intro g
  have hid : ∀ n, n < 3 → n ≠ noJoint := by
    intro n hn
    rw [noJoint]
    omega
  have htotal : ∀ d, g.edgeTotal d = 5 := by
    intro d
    cases d <;> rfl
  obtain ⟨hone, -, hboth⟩ := every_search_is_bounded (P := (· < 3)) (g := g)
    (Graph.domain_ofArcs (by decide)) hid (by decide : 0 < 3)
  constructor
  · obtain ⟨⟨log, labels, hfinish⟩, hbound⟩ := hone (fun _ => .ok .nan) 2
    obtain ⟨haccounted, -⟩ := hbound log labels _ hfinish
    have hlength := haccounted.length_le
    rw [htotal] at hlength
    exact ⟨log, labels, hfinish, hlength, haccounted.nodup⟩
  · obtain ⟨⟨logs, s, hlog, hstop, -⟩, hbound⟩ := hboth 2 (by decide)
    obtain ⟨hlength, -, hback⟩ := hbound logs s hlog
    rw [htotal, htotal] at hlength
    exact ⟨logs, s, hlog, hstop, hlength, hback fun a b => WithNaN.not_add_infinity_lt⟩

end Search

end RoadRouting
