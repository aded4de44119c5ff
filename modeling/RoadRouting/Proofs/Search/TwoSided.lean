import Mathlib.Data.ENat.Basic
import Mathlib.Logic.Relation
import RoadRouting.Proofs.Search.BestFirst

/-!
# Search from both ends

Each step of the search is a step of one of its sides (`Side.Advance`). Beside the invariants of the
two sides, one links them: the best way joined costs no more than any way through a node that both
sides know, and the meeting node attains it.

* `State.Met.step`: the link is kept by every step, for weights of any sign.
* `State.best_le`: once no side is chosen, the best way joined costs no more than any walk.
* `search_spec`: in a mirrored graph the search answers with a cheapest walk.
-/

namespace RoadRouting.Search.TwoSided

open BestFirst (isStale)

variable {ε W : Type}

/-! ## The two sides of a state -/

/-- The node from which a side searches. -/
def origin (start goal : Nat) : Direction → Nat
  | .outgoing => start
  | .incoming => goal

theorem origin_mem {P : Nat → Prop} {start goal : Nat} (hs : P start) (ht : P goal)
    (d : Direction) : P (origin start goal d) := by
  cases d with
  | outgoing => exact hs
  | incoming => exact ht

@[simp] theorem State.side_withSide (s : State W) (d : Direction) (x : Side W) :
    (s.withSide d x).side d = x := by
  cases d <;> rfl

@[simp] theorem State.side_withSide_opposite (s : State W) (d : Direction) (x : Side W) :
    (s.withSide d x).side d.opposite = s.side d.opposite := by
  cases d <;> rfl

@[simp] theorem State.meeting_withSide (s : State W) (d : Direction) (x : Side W) :
    (s.withSide d x).meeting = s.meeting := by
  cases d <;> rfl

@[simp] theorem State.best_withSide (s : State W) (d : Direction) (x : Side W) :
    (s.withSide d x).best = s.best := by
  cases d <;> rfl

section Sides

variable [Cost W] {g : Graph ε W} {s s' : State W} {d : Direction} {via : Entry W}
  {edge : Edge W} {es : List (Edge W)} {x : Side W}

theorem State.side_init (start goal : Nat) (d : Direction) :
    (init start goal : State W).side d = .start (origin start goal d) := by
  cases d <;> rfl

/-- Ways that cost less than the known one are accepted, and the frontier is sorted by cost. -/
def policy : Policy W where
  accepts c known := !decide (known ≤ c)
  total _ c := c

@[simp] theorem State.side_join (s : State W) (n : Nat) (total : W) (d : Direction) :
    (s.join n total).side d = s.side d := by
  unfold join
  split <;> cases d <;> rfl

/-- An offer to one side: refused, or accepted and joined with what the other side knows. -/
theorem relax_eq (d : Direction) (via : Entry W) (s : State W) (edge : Edge W) :
    relax d via s edge =
      if (s.side d).admits policy via edge then
        (s.withSide d ((s.side d).accept policy via edge)).join edge.target
          (via.cost + edge.weight + ((s.side d.opposite).labels.of edge.target).cost)
      else s := by
  have hadmits : (s.side d).admits policy via edge = true ↔
      ¬ (((s.side d).labels.of edge.target).settled = true ∨
        ((s.side d).labels.of edge.target).cost ≤ via.cost + edge.weight) := by
    rw [Side.admits_iff, policy, Bool.not_eq_true', decide_eq_false_iff_not, not_or,
      Bool.not_eq_true]
  unfold relax
  simp only
  split
  case isTrue h => rw [if_neg (fun h' => hadmits.mp h' h)]
  case isFalse h =>
    have hset := Bool.eq_false_iff.mpr (not_or.mp h).1
    rw [if_pos (hadmits.mpr h), hset]
    rfl

theorem side_relax (d : Direction) (via : Entry W) (s : State W) (edge : Edge W) :
    (relax d via s edge).side d = (s.side d).offer policy via edge := by
  rw [relax_eq, Side.offer]
  split
  · rw [State.side_join, State.side_withSide]
  · rfl

theorem side_opposite_relax (d : Direction) (via : Entry W) (s : State W) (edge : Edge W) :
    (relax d via s edge).side d.opposite = s.side d.opposite := by
  rw [relax_eq]
  split
  · rw [State.side_join, State.side_withSide_opposite]
  · rfl

theorem side_foldl (d : Direction) (via : Entry W) (es : List (Edge W)) (s : State W) :
    (es.foldl (relax d via) s).side d = es.foldl (Side.offer policy via) (s.side d) := by
  induction es generalizing s with
  | nil => rfl
  | cons edge es ih => rw [List.foldl_cons, ih, side_relax, List.foldl_cons]

theorem side_opposite_foldl (d : Direction) (via : Entry W) (es : List (Edge W)) (s : State W) :
    (es.foldl (relax d via) s).side d.opposite = s.side d.opposite := by
  induction es generalizing s with
  | nil => rfl
  | cons edge es ih => rw [List.foldl_cons, ih, side_opposite_relax]

/-! ## Steps -/

/-- The state after the node of `e` was settled on one side, before its edges are followed. -/
def State.settle (s : State W) (d : Direction) (e : Entry W) (rest : Frontier W) : State W :=
  s.withSide d ((s.side d).settle e rest)

/-- All that a step on one side can lead to when its frontier is not empty. -/
inductive Outcome (g : Graph ε W) (d : Direction) (s : State W) : Except ε (State W) → Prop
  | dropped {e : Entry W} {rest : Frontier W} : (s.side d).frontier = e :: rest →
      isStale (s.side d).labels e = true →
      Outcome g d s (.ok (s.withSide d ⟨rest, (s.side d).labels⟩))
  | expanded {e : Entry W} {rest : Frontier W} {es : List (Edge W)} :
      (s.side d).frontier = e :: rest → isStale (s.side d).labels e = false →
      g.edges d e.node = .ok es →
      Outcome g d s (.ok { es.foldl (relax d e) (s.settle d e rest) with visited :=
        (es.foldl (relax d e) (s.settle d e rest)).visited + 1 })
  | unlisted {e : Entry W} {rest : Frontier W} {x : ε} : (s.side d).frontier = e :: rest →
      g.edges d e.node = .error x → Outcome g d s (.error x)

theorem step_outcome (g : Graph ε W) {d : Direction} {s : State W}
    (hs : (s.side d).frontier ≠ []) : Outcome g d s (step g d s) := by
  unfold step
  simp only
  split
  case h_1 hf => exact absurd hf hs
  case h_2 e rest hf =>
    split
    case isTrue hstale =>
      refine .dropped hf ?_
      simpa [isStale] using hstale
    case isFalse hstale =>
      have hstale' : isStale (s.side d).labels e = false := by
        simpa [isStale] using hstale
      cases hes : g.edges d e.node with
      | error x => exact .unlisted hf hes
      | ok es => exact .expanded hf hstale' hes

/-- A step advances the side it is taken on and leaves the other side as it is. -/
theorem step_ok (hs : (s.side d).frontier ≠ []) (h : step g d s = .ok s') :
    Side.Advance g d policy (s.side d) (s'.side d) ∧ s'.side d.opposite = s.side d.opposite := by
  have hout := step_outcome g hs
  rw [h] at hout
  cases hout with
  | dropped hf hstale =>
    rw [State.side_withSide, State.side_withSide_opposite]
    exact ⟨.drop hf hstale, rfl⟩
  | @expanded e rest es hf hstale hes =>
    have hside : ∀ d' (t : State W), ({ t with visited := t.visited + 1 } : State W).side d' =
        t.side d' := by
      intro d' t
      cases d' <;> rfl
    rw [hside, hside, side_foldl, side_opposite_foldl, State.settle, State.side_withSide,
      State.side_withSide_opposite]
    exact ⟨.expand hf hstale hes, rfl⟩

theorem step_error {y : ε} (hs : (s.side d).frontier ≠ []) (h : step g d s = .error y) :
    ∃ e ∈ (s.side d).frontier, g.edges d e.node = .error y := by
  have hout := step_outcome g hs
  rw [h] at hout
  cases hout with
  | @unlisted e rest _ hf hes => exact ⟨e, Frontier.front_mem hf, hes⟩

/-- No step fails as long as the nodes in the frontier list their edges. -/
theorem exists_step {P : Nat → Prop} (hg : g.Domain P) (hP : ∀ e ∈ (s.side d).frontier, P e.node)
    (hs : (s.side d).frontier ≠ []) : ∃ s', step g d s = .ok s' := by
  cases hstep : step g d s with
  | ok s' => exact ⟨s', rfl⟩
  | error x =>
    obtain ⟨e, he, hfail⟩ := step_error hs hstep
    rw [hg.edges_eq (hP e he)] at hfail
    cases hfail

/-- What holds once the entry in front was taken, and is kept by every offer over an edge of an entry,
    holds after the step. -/
theorem step_induct {M : State W → Prop} (hs : (s.side d).frontier ≠ []) (h : step g d s = .ok s')
    (hdrop : ∀ e rest, (s.side d).frontier = e :: rest →
      M (s.withSide d ⟨rest, (s.side d).labels⟩))
    (hsettle : ∀ e rest, (s.side d).frontier = e :: rest → M (s.settle d e rest))
    (hrelax : ∀ e ∈ (s.side d).frontier, ∀ edge ∈ g.edgesOrNone d e.node, ∀ t : State W, M t →
      M (relax d e t edge))
    (hvisited : ∀ (t : State W) k, M t → M { t with visited := k }) : M s' := by
  have hout := step_outcome g hs
  rw [h] at hout
  cases hout with
  | dropped hf _ => exact hdrop _ _ hf
  | @expanded e rest es hf _ hes =>
    refine hvisited _ _ (List.foldlRecOn es _ (hsettle e rest hf) fun t ht edge hedge => ?_)
    rw [← Graph.edgesOrNone_eq hes] at hedge
    exact hrelax e (Frontier.front_mem hf) edge hedge t ht

/-- A side is only chosen while its frontier holds an entry. -/
theorem frontier_ne_nil_of_next? (h : s.next? = some d) : (s.side d).frontier ≠ [] := by
  intro hnil
  have hnone : (s.side d).frontier.nextCost? = none := by
    rw [hnil]
    rfl
  unfold State.next? at h
  cases d with
  | outgoing =>
    have hnone' : s.forward.frontier.nextCost? = none := hnone
    rw [hnone'] at h
    split at h <;> simp_all
  | incoming =>
    have hnone' : s.backward.frontier.nextCost? = none := hnone
    rw [hnone'] at h
    split at h <;> simp_all

/-! ## Runs -/

/-- One step on the side that is chosen leads from one state to the next. -/
def Next (g : Graph ε W) (s s' : State W) : Prop :=
  ∃ d, s.next? = some d ∧ step g d s = .ok s'

/-- On each side a step does nothing or takes one entry. -/
theorem Next.side (h : Next g s s') (d : Direction) :
    s'.side d = s.side d ∨ Side.Advance g d policy (s.side d) (s'.side d) := by
  obtain ⟨d', hd', hstep⟩ := h
  obtain ⟨hadvance, hother⟩ := step_ok (frontier_ne_nil_of_next? hd') hstep
  rcases d'.eq_or_eq_opposite d with rfl | rfl
  · exact .inr hadvance
  · exact .inl hother

/-- The work left on both sides. -/
def State.budget (g : Graph ε W) (s : State W) : Nat :=
  s.forward.budget g .outgoing + s.backward.budget g .incoming

theorem Next.budget_lt (h : Next g s s') : s'.budget g < s.budget g := by
  obtain ⟨d, hd, hstep⟩ := h
  obtain ⟨hadvance, hother⟩ := step_ok (frontier_ne_nil_of_next? hd) hstep
  have hlt := hadvance.budget_lt
  cases d with
  | outgoing =>
    have hother' : s'.backward = s.backward := hother
    have hlt' : s'.forward.budget g .outgoing < s.forward.budget g .outgoing := hlt
    rw [State.budget, State.budget, hother']
    omega
  | incoming =>
    have hother' : s'.forward = s.forward := hother
    have hlt' : s'.backward.budget g .incoming < s.backward.budget g .incoming := hlt
    rw [State.budget, State.budget, hother']
    omega

/-- A run ends when no side is chosen or a step fails: the bound on the number of steps is not
    reached before. -/
theorem run_spec {steps : Nat} (hsteps : s.budget g ≤ steps) :
    ∃ s', Relation.ReflTransGen (Next g) s s' ∧
      ((s'.next? = none ∧ run g steps s = .ok s') ∨
        ∃ d x, s'.next? = some d ∧ step g d s' = .error x ∧ run g steps s = .error x) := by
  induction steps generalizing s with
  | zero =>
    refine ⟨s, .refl, .inl ⟨?_, rfl⟩⟩
    rw [State.budget, Side.budget, Side.budget] at hsteps
    have hf : s.forward.frontier = [] := List.eq_nil_of_length_eq_zero (by omega)
    have hb : s.backward.frontier = [] := List.eq_nil_of_length_eq_zero (by omega)
    rw [State.next?, hf, hb]
    rfl
  | succ steps ih =>
    cases hd : s.next? with
    | none =>
      refine ⟨s, .refl, .inl ⟨hd, ?_⟩⟩
      rw [run, hd]
    | some d =>
      have hrun : run g (steps + 1) s = step g d s >>= run g steps := by
        rw [run, hd]
      rw [hrun]
      cases hstep : step g d s with
      | error x => exact ⟨s, .refl, .inr ⟨d, x, hd, hstep, rfl⟩⟩
      | ok s₁ =>
        have hnext : Next g s s₁ := ⟨d, hd, hstep⟩
        have hlt := hnext.budget_lt
        obtain ⟨s', hreach, hend⟩ := ih (Nat.le_of_lt_succ (Nat.lt_of_lt_of_le hlt hsteps))
        exact ⟨s', .head hnext hreach, hend⟩

theorem budget_init (start goal : Nat) : (init start goal : State W).budget g ≤ stepBound g := by
  have hf := Side.unsettledEdges_le (g := g) (d := .outgoing) (Labels.start start : Labels W)
  have hb := Side.unsettledEdges_le (g := g) (d := .incoming) (Labels.start goal : Labels W)
  calc (init start goal : State W).budget g
      = 1 + Side.unsettledEdges g .outgoing (Labels.start start : Labels W) +
        (1 + Side.unsettledEdges g .incoming (Labels.start goal : Labels W)) := rfl
    _ ≤ stepBound g := by
      rw [stepBound]
      omega

end Sides

/-! ## The meeting node -/

section Meeting

variable [LinearOrderedAddCommMonoidWithTop W] {g : Graph ε W} {P : Nat → Prop}
  {start goal : Nat} {s s' : State W} {d : Direction} {via e : Entry W} {rest : Frontier W}
  {edge : Edge W} {es : List (Edge W)} {n : Nat}

theorem policy_strict : (policy : Policy W).Strict := by
  intro c known
  rw [policy, Bool.not_eq_true', decide_eq_false_iff_not, not_le]

/-- The cost of the best way known through a node. -/
def State.through (s : State W) (n : Nat) : W :=
  (s.forward.labels.of n).cost + (s.backward.labels.of n).cost

theorem State.through_eq (s : State W) (d : Direction) (n : Nat) :
    s.through n = ((s.side d).labels.of n).cost + ((s.side d.opposite).labels.of n).cost := by
  cases d with
  | outgoing => rfl
  | incoming => exact add_comm _ _

/-- The best way joined costs no more than any way through a node that both sides know, and the
    meeting node attains it. -/
structure State.Met (P : Nat → Prop) (start goal : Nat) (s : State W) : Prop where
  le_through : ∀ n, s.best ≤ s.through n
  attained : ∀ {m}, s.meeting = some m → P m ∧ s.best = s.through m ∧
    ((m = start ∧ m = goal) ∨ s.best < ⊤)
  unmet : s.meeting = none → s.best = ⊤ ∧ start ≠ goal

theorem State.through_init (start goal : Nat) (n : Nat) :
    (TwoSided.init start goal : State W).through n =
      if start = n ∧ goal = n then 0 else ⊤ := by
  have hF : (TwoSided.init start goal : State W).forward.labels.of n =
      if start = n then .origin else .unmet := Labels.of_start start
  have hB : (TwoSided.init start goal : State W).backward.labels.of n =
      if goal = n then .origin else .unmet := Labels.of_start goal
  rw [State.through, hF, hB]
  by_cases hstart : start = n <;> by_cases hgoal : goal = n <;>
    simp [hstart, hgoal, Label.origin, Label.unmet]

namespace State.Met

theorem init (hs : P start) (hid : ∀ n, P n → n ≠ noJoint) :
    State.Met P start goal (TwoSided.init start goal : State W) := by
  have hbest : (TwoSided.init start goal : State W).best = if start = goal then 0 else ⊤ := rfl
  have hmeeting : (TwoSided.init start goal : State W).meeting =
      if start = goal then some start else none := by
    rw [← named?_of_ne (hid start hs)]
    rfl
  by_cases heq : start = goal
  · subst heq
    rw [if_pos rfl] at hbest hmeeting
    constructor
    case le_through =>
      intro n
      rw [hbest, State.through_init]
      split
      · exact le_rfl
      · exact le_top
    case attained =>
      intro m hm
      obtain rfl : start = m := Option.some.inj (hmeeting.symm.trans hm)
      exact ⟨hs, by rw [hbest, State.through_init, if_pos ⟨rfl, rfl⟩], .inl ⟨rfl, rfl⟩⟩
    case unmet =>
      intro hm
      rw [hmeeting] at hm
      cases hm
  · rw [if_neg heq] at hbest hmeeting
    constructor
    case le_through =>
      intro n
      rw [State.through_init, if_neg]
      · exact le_top
      · rintro ⟨rfl, rfl⟩
        exact heq rfl
    case attained =>
      intro m hm
      rw [hmeeting] at hm
      cases hm
    case unmet => exact fun _ => ⟨hbest, heq⟩

theorem congr (h : s.Met P start goal) (hbest : s'.best = s.best)
    (hmeeting : s'.meeting = s.meeting) (hthrough : ∀ n, s'.through n = s.through n) :
    s'.Met P start goal where
  le_through n := by
    rw [hbest, hthrough]
    exact h.le_through n
  attained hm := by
    rw [hmeeting] at hm
    rw [hbest, hthrough]
    exact h.attained hm
  unmet hm := by
    rw [hmeeting] at hm
    rw [hbest]
    exact h.unmet hm

/-- A way through `n` became cheaper than the best one, and it is the best one from now on. -/
theorem join_better (h : s.Met P start goal) (hP : P n) (hid : n ≠ noJoint)
    (hlt : s'.through n < s.best) (hother : ∀ m, m ≠ n → s'.through m = s.through m) :
    State.Met P start goal { s' with meeting := named? n, best := s'.through n } where
  le_through m := by
    by_cases hm : m = n
    · rw [hm]
      exact le_rfl
    · exact le_trans (le_of_lt (lt_of_lt_of_le hlt (h.le_through m))) (le_of_eq (hother m hm).symm)
  attained {m} hm := by
    obtain rfl : n = m := Option.some.inj ((named?_of_ne hid).symm.trans hm)
    exact ⟨hP, rfl, .inr (lt_of_lt_of_le hlt le_top)⟩
  unmet hm := by
    have hsome : some n = none := (named?_of_ne hid).symm.trans hm
    cases hsome

/-- A way through `n` became cheaper, but it is not cheaper than the best one. -/
theorem join_kept (h : s.Met P start goal) (hbest : s'.best = s.best)
    (hmeeting : s'.meeting = s.meeting) (hge : s.best ≤ s'.through n)
    (hle : s'.through n ≤ s.through n) (hother : ∀ m, m ≠ n → s'.through m = s.through m) :
    s'.Met P start goal where
  le_through m := by
    rw [hbest]
    by_cases hm : m = n
    · rw [hm]
      exact hge
    · rw [hother m hm]
      exact h.le_through m
  attained {m} hm := by
    rw [hmeeting] at hm
    rw [hbest]
    obtain ⟨hPm, heq, hfin⟩ := h.attained hm
    refine ⟨hPm, ?_, hfin⟩
    by_cases hmn : m = n
    · subst hmn
      exact le_antisymm hge (heq ▸ hle)
    · rw [hother m hmn, heq]
  unmet hm := by
    rw [hmeeting] at hm
    rw [hbest]
    exact h.unmet hm

/-- A way through `n` became cheaper, and the other ways stayed as they are. -/
theorem join (h : s.Met P start goal) (hP : P n) (hid : n ≠ noJoint)
    (hbest : s'.best = s.best) (hmeeting : s'.meeting = s.meeting)
    (hle : s'.through n ≤ s.through n) (hother : ∀ m, m ≠ n → s'.through m = s.through m) :
    (s'.join n (s'.through n)).Met P start goal := by
  unfold State.join
  rw [hbest]
  split
  case isTrue hlt => exact h.join_better hP hid hlt hother
  case isFalse hge => exact h.join_kept hbest hmeeting (not_lt.mp hge) hle hother

theorem relax (h : s.Met P start goal) (hid : ∀ n, P n → n ≠ noJoint) (hP : P edge.target) :
    (relax d via s edge).Met P start goal := by
  rw [relax_eq]
  split
  case isFalse => exact h
  case isTrue hadmits =>
    let s' := s.withSide d ((s.side d).accept policy via edge)
    have hcost : via.cost + edge.weight < ((s.side d).labels.of edge.target).cost :=
      (policy_strict _ _).mp (Side.admits_iff.mp hadmits).2
    have hthrough : ∀ m, s'.through m = (if edge.target = m then via.cost + edge.weight
        else ((s.side d).labels.of m).cost) + ((s.side d.opposite).labels.of m).cost := by
      intro m
      rw [State.through_eq s' d, State.side_withSide, State.side_withSide_opposite, Side.of_accept]
      split <;> rfl
    have hnew : s'.through edge.target =
        via.cost + edge.weight + ((s.side d.opposite).labels.of edge.target).cost := by
      rw [hthrough, if_pos rfl]
    rw [← hnew]
    refine h.join hP (hid _ hP) (s.best_withSide d _) (s.meeting_withSide d _) ?_ ?_
    · rw [hnew, State.through_eq s d]
      exact add_le_add_left (le_of_lt hcost) _
    · intro m hm
      rw [hthrough, if_neg (Ne.symm hm), State.through_eq s d]

/-- Settling a node and dropping an entry change no cost, and every offer keeps the link. -/
theorem step (h : s.Met P start goal) (hid : ∀ n, P n → n ≠ noJoint) (hg : g.Domain P)
    (hP : ∀ e ∈ (s.side d).frontier, P e.node) (hs : (s.side d).frontier ≠ [])
    (hstep : step g d s = .ok s') : s'.Met P start goal := by
  have hwithSide : ∀ x : Side W, (∀ n, (x.labels.of n).cost = ((s.side d).labels.of n).cost) →
      (s.withSide d x).Met P start goal := by
    intro x hx
    refine h.congr (s.best_withSide d x) (s.meeting_withSide d x) fun n => ?_
    rw [State.through_eq _ d, State.through_eq s d, State.side_withSide,
      State.side_withSide_opposite, hx]
  refine step_induct hs hstep (fun _ _ _ => hwithSide _ fun _ => rfl)
    (fun _ _ _ => hwithSide _ fun _ => Side.cost_of_settle) ?_
    fun _ _ ht => ht.congr rfl rfl fun _ => rfl
  exact fun e he edge hedge _ ht => ht.relax hid (hg.stays (hP e he) hedge)

end State.Met

/-! ## Answers -/

/-- Both sides are grown, and their best way is joined. Weights may be of any sign. -/
structure State.Joined (g : Graph ε W) (P : Nat → Prop) (start goal : Nat) (s : State W) :
    Prop where
  grown : ∀ d, (s.side d).Grown g d policy P (origin start goal d)
  met : s.Met P start goal

namespace State.Joined

variable {c c' : W} {nodes nodes' : List Nat}

theorem init (hid : ∀ n, P n → n ≠ noJoint) (hs : P start) :
    State.Joined g P start goal (TwoSided.init start goal) where
  grown d := .inl ⟨0, State.side_init start goal d⟩
  met := .init hs hid

theorem next (h : s.Joined g P start goal) (hg : g.Domain P) (hid : ∀ n, P n → n ≠ noJoint)
    (hP : ∀ d, P (origin start goal d)) (hnext : Next g s s') : s'.Joined g P start goal where
  grown d := by
    rcases hnext.side d with hkeep | hadvance
    · rw [hkeep]
      exact h.grown d
    · exact .inr ((h.grown d).advance policy_strict hg hid (hP d) hadvance)
  met := by
    obtain ⟨d, hd, hstep⟩ := hnext
    exact h.met.step hid hg (fun e he => (h.grown d).node_mem (hP d) he)
      (frontier_ne_nil_of_next? hd) hstep

/-- Both sides have reached the meeting node. -/
theorem reached (h : s.Joined g P start goal) {m : Nat} (hmeet : s.meeting = some m)
    (d : Direction) : m = origin start goal d ∨ ((s.side d).labels.of m).cost < Cost.infinity := by
  obtain ⟨-, hbest, hfin⟩ := h.met.attained hmeet
  rcases hfin with ⟨hms, hmt⟩ | hlt
  · cases d with
    | outgoing => exact .inl hms
    | incoming => exact .inl hmt
  · rw [hbest, State.through_eq s d] at hlt
    exact .inr (Cost.add_lt_top_iff.mp hlt).1

/-- The way joined at the meeting node has a finite cost. -/
theorem best_lt_top [Nontrivial W] (h : s.Joined g P start goal) {m : Nat}
    (hmeet : s.meeting = some m) : s.best < ⊤ := by
  obtain ⟨-, hbest, hfin⟩ := h.met.attained hmeet
  rcases hfin with ⟨rfl, rfl⟩ | hlt
  · have hforward : (s.forward.labels.of m).cost = 0 := (h.grown .outgoing).cost_origin
    have hbackward : (s.backward.labels.of m).cost = 0 := (h.grown .incoming).cost_origin
    rw [hbest, State.through, hforward, hbackward, add_zero]
    exact Cost.zero_lt_top
  · exact hlt

/-- The meeting node is joined to the start and to the goal by walks. -/
theorem walk (h : s.Joined g P start goal) (hg : g.Domain P) (hm : g.Mirrored P) (hs : P start)
    (ht : P goal) {m : Nat} (hmeet : s.meeting = some m) :
    g.Walk .outgoing start (s.pathVia m) goal s.best := by
  obtain ⟨-, hbest, -⟩ := h.met.attained hmeet
  have hreach := h.reached hmeet
  have hF := (h.grown .outgoing).trail_walk (hreach .outgoing)
  have hB := (h.grown .incoming).trail_walk (hreach .incoming)
  have hwalk := Graph.Walk.glue hg hm hs ht hB hF
  have hcost : ((s.side .outgoing).labels.of m).cost + ((s.side .incoming).labels.of m).cost =
      s.best := hbest.symm
  rw [hcost] at hwalk
  simpa [State.pathVia, State.side] using hwalk

end State.Joined

/-! ## The best way joined is a cheapest way -/

section Nonnegative

variable {c c' : W} {nodes nodes' : List Nat}

theorem policy_consistent (hw : g.NonNegative P) : (policy : Policy W).Consistent g d P where
  mono _ _ _ hc := hc
  step hu he c := OrderedCost.le_add (hw _ hu _ _ he) c

/-- No entry of a frontier costs less than the one in front. -/
theorem nextCost_le {x : Side W} {o : Nat} (h : x.Grown g d policy P o) (he : e ∈ x.frontier) :
    ∃ c, x.frontier.nextCost? = some c ∧ c ≤ e.cost := by
  rcases h with ⟨t, rfl⟩ | h
  · obtain rfl := List.mem_singleton.mp he
    exact ⟨0, rfl, le_rfl⟩
  · cases hf : x.frontier with
    | nil =>
      rw [hf] at he
      cases he
    | cons e₀ rest =>
      have htotal : ∀ e ∈ x.frontier, e.total = e.cost := fun e he => (h.entry e he).2.2.1
      have hhead : e₀ ∈ x.frontier := Frontier.front_mem hf
      have hle := (h.sorted.head_le hf he).1
      rw [htotal e₀ hhead, htotal e he] at hle
      exact ⟨e₀.cost, rfl, hle⟩

/-- When no side is chosen, two entries of the two frontiers cost no less than the best way. -/
theorem State.Joined.best_le_of_stopped (h : s.Joined g P start goal) (hstop : s.next? = none)
    {e e' : Entry W} (he : e ∈ s.forward.frontier) (he' : e' ∈ s.backward.frontier) :
    s.best ≤ e.cost + e'.cost := by
  obtain ⟨f, hf, hfe⟩ := nextCost_le (h.grown .outgoing) he
  obtain ⟨b, hb, hbe⟩ := nextCost_le (h.grown .incoming) he'
  have hf' : s.forward.frontier.nextCost? = some f := hf
  have hb' : s.backward.frontier.nextCost? = some b := hb
  have hbest : s.best ≤ f + b := by
    by_contra hnot
    rw [State.next?, hf', hb'] at hstop
    simp only [if_neg hnot] at hstop
    split at hstop <;> cases hstop
  exact le_trans hbest (add_le_add hfe hbe)

/-- The least cost of a way joined bounds every walk from the start to `n` that goes on from `n` as
    cheaply as the backward side knows. The walk from the start is taken apart from its end: as long
    as its last node is settled on the backward side, the node before it is known there too. -/
theorem State.Joined.best_le_add (h : s.Joined g P start goal)
    (hopt : ∀ d, (s.side d).Optimal g d (origin start goal d)) (hstop : s.next? = none)
    (hg : g.Domain P) (hm : g.Mirrored P) (hw : g.NonNegative P) (hs : P start) (ht : P goal)
    (hwalk : g.Walk .outgoing start nodes n c) (hback : g.Walk .incoming goal nodes' n c')
    (hknown : (s.backward.labels.of n).cost ≤ c') : s.best ≤ c + c' := by
  induction hwalk generalizing nodes' c' with
  | here =>
    have hF : (s.forward.labels.of start).cost = 0 := (h.grown .outgoing).cost_origin
    calc s.best ≤ s.through start := h.met.le_through start
      _ ≤ 0 + c' := by
        rw [State.through, hF]
        exact add_le_add_right hknown 0
  | @step nodes u v c w hu he ih =>
    have hPu : P u := hu.last_mem_domain hg hs
    have hPv : P v := hg.stays hPu he
    by_cases htop : c + w + c' = ⊤
    · rw [htop]
      exact le_top
    have hforward : c + w < ⊤ := lt_top_iff_ne_top.mpr fun h => htop (by rw [h, top_add])
    have hbackward : c' < ⊤ := lt_top_iff_ne_top.mpr fun h => htop (by rw [h, add_top])
    have hcutF := (h.grown .outgoing).opened.cut (hopt .outgoing) (policy_consistent hw) hg hw hs
      (.step hu he) hforward
    have hcutB := (h.grown .incoming).opened.cut (hopt .incoming) (policy_consistent hw) hg hw ht
      hback hbackward
    rcases hcutF with ⟨-, hF⟩ | ⟨e, hmem, hcost⟩
    · exact le_trans (h.met.le_through v) (add_le_add hF hknown)
    rcases hcutB with ⟨hset, hB⟩ | ⟨e', hmem', hcost'⟩
    · -- the edge into `v` was followed on the backward side
      have hback' := (hm.mem_iff hPu hPv).mp he
      have hknown' : (s.backward.labels.of u).cost ≤ c' + w :=
        le_trans ((hopt .incoming).followed hset hback') (add_le_add_left hB w)
      calc s.best ≤ c + (c' + w) := ih (.step hback hback') hknown'
        _ = c + w + c' := by rw [add_assoc, add_comm w]
    · exact le_trans (h.best_le_of_stopped hstop hmem hmem') (add_le_add hcost hcost')

theorem State.Joined.best_le (h : s.Joined g P start goal)
    (hopt : ∀ d, (s.side d).Optimal g d (origin start goal d)) (hstop : s.next? = none)
    (hg : g.Domain P) (hm : g.Mirrored P) (hw : g.NonNegative P) (hs : P start) (ht : P goal)
    (hwalk : g.Walk .outgoing start nodes goal c) : s.best ≤ c := by
  have hB : (s.backward.labels.of goal).cost = 0 := (h.grown .incoming).cost_origin
  have hle := h.best_le_add hopt hstop hg hm hw hs ht hwalk .here (le_of_eq hB)
  rwa [add_zero] at hle

theorem optimal_next (h : s.Joined g P start goal)
    (hopt : ∀ d, (s.side d).Optimal g d (origin start goal d)) (hg : g.Domain P)
    (hw : g.NonNegative P) (hP : ∀ d, P (origin start goal d)) (hnext : Next g s s') :
    ∀ d, (s'.side d).Optimal g d (origin start goal d) := by
  intro d
  rcases hnext.side d with hkeep | hadvance
  · rw [hkeep]
    exact hopt d
  · exact (h.grown d).opened.optimal_advance (hopt d) policy_strict (policy_consistent hw) hg hw
      (hP d) hadvance

/-- Once no side is chosen, the meeting node tells a cheapest walk. -/
theorem State.Joined.cheapest (h : s.Joined g P start goal)
    (hopt : ∀ d, (s.side d).Optimal g d (origin start goal d)) (hstop : s.next? = none)
    (hg : g.Domain P) (hm : g.Mirrored P) (hw : g.NonNegative P) (hs : P start) (ht : P goal) :
    g.Cheapest start goal (s.meeting.map fun m => ⟨s.pathVia m, s.best, s.visited⟩) := by
  have hle : ∀ {nodes c}, g.Walk .outgoing start nodes goal c → s.best ≤ c :=
    fun hwalk => h.best_le hopt hstop hg hm hw hs ht hwalk
  cases hmeet : s.meeting with
  | none =>
    obtain ⟨hbest, hne⟩ := h.met.unmet hmeet
    refine .none hne fun hwalk => not_lt_of_ge ?_
    rw [Cost.infinity_eq_top, ← hbest]
    exact hle hwalk
  | some m =>
    obtain ⟨-, -, hfin⟩ := h.met.attained hmeet
    exact .walk (h.walk hg hm hs ht hmeet) hle
      (hfin.imp_left fun ⟨hms, hmt⟩ => hms.symm.trans hmt)

/-- In a mirrored graph the search answers with a cheapest walk. -/
theorem search_spec (hg : g.Domain P) (hm : g.Mirrored P) (hw : g.NonNegative P)
    (hid : ∀ n, P n → n ≠ noJoint) (hs : P start) (ht : P goal) :
    ∃ answer, search g start goal = .ok answer ∧ g.Cheapest start goal answer := by
  have hP := origin_mem hs ht
  obtain ⟨s, hreach, hend⟩ := run_spec (budget_init (g := g) (W := W) start goal)
  have hinv : s.Joined g P start goal ∧
      ∀ d, (s.side d).Optimal g d (origin start goal d) := by
    clear hend
    induction hreach with
    | refl =>
      refine ⟨.init hid hs, fun d => ?_⟩
      rw [State.side_init]
      exact .start _ 0
    | tail _ hnext ih =>
      exact ⟨ih.1.next hg hid hP hnext, optimal_next ih.1 ih.2 hg hw hP hnext⟩
  obtain ⟨hjoined, hopt⟩ := hinv
  rcases hend with ⟨hstop, hrun⟩ | ⟨d, x, hd, hstep, -⟩
  · refine ⟨_, ?_, hjoined.cheapest hopt hstop hg hm hw hs ht⟩
    rw [search, hrun]
    rfl
  · obtain ⟨s', hok⟩ := exists_step hg (fun e he => (hjoined.grown d).node_mem (hP d) he)
      (frontier_ne_nil_of_next? hd)
    cases hstep.symm.trans hok

/-- The search from both ends and Dijkstra's find a way at the same time and of the same weight, and
    the joints found from both ends are those of a walk of that weight. -/
theorem search_agrees_with_dijkstra (hg : g.Domain P) (hm : g.Mirrored P) (hw : g.NonNegative P)
    (hid : ∀ n, P n → n ≠ noJoint) (hs : P start) (ht : P goal) :
    ∃ one both, dijkstra g start goal = .ok one ∧ search g start goal = .ok both ∧
      both.map (·.weight) = one.map (·.weight) ∧
      ∀ path ∈ both, path.joints.head? = some start ∧ path.joints.getLast? = some goal ∧
        g.Walk .outgoing start path.joints goal path.weight := by
  have hfirst : ∃ answer, dijkstra g start goal = .ok answer ∧ g.Cheapest start goal answer :=
    dijkstra_spec hg hw hid hs
  obtain ⟨one, hone, hcheapest⟩ := hfirst
  obtain ⟨both, hboth, hcheapest'⟩ := search_spec hg hm hw hid hs ht
  refine ⟨one, both, hone, hboth, hcheapest'.weight_eq hcheapest, ?_⟩
  rintro path rfl
  cases hcheapest' with
  | walk hwalk _ _ => exact ⟨hwalk.head?_nodes, hwalk.getLast?_nodes, hwalk⟩

/-- Two ways around, one of them with an arc that cannot be travelled. -/
theorem search_agrees_with_dijkstra_diamond :
    let g : Graph Empty ℕ∞ := .ofArcs [(0, 1, 2), (0, 2, ⊤), (1, 3, 5), (2, 3, 1), (3, 0, 0)]
    ∃ one both, dijkstra g 0 3 = .ok one ∧ search g 0 3 = .ok both ∧
      both.map (·.weight) = one.map (·.weight) ∧
      ∀ path ∈ both, path.joints.head? = some 0 ∧ path.joints.getLast? = some 3 ∧
        g.Walk .outgoing 0 path.joints 3 path.weight := by
  intro g
  have hid : ∀ n, n < 4 → n ≠ noJoint := by
    intro n hn
    rw [noJoint]
    omega
  exact search_agrees_with_dijkstra (Graph.domain_ofArcs (by decide)) Graph.mirrored_ofArcs
    (Graph.nonNegative_ofArcs fun _ _ => zero_le) hid (by decide) (by decide)

end Nonnegative

end Meeting

end RoadRouting.Search.TwoSided
