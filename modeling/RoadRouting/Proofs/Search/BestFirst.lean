import Mathlib.Logic.Relation
import RoadRouting.Proofs.Cost.Rounded
import RoadRouting.Proofs.Search.Optimality

/-!
# Best-first search

A run of the search is a sequence of steps of one side (`Side.Advance`), and its bound on the number
of steps is never reached. With the estimate zero the answer is a cheapest walk.

* `BestFirst.step_running`, `BestFirst.step_arrived`, `BestFirst.step_exhausted`,
  `BestFirst.step_error`: all that a step can lead to.
* `BestFirst.run_spec`: a run ends where a step does not lead on.
* `BestFirst.Underway.walk`: the path of an arrival is a walk, whatever was estimated.
* `dijkstra_spec`: Dijkstra's search answers with a walk of least cost, or there is no walk of
  finite cost.
* `dijkstra_is_optimal`: the same, with what an answer is written out.
-/

namespace RoadRouting.Search

open TwoSided (Side)

variable {ε W : Type}

namespace BestFirst

section Steps

variable [Cost W] {g : Graph ε W} {estimate : Nat → Except ε W} {goal : Nat}
  {s s' : State W} {via : Entry W} {edge : Edge W} {es : List (Edge W)}

/-- The frontier and the labels of the search. -/
def State.side (s : State W) : Side W := ⟨s.frontier, s.labels⟩

/-- Cheaper ways are accepted, and the frontier is sorted by cost and estimate. -/
def policy (estimate : Nat → Except ε W) : Policy W where
  accepts c known := decide (c < known)
  total n c :=
    match estimate n with
    | .ok rest => c + rest
    | .error _ => c

theorem policy_strict (estimate : Nat → Except ε W) : (policy estimate).Strict :=
  fun _ _ => decide_eq_true_iff

/-! ## Steps -/

theorem side_relax (h : relax estimate via s edge = .ok s') :
    s'.side = s.side.offer (policy estimate) via edge := by
  unfold relax at h
  simp only at h
  split at h
  case isTrue hadmits =>
    have hadmits' : s.side.admits (policy estimate) via edge = true :=
      Side.admits_iff.mpr ⟨hadmits.1, decide_eq_true hadmits.2⟩
    cases hrest : estimate edge.target with
    | error x => rw [hrest] at h; cases h
    | ok rest =>
      rw [hrest] at h
      cases h
      rw [Side.offer, if_pos hadmits']
      simp only [State.side, Side.accept, policy, hrest]
  case isFalse hadmits =>
    cases h
    rw [Side.offer, if_neg]
    intro hadmits'
    have := Side.admits_iff.mp hadmits'
    exact hadmits ⟨this.1, of_decide_eq_true this.2⟩

theorem side_foldlM (h : es.foldlM (relax estimate via) s = .ok s') :
    s'.side = es.foldl (Side.offer (policy estimate) via) s.side := by
  induction es generalizing s with
  | nil => cases h; rfl
  | cons edge es ih =>
    rw [List.foldlM_cons] at h
    cases hr : relax estimate via s edge with
    | error x => rw [hr] at h; cases h
    | ok s₁ =>
      rw [hr] at h
      rw [List.foldl_cons, ← side_relax hr]
      exact ih h

/-- Offers fail only where an estimate fails. -/
theorem foldlM_relax_error {x : ε} (h : es.foldlM (relax estimate via) s = .error x) :
    ∃ edge ∈ es, estimate edge.target = .error x := by
  induction es generalizing s with
  | nil => cases h
  | cons edge es ih =>
    rw [List.foldlM_cons] at h
    cases hr : relax estimate via s edge with
    | error y =>
      rw [hr] at h
      cases h
      refine ⟨edge, List.mem_cons_self, ?_⟩
      unfold relax at hr
      simp only at hr
      split at hr
      · cases hrest : estimate edge.target with
        | error y => rw [hrest] at hr; cases hr; rfl
        | ok rest => rw [hrest] at hr; cases hr
      · cases hr
    | ok s₁ =>
      rw [hr] at h
      obtain ⟨edge', hmem, hx⟩ := ih h
      exact ⟨edge', List.mem_cons_of_mem edge hmem, hx⟩

/-- All that a step can lead to. -/
inductive Outcome (g : Graph ε W) (estimate : Nat → Except ε W) (goal : Nat) (s : State W) :
    Except ε (Progress W) → Prop
  | exhausted : s.frontier = [] → Outcome g estimate goal s (.ok .exhausted)
  | dropped {e : Entry W} {rest : Frontier W} : s.frontier = e :: rest →
      isStale s.labels e = true →
      Outcome g estimate goal s (.ok (.running { s with frontier := rest }))
  | arrived {e : Entry W} {rest : Frontier W} : s.frontier = e :: rest →
      isStale s.labels e = false → e.node = goal →
      Outcome g estimate goal s
        (.ok (.arrived ⟨pathTo (settle s e rest).labels goal, e.cost, s.visited + 1⟩))
  | expanded {e : Entry W} {rest : Frontier W} {es : List (Edge W)} {s' : State W} :
      s.frontier = e :: rest → isStale s.labels e = false → e.node ≠ goal →
      g.edges .outgoing e.node = .ok es →
      es.foldlM (relax estimate e) (settle s e rest) = .ok s' →
      Outcome g estimate goal s (.ok (.running s'))
  | unlisted {e : Entry W} {rest : Frontier W} {x : ε} : s.frontier = e :: rest →
      g.edges .outgoing e.node = .error x → Outcome g estimate goal s (.error x)
  | unestimated {e : Entry W} {rest : Frontier W} {es : List (Edge W)} {x : ε} :
      s.frontier = e :: rest → g.edges .outgoing e.node = .ok es →
      es.foldlM (relax estimate e) (settle s e rest) = .error x →
      Outcome g estimate goal s (.error x)

theorem step_outcome (g : Graph ε W) (estimate : Nat → Except ε W) (goal : Nat) (s : State W) :
    Outcome g estimate goal s (step g estimate goal s) := by
  unfold step
  split
  case h_1 hf => exact .exhausted hf
  case h_2 e rest hf =>
    split
    case isTrue hs => exact .dropped hf hs
    case isFalse hs =>
      rw [Bool.not_eq_true] at hs
      simp only
      split
      case isTrue hgoal => exact .arrived hf hs hgoal
      case isFalse hgoal =>
        cases hes : g.edges .outgoing e.node with
        | error x => exact .unlisted hf hes
        | ok es =>
          simp only [bind, Except.bind]
          cases hfold : es.foldlM (relax estimate e) (settle s e rest) with
          | error x => exact .unestimated hf hes hfold
          | ok s' => exact .expanded hf hs hgoal hes hfold

/-- A step that leads on advances the side, and settles no goal. -/
theorem step_running (h : step g estimate goal s = .ok (.running s')) :
    Side.Advance g .outgoing (policy estimate) s.side s'.side ∧
      (s'.side.labels.of goal).settled = (s.side.labels.of goal).settled := by
  have hout := step_outcome g estimate goal s
  rw [h] at hout
  cases hout with
  | dropped hf hs => exact ⟨.drop hf hs, rfl⟩
  | @expanded e rest es _ hf hs hgoal hes hfold =>
    have hside : s'.side = s.side.expand (policy estimate) e rest es := side_foldlM hfold
    rw [hside]
    refine ⟨.expand hf hs hes, ?_⟩
    rw [Side.settled_of_expand, decide_eq_false hgoal, Bool.false_or]

/-- The search arrives when it takes an entry of the goal that is not stale. -/
theorem step_arrived {path : Path W} (h : step g estimate goal s = .ok (.arrived path)) :
    ∃ e rest, s.side.frontier = e :: rest ∧ isStale s.side.labels e = false ∧ e.node = goal ∧
      path.joints = pathTo (s.side.settle e rest).labels goal ∧ path.weight = e.cost := by
  have hout := step_outcome g estimate goal s
  rw [h] at hout
  cases hout with
  | arrived hf hs hgoal => exact ⟨_, _, hf, hs, hgoal, rfl, rfl⟩

theorem step_exhausted (h : step g estimate goal s = .ok .exhausted) : s.frontier = [] := by
  have hout := step_outcome g estimate goal s
  rw [h] at hout
  cases hout with
  | exhausted hf => exact hf

/-- A step fails only where edges cannot be listed or an estimate fails. -/
theorem step_error {x : ε} (h : step g estimate goal s = .error x) :
    ∃ e ∈ s.frontier, g.edges .outgoing e.node = .error x ∨
      ∃ es edge, g.edges .outgoing e.node = .ok es ∧ edge ∈ es ∧
        estimate edge.target = .error x := by
  have hout := step_outcome g estimate goal s
  rw [h] at hout
  cases hout with
  | unlisted hf hes => exact ⟨_, Frontier.front_mem hf, .inl hes⟩
  | @unestimated e rest es _ hf hes hfold =>
    obtain ⟨edge, hedge, hx⟩ := foldlM_relax_error hfold
    exact ⟨e, Frontier.front_mem hf, .inr ⟨es, edge, hes, hedge, hx⟩⟩

/-- No step fails in the domain of the graph, as long as estimates do not fail. -/
theorem step_ne_error {P : Nat → Prop} (hentry : ∀ e ∈ s.frontier, P e.node) (hg : g.Domain P)
    (hest : ∀ n, P n → ∃ rest, estimate n = .ok rest) (x : ε) :
    step g estimate goal s ≠ .error x := by
  intro hstep
  obtain ⟨e, he, hfail⟩ := step_error hstep
  have hP : P e.node := hentry e he
  rcases hfail with hfail | ⟨es, edge, hes, hedge, hfail⟩
  · rw [hg.edges_eq hP] at hfail
    cases hfail
  · obtain ⟨rest, hok⟩ := hest _ (hg.stays hP (by rwa [Graph.edgesOrNone_eq hes]))
    rw [hok] at hfail
    cases hfail

/-! ## Runs -/

/-- One step leads from one state to the next. -/
def Next (g : Graph ε W) (estimate : Nat → Except ε W) (goal : Nat) (s s' : State W) : Prop :=
  step g estimate goal s = .ok (.running s')

/-- A run ends in a state at which a step does not lead on: the bound on the number of steps is
    not reached before. -/
theorem run_spec (estimate : Nat → Except ε W) (goal : Nat) {steps : Nat}
    (hsteps : s.side.budget g .outgoing ≤ steps) :
    ∃ s', Relation.ReflTransGen (Next g estimate goal) s s' ∧
      ((s'.frontier = [] ∧ run g estimate goal steps s = .ok none) ∨
        (∃ path, step g estimate goal s' = .ok (.arrived path) ∧
          run g estimate goal steps s = .ok (some path)) ∨
        ∃ x, step g estimate goal s' = .error x ∧ run g estimate goal steps s = .error x) := by
  induction steps generalizing s with
  | zero =>
    refine ⟨s, .refl, .inl ⟨?_, rfl⟩⟩
    rw [Side.budget] at hsteps
    exact List.eq_nil_of_length_eq_zero (by
      have : s.side.frontier.length = s.frontier.length := rfl
      omega)
  | succ steps ih =>
    rw [run]
    cases h : step g estimate goal s with
    | error x => exact ⟨s, .refl, .inr (.inr ⟨x, h, rfl⟩)⟩
    | ok progress =>
      cases progress with
      | running s₁ =>
        have hlt := (step_running h).1.budget_lt
        obtain ⟨s', hreach, hend⟩ := ih (Nat.le_of_lt_succ (Nat.lt_of_lt_of_le hlt hsteps))
        exact ⟨s', .head h hreach, hend⟩
      | arrived path => exact ⟨s, .refl, .inr (.inl ⟨path, h, rfl⟩)⟩
      | exhausted => exact ⟨s, .refl, .inl ⟨step_exhausted h, rfl⟩⟩

/-- More steps than there is work left change nothing. -/
theorem run_of_le {steps more : Nat} (hsteps : s.side.budget g .outgoing ≤ steps)
    (hmore : steps ≤ more) : run g estimate goal more s = run g estimate goal steps s := by
  induction steps generalizing s more with
  | zero =>
    have hnil : s.frontier = [] := List.eq_nil_of_length_eq_zero
      (Nat.le_zero.mp (le_trans (Nat.le_add_right _ _) hsteps))
    cases more with
    | zero => rfl
    | succ more =>
      have hstep : step g estimate goal s = .ok .exhausted := by
        rw [step, hnil]
      show run g estimate goal (more + 1) s = .ok none
      rw [run, hstep]
      rfl
  | succ steps ih =>
    obtain ⟨more, rfl⟩ := Nat.exists_eq_add_of_le' hmore
    have hmore' : steps ≤ more + steps := Nat.le_add_left steps more
    rw [← Nat.add_assoc, run, run]
    cases h : step g estimate goal s with
    | error x => rfl
    | ok progress =>
      cases progress with
      | running s₁ =>
        have hlt := (step_running h).1.budget_lt
        exact ih (Nat.le_of_lt_succ (Nat.lt_of_lt_of_le hlt hsteps)) hmore'
      | arrived path => rfl
      | exhausted => rfl

theorem budget_init (start : Nat) (rest : W) :
    (init start rest).side.budget g .outgoing ≤ stepBound g := by
  have := Side.unsettledEdges_le (g := g) (d := .outgoing) (Labels.start start : Labels W)
  rw [Side.budget, stepBound]
  exact Nat.add_le_add_left this 1

/-- The answer of a search is told by a state in which it ends. What holds before the first step and
    is kept by every step holds of that state. -/
theorem search_induct {M : State W → Prop} {start : Nat} {rest : W}
    (hrest : estimate start = .ok rest) (hinit : M (init start rest))
    (hnext : ∀ s s', M s → Next g estimate goal s s' → M s') :
    ∃ s, M s ∧ ((s.frontier = [] ∧ search g estimate start goal = .ok none) ∨
      (∃ path, step g estimate goal s = .ok (.arrived path) ∧
        search g estimate start goal = .ok (some path)) ∨
      ∃ x, step g estimate goal s = .error x ∧ search g estimate start goal = .error x) := by
  have hsearch : search g estimate start goal =
      run g estimate goal (stepBound g) (init start rest) := by
    rw [search, hrest]
    rfl
  rw [hsearch]
  obtain ⟨s, hreach, hend⟩ := run_spec estimate goal (budget_init (g := g) start rest)
  refine ⟨s, ?_, hend⟩
  clear hend
  induction hreach with
  | refl => exact hinit
  | tail _ hstep ih => exact hnext _ _ ih hstep

end Steps

/-! ## Searches under way -/

section Underway

variable [OrderedCost W] {g : Graph ε W} {P : Nat → Prop} {estimate : Nat → Except ε W}
  {start goal : Nat} {s s' : State W} {path : Path W}

/-- The side of the search has grown, and the goal is not settled. -/
structure Underway (g : Graph ε W) (estimate : Nat → Except ε W) (P : Nat → Prop)
    (start goal : Nat) (s : State W) : Prop where
  grown : s.side.Grown g .outgoing (policy estimate) P start
  ahead : (s.side.labels.of goal).settled = false

namespace Underway

theorem init (rest : W) : Underway g estimate P start goal (BestFirst.init start rest) where
  grown := .inl ⟨rest, rfl⟩
  ahead := by
    rw [State.side, BestFirst.init, Labels.of_start]
    split <;> rfl

theorem next (h : Underway g estimate P start goal s) (hg : g.Domain P)
    (hid : ∀ n, P n → n ≠ noJoint) (hs : P start) (hnext : Next g estimate goal s s') :
    Underway g estimate P start goal s' := by
  obtain ⟨hadvance, hkeep⟩ := step_running hnext
  refine ⟨.inr (h.grown.advance (policy_strict _) hg hid hs hadvance), ?_⟩
  rw [hkeep, h.ahead]

/-- The path with which the search arrives is a walk, whatever was estimated. -/
theorem walk (h : Underway g estimate P start goal s)
    (hstep : step g estimate goal s = .ok (.arrived path)) :
    g.Walk .outgoing start path.joints goal path.weight ∧
      ((start = goal ∧ path.weight = 0) ∨ path.weight < Cost.infinity) := by
  obtain ⟨e, rest, hf, hstale, rfl, hjoints, hweight⟩ := step_arrived hstep
  have htree := h.grown.settle hf hstale
  have he : e ∈ s.side.frontier := Frontier.front_mem hf
  have hset : ((s.side.settle e rest).labels.of e.node).settled = true := Side.settled_settle_node
  have hmet := Labels.ne_unmet_of_settled hset
  have hcost : ((s.side.settle e rest).labels.of e.node).cost = path.weight := by
    rw [Side.cost_of_settle, h.grown.cost_eq he hstale, hweight]
  rw [hjoints, ← hcost]
  refine ⟨htree.walk (.inr hmet), ?_⟩
  by_cases hnone : ((s.side.settle e rest).labels.of e.node).parent = none
  · have hstart := (htree.unmet hnone).resolve_right hmet
    rw [hstart, htree.cost_origin]
    exact .inl ⟨rfl, rfl⟩
  · exact .inr (htree.finite hnone)

end Underway

/-- A search without failures ends with nothing left or with a path. -/
theorem search_ends {M : State W → Prop} (hM : ∀ s, M s → ∀ e ∈ s.frontier, P e.node)
    (hg : g.Domain P) (hs : P start) (hest : ∀ n, P n → ∃ rest, estimate n = .ok rest)
    (hinit : ∀ rest, M (init start rest))
    (hnext : ∀ s s', M s → Next g estimate goal s s' → M s') :
    ∃ s, M s ∧ ((s.frontier = [] ∧ search g estimate start goal = .ok none) ∨
      ∃ path, step g estimate goal s = .ok (.arrived path) ∧
        search g estimate start goal = .ok (some path)) := by
  obtain ⟨rest, hrest⟩ := hest start hs
  obtain ⟨s, hs', hend⟩ := search_induct hrest (hinit rest) hnext
  refine ⟨s, hs', ?_⟩
  rcases hend with hend | hend | ⟨x, hstep, -⟩
  · exact .inl hend
  · exact .inr hend
  · exact absurd hstep (step_ne_error (hM s hs') hg hest x)

end Underway

/-! ## Answers -/

section Answers

variable [OrderedCost W] {g : Graph ε W} {P : Nat → Prop} {estimate : Nat → Except ε W}
  {start goal : Nat} {s s' : State W}

/-- The side of the search has grown, its settled labels are least, and the goal is not among
    them. -/
structure Searching (g : Graph ε W) (estimate : Nat → Except ε W) (P : Nat → Prop)
    (start goal : Nat) (s : State W) : Prop where
  grown : s.side.Grown g .outgoing (policy estimate) P start
  optimal : s.side.Optimal g .outgoing start
  ahead : (s.side.labels.of goal).settled = false

namespace Searching

theorem underway (h : Searching g estimate P start goal s) : Underway g estimate P start goal s :=
  ⟨h.grown, h.ahead⟩

theorem init (rest : W) : Searching g estimate P start goal (BestFirst.init start rest) := by
  have h : Underway g estimate P start goal (BestFirst.init start rest) := .init rest
  exact ⟨h.grown, .start start rest, h.ahead⟩

theorem next (h : Searching g estimate P start goal s) (hg : g.Domain P) (hw : g.NonNegative P)
    (hid : ∀ n, P n → n ≠ noJoint) (hs : P start)
    (hπ : (policy estimate).Consistent g .outgoing P) (hnext : Next g estimate goal s s') :
    Searching g estimate P start goal s' := by
  have hunderway := h.underway.next hg hid hs hnext
  refine ⟨hunderway.grown, ?_, hunderway.ahead⟩
  exact h.grown.opened.optimal_advance h.optimal (policy_strict _) hπ hg hw hs (step_running hnext).1

/-- With nothing left in the frontier, no walk to the goal is of finite cost. -/
theorem exhausted (h : Searching g estimate P start goal s) (hg : g.Domain P)
    (hw : g.NonNegative P) (hs : P start) (hπ : (policy estimate).Consistent g .outgoing P)
    (hnil : s.frontier = []) : g.Cheapest start goal none := by
  have htree := h.grown.tree hnil
  have hahead : ¬ (s.side.labels.of goal).settled = true := Bool.eq_false_iff.mp h.ahead
  refine .none ?_ fun {nodes c} hwalk hc => ?_
  · rintro rfl
    exact hahead htree.settled_origin
  · rcases htree.agenda.cut h.optimal hπ hg hw hs hwalk hc with ⟨hset, -⟩ | ⟨e, he, -⟩
    · exact hahead hset
    · rw [State.side, hnil] at he
      cases he

/-- The entry with which the search arrives holds the cost of a cheapest walk. -/
theorem arrived (h : Searching g estimate P start goal s) (hg : g.Domain P)
    (hw : g.NonNegative P) (hs : P start) (hπ : (policy estimate).Consistent g .outgoing P)
    {path : Path W} (hstep : step g estimate goal s = .ok (.arrived path)) :
    g.Cheapest start goal (some path) := by
  obtain ⟨hwalk, hfin⟩ := h.underway.walk hstep
  obtain ⟨e, rest, hf, hstale, rfl, -, hweight⟩ := step_arrived hstep
  refine .walk hwalk (fun hother => ?_) (hfin.imp_left And.left)
  rw [hweight]
  exact h.grown.opened.cost_le_of_head h.optimal hπ hg hw hs hf hstale hother

end Searching

/-- The search answers with a cheapest walk when estimates do not fail and are consistent: totals
    do not decrease along edges. -/
theorem search_spec (hg : g.Domain P) (hw : g.NonNegative P) (hid : ∀ n, P n → n ≠ noJoint)
    (hs : P start) (hest : ∀ n, P n → ∃ rest, estimate n = .ok rest)
    (hπ : (policy estimate).Consistent g .outgoing P) :
    ∃ answer, search g estimate start goal = .ok answer ∧ g.Cheapest start goal answer := by
  obtain ⟨s, hsearching, hend⟩ := search_ends (M := Searching g estimate P start goal)
    (fun _ h _ he => h.grown.node_mem hs he) hg hs hest .init
    fun _ _ h hnext => h.next hg hw hid hs hπ hnext
  rcases hend with ⟨hnil, hsearch⟩ | ⟨path, hstep, hsearch⟩
  · exact ⟨none, hsearch, hsearching.exhausted hg hw hs hπ hnil⟩
  · exact ⟨some path, hsearch, hsearching.arrived hg hw hs hπ hstep⟩

end Answers

end BestFirst

/-- Dijkstra's search answers with a walk of least cost, or there is no walk of finite cost. -/
theorem dijkstra_spec [OrderedCost W] {g : Graph ε W} {P : Nat → Prop} {start goal : Nat}
    (hg : g.Domain P) (hw : g.NonNegative P) (hid : ∀ n, P n → n ≠ noJoint) (hs : P start) :
    ∃ answer, dijkstra g start goal = .ok answer ∧ g.Cheapest start goal answer := by
  refine BestFirst.search_spec hg hw hid hs (fun n _ => ⟨0, rfl⟩) ⟨?_, ?_⟩
  · exact fun n c c' hc => OrderedCost.add_mono hc 0
  · exact fun hu he c => OrderedCost.add_mono (OrderedCost.le_add (hw _ hu _ _ he) c) 0

/-- Dijkstra's search finds a way exactly if some walk from the start to the goal has a finite cost, and
    answers with a walk of least cost. Costs are added from the first edge on. Of addition only the laws
    of `OrderedCost` are used, which rounded sums obey as well. -/
theorem dijkstra_is_optimal [OrderedCost W] {g : Graph ε W} {P : Nat → Prop} {start goal : Nat}
    (hzero : (0 : W) < Cost.infinity) (hg : g.Domain P) (hw : g.NonNegative P)
    (hid : ∀ n, P n → n ≠ noJoint) (hs : P start) :
    ∃ answer, dijkstra g start goal = .ok answer ∧
      (answer.isSome = true ↔
        ∃ nodes c, g.Walk .outgoing start nodes goal c ∧ c < Cost.infinity) ∧
      ∀ path ∈ answer, g.Walk .outgoing start path.joints goal path.weight ∧
        IsLeast {c | ∃ nodes, g.Walk .outgoing start nodes goal c} path.weight := by
  have hspec : ∃ answer, dijkstra g start goal = .ok answer ∧ g.Cheapest start goal answer :=
    dijkstra_spec hg hw hid hs
  obtain ⟨answer, hsearch, hcheapest⟩ := hspec
  refine ⟨answer, hsearch, hcheapest.isSome_iff hzero, ?_⟩
  rintro path rfl
  refine ⟨?_, hcheapest.isLeast⟩
  cases hcheapest with
  | walk hwalk _ _ => exact hwalk

/-- With three binary digits, `8 + 1` is rounded to `8`. So the way of three arcs costs `8`, since its
    costs are added from the first one on, and the single arc costs more. -/
theorem dijkstra_is_optimal_rounded :
    let fit : ℕ∞ → Rounded (.leadingBits 2) := Rounded.fit _
    let g : Graph Empty (Rounded (.leadingBits 2)) :=
      .ofArcs [(0, 3, fit 10), (0, 1, fit 8), (1, 2, fit 1), (2, 3, fit 1)]
    dijkstra g 0 3 = .ok (some ⟨[0, 1, 2, 3], fit 8, 4⟩) ∧
      g.Walk .outgoing 0 [0, 1, 2, 3] 3 (fit 8) ∧
      IsLeast {c | ∃ nodes, g.Walk .outgoing 0 nodes 3 c} (fit 8) := by
  intro fit g
  have hid : ∀ n, n < 4 → n ≠ noJoint := by
    intro n hn
    rw [noJoint]
    omega
  have hspec : ∃ answer, dijkstra g 0 3 = .ok answer ∧ _ ∧ _ :=
    dijkstra_is_optimal (show (0 : ℕ∞) < ⊤ by decide) (Graph.domain_ofArcs (by decide))
      (Graph.nonNegative_ofArcs fun a _ => show (0 : ℕ∞) ≤ a.2.2.val from zero_le) hid (by decide)
  obtain ⟨answer, hsearch, -, hbest⟩ := hspec
  have hanswer : dijkstra g 0 3 = .ok (some ⟨[0, 1, 2, 3], fit 8, 4⟩) := by rfl
  obtain rfl := Except.ok.inj (hsearch.symm.trans hanswer)
  exact ⟨hanswer, hbest _ rfl⟩

end RoadRouting.Search
