import RoadRouting.Proofs.Result
import RoadRouting.Proofs.Search.BestFirst

/-!
# How a search ends

A best-first search ends when it has settled its goal, or when nothing is left. An answer tells how
many nodes were settled, and so does the last state of a search without an answer.

* `BestFirst.Ends`: what a search answers, and how many nodes it has settled by then.
* `BestFirst.Ends.search_eq`: there is only one end.
* `BestFirst.exists_front`: what is stale is passed over.
* `BestFirst.exists_last`: a search that cannot fail comes to an end.
-/

namespace RoadRouting.Search.BestFirst

open TwoSided (Side)

variable {ε W : Type}

section Runs

variable [Cost W] {g : Graph ε W} {estimate : Nat → Except ε W} {start goal : Nat}
  {s s' s'' : State W} {e via : Entry W} {rest : Frontier W} {edge : Edge W} {es : List (Edge W)}
  {answer : Option (Path W)} {settled : Nat}

/-- The search comes to the state. -/
def Reaches (g : Graph ε W) (estimate : Nat → Except ε W) (start goal : Nat) (s : State W) : Prop :=
  ∃ rest, estimate start = .ok rest ∧
    Relation.ReflTransGen (Next g estimate goal) (init start rest) s

/-- What the search answers in the end, and how many nodes it has settled by then. -/
inductive Ends (g : Graph ε W) (estimate : Nat → Except ε W) (start goal : Nat) :
    Option (Path W) → Nat → Prop
  | arrived {s : State W} {path : Path W} : Reaches g estimate start goal s →
      step g estimate goal s = .ok (.arrived path) → Ends g estimate start goal path path.visited
  | exhausted {s : State W} : Reaches g estimate start goal s → s.frontier = [] →
      Ends g estimate start goal none s.visited

theorem Reaches.next (h : Reaches g estimate start goal s)
    (hnext : Relation.ReflTransGen (Next g estimate goal) s s') : Reaches g estimate start goal s' := by
  obtain ⟨rest, hrest, hreach⟩ := h
  exact ⟨rest, hrest, hreach.trans hnext⟩

/-- What holds before the first step and is kept by every step holds of every state. -/
theorem Reaches.induct {M : State W → Prop} (h : Reaches g estimate start goal s)
    (hinit : ∀ rest, estimate start = .ok rest → M (init start rest))
    (hnext : ∀ s s', Reaches g estimate start goal s → M s → Next g estimate goal s s' → M s') :
    M s := by
  obtain ⟨rest, hrest, hreach⟩ := h
  induction hreach with
  | refl => exact hinit rest hrest
  | tail hreach hstep ih => exact hnext _ _ ⟨rest, hrest, hreach⟩ ih hstep

/-! ## Single steps -/

theorem next_of_stale (hf : s.frontier = e :: rest) (hs : isStale s.labels e = true) :
    Next g estimate goal s { s with frontier := rest } := by
  unfold Next step
  rw [hf]
  exact if_pos hs

theorem step_of_goal (hf : s.frontier = e :: rest) (hs : isStale s.labels e = false)
    (hgoal : e.node = goal) : step g estimate goal s =
      .ok (.arrived ⟨pathTo (settle s e rest).labels goal, e.cost, s.visited + 1⟩) := by
  unfold step
  rw [hf]
  simp only [hs, hgoal, Bool.false_eq_true, if_false, if_true]
  rfl

theorem visited_relax (h : relax estimate via s edge = .ok s') : s'.visited = s.visited := by
  unfold relax at h
  simp only at h
  split at h
  · obtain ⟨rest, -, h⟩ := bind_eq_ok_iff.mp h
    cases h
    rfl
  · cases h
    rfl

theorem visited_foldlM (h : es.foldlM (relax estimate via) s = .ok s') :
    s'.visited = s.visited :=
  foldlM_induct (M := fun s' => s'.visited = s.visited) h rfl fun _ _ _ _ hs hrelax =>
    (visited_relax hrelax).trans hs

/-- A node other than the goal is expanded, as long as estimates do not fail. -/
theorem exists_next (hf : s.frontier = e :: rest) (hs : isStale s.labels e = false)
    (hgoal : e.node ≠ goal) (hes : g.edges .outgoing e.node = .ok es)
    (hest : ∀ edge ∈ es, ∃ x, estimate edge.target = .ok x) :
    ∃ s', Next g estimate goal s s' ∧ s'.side = s.side.expand (policy estimate) e rest es ∧
      s'.visited = s.visited + 1 := by
  cases hfold : es.foldlM (relax estimate e) (settle s e rest) with
  | error x =>
    obtain ⟨edge, hedge, hx⟩ := foldlM_relax_error hfold
    obtain ⟨y, hy⟩ := hest edge hedge
    rw [hy] at hx
    cases hx
  | ok s' =>
    refine ⟨s', ?_, side_foldlM hfold, visited_foldlM hfold⟩
    unfold Next step
    rw [hf]
    simp only [hs, hgoal, hes, hfold, Bool.false_eq_true, if_false, bind, Except.bind]

/-- A step that leads on has dropped a stale entry or expanded a node. -/
theorem next_cases (h : Next g estimate goal s s') :
    (s'.side.labels = s.side.labels ∧ s'.visited = s.visited) ∨
      ∃ e rest es, s.side.frontier = e :: rest ∧ isStale s.side.labels e = false ∧ e.node ≠ goal ∧
        g.edges .outgoing e.node = .ok es ∧ s'.side = s.side.expand (policy estimate) e rest es ∧
        s'.visited = s.visited + 1 := by
  have hout := step_outcome g estimate goal s
  rw [h] at hout
  cases hout with
  | dropped => exact .inl ⟨rfl, rfl⟩
  | expanded hf hs hgoal hes hfold =>
    exact .inr ⟨_, _, _, hf, hs, hgoal, hes, side_foldlM hfold, visited_foldlM hfold⟩

/-- A node that is settled stays so. -/
theorem settled_of_reaches {n : Nat} (h : Relation.ReflTransGen (Next g estimate goal) s s')
    (hn : (s.side.labels.of n).settled = true) : (s'.side.labels.of n).settled = true := by
  induction h with
  | refl => exact hn
  | tail _ hnext ih =>
    rcases next_cases hnext with ⟨hlabels, -⟩ | ⟨e, rest, es, -, -, -, -, hside, -⟩
    · rwa [hlabels]
    · rw [hside, Side.settled_of_expand, ih, Bool.or_true]

/-- The goal is settled by no step that leads on. -/
theorem Reaches.ahead (h : Reaches g estimate start goal s) :
    (s.side.labels.of goal).settled = false := by
  refine h.induct (M := fun s => (s.side.labels.of goal).settled = false) (fun rest _ => ?_)
    fun s s' _ hahead hnext => ?_
  · rw [State.side, init, Labels.of_start]
    split <;> rfl
  · rw [(step_running hnext).2, hahead]

/-- What is stale is passed over until nothing is left or a node is up for settling. -/
theorem exists_front (g : Graph ε W) (estimate : Nat → Except ε W) (goal : Nat) (s : State W) :
    ∃ s', Relation.ReflTransGen (Next g estimate goal) s s' ∧ s'.labels = s.labels ∧
      s'.visited = s.visited ∧
      (s'.frontier = [] ∨ ∃ e rest, s'.frontier = e :: rest ∧ isStale s'.labels e = false) := by
  obtain ⟨frontier, labels, visited⟩ := s
  induction frontier with
  | nil => exact ⟨_, .refl, rfl, rfl, .inl rfl⟩
  | cons e rest ih =>
    cases hs : isStale labels e with
    | false => exact ⟨_, .refl, rfl, rfl, .inr ⟨e, rest, rfl, hs⟩⟩
    | true =>
      obtain ⟨s', hreach, hs'⟩ := ih
      exact ⟨s', .head (next_of_stale rfl hs) hreach, hs'⟩

/-- Before a node of some set is settled, there is a state that is about to settle the first one. -/
theorem exists_first {Q : Nat → Prop} (h : Relation.ReflTransGen (Next g estimate goal) s s')
    (hf : s'.frontier = e :: rest) (hs : isStale s'.labels e = false) (hQ : Q e.node) :
    ∃ s'', Relation.ReflTransGen (Next g estimate goal) s s'' ∧
      (∀ n, Q n → (s''.side.labels.of n).settled = (s.side.labels.of n).settled) ∧
      ∃ e rest, s''.frontier = e :: rest ∧ isStale s''.labels e = false ∧ Q e.node := by
  induction h using Relation.ReflTransGen.head_induction_on with
  | refl => exact ⟨s', .refl, fun _ _ => rfl, e, rest, hf, hs, hQ⟩
  | @head s s₁ hnext hreach ih =>
    obtain ⟨s'', hreach'', hsame, hfirst⟩ := ih
    rcases next_cases hnext with ⟨hlabels, -⟩ | ⟨x, xs, es, hx, hxs, -, -, hside, -⟩
    · refine ⟨s'', .head hnext hreach'', fun n hn => ?_, hfirst⟩
      rw [hsame n hn, hlabels]
    · by_cases hQx : Q x.node
      · exact ⟨s, .refl, fun _ _ => rfl, x, xs, hx, hxs, hQx⟩
      · refine ⟨s'', .head hnext hreach'', fun n hn => ?_, hfirst⟩
        have hne : x.node ≠ n := by
          rintro rfl
          exact hQx hn
        rw [hsame n hn, hside, Side.settled_of_expand, decide_eq_false hne, Bool.false_or]

/-! ## The number of settled nodes -/

/-- The search counts the nodes that are settled. -/
theorem Reaches.counts (h : Reaches g estimate start goal s) : ∃ l : List Nat, l.Nodup ∧
    l.length = s.visited ∧ ∀ n, n ∈ l ↔ (s.side.labels.of n).settled = true := by
  refine h.induct (M := fun s => ∃ l : List Nat, l.Nodup ∧ l.length = s.visited ∧
    ∀ n, n ∈ l ↔ (s.side.labels.of n).settled = true) (fun rest _ => ?_) fun s s' _ hcounts hnext => ?_
  · refine ⟨[], List.nodup_nil, rfl, fun n => ?_⟩
    have hunset : (((init start rest).side.labels).of n).settled = false := by
      rw [State.side, init, Labels.of_start]
      split <;> rfl
    simp [hunset]
  · obtain ⟨l, hnodup, hlength, hmem⟩ := hcounts
    rcases next_cases hnext with ⟨hlabels, hvisited⟩ | ⟨e, rest, es, -, hs, -, -, hside, hvisited⟩
    · rw [hlabels, hvisited]
      exact ⟨l, hnodup, hlength, hmem⟩
    · have hnot : e.node ∉ l := by
        rw [hmem, (Side.isStale_eq_false_iff.mp hs).1]
        exact Bool.false_ne_true
      refine ⟨e.node :: l, List.nodup_cons.mpr ⟨hnot, hnodup⟩, ?_, fun n => ?_⟩
      · rw [List.length_cons, hlength, hvisited]
      · rw [List.mem_cons, hmem, hside, Side.settled_of_expand, Bool.or_eq_true, decide_eq_true_eq,
          eq_comm]

/-- What has settled no other nodes than another search has settled no more. -/
theorem Reaches.visited_le {estimate' : Nat → Except ε W} (h : Reaches g estimate start goal s)
    (h' : Reaches g estimate' start goal s')
    (hsub : ∀ n, (s.side.labels.of n).settled = true → (s'.side.labels.of n).settled = true) :
    s.visited ≤ s'.visited := by
  obtain ⟨l, hnodup, hlength, hmem⟩ := h.counts
  obtain ⟨l', -, hlength', hmem'⟩ := h'.counts
  have hsubset : l ⊆ l' := fun n hn => (hmem' n).mpr (hsub n ((hmem n).mp hn))
  rw [← hlength, ← hlength']
  exact (hnodup.subperm hsubset).length_le

/-! ## The last state -/

theorem step_of_nil (hnil : s.frontier = []) : step g estimate goal s = .ok .exhausted := by
  rw [step, hnil]

theorem next_rightUnique : Relator.RightUnique (Next g estimate goal) := by
  intro s s₁ s₂ h₁ h₂
  cases Except.ok.inj (h₁.symm.trans h₂)
  rfl

/-- A state from which no step leads on is reached from all others. -/
theorem Reaches.reaches_last (h : Reaches g estimate start goal s)
    (h' : Reaches g estimate start goal s') (hlast : ∀ s'', ¬ Next g estimate goal s' s'') :
    Relation.ReflTransGen (Next g estimate goal) s s' := by
  obtain ⟨rest, hrest, hreach⟩ := h
  obtain ⟨rest', hrest', hreach'⟩ := h'
  obtain rfl := Except.ok.inj (hrest.symm.trans hrest')
  rcases hreach.total_of_right_unique next_rightUnique hreach' with hon | hback
  · exact hon
  · rcases hback.cases_head with rfl | ⟨s'', hnext, -⟩
    · exact .refl
    · exact absurd hnext (hlast s'')

theorem Reaches.last_unique (h : Reaches g estimate start goal s)
    (h' : Reaches g estimate start goal s') (hlast : ∀ s'', ¬ Next g estimate goal s s'')
    (hlast' : ∀ s'', ¬ Next g estimate goal s' s'') : s = s' := by
  rcases (h.reaches_last h' hlast').cases_head with rfl | ⟨s'', hnext, -⟩
  · rfl
  · exact absurd hnext (hlast s'')

/-- The search answers what its last state tells. -/
theorem Reaches.search_of_last (h : Reaches g estimate start goal s)
    (hlast : ∀ s', ¬ Next g estimate goal s s') :
    (s.frontier = [] ∧ search g estimate start goal = .ok none) ∨
      (∃ path, step g estimate goal s = .ok (.arrived path) ∧
        search g estimate start goal = .ok (some path)) ∨
      ∃ x, step g estimate goal s = .error x ∧ search g estimate start goal = .error x := by
  obtain ⟨rest, hrest, -⟩ := id h
  obtain ⟨s', h', hend⟩ := search_induct (M := Reaches g estimate start goal) hrest
    ⟨rest, hrest, .refl⟩ fun _ _ hs hnext => hs.next (.single hnext)
  have hlast' : ∀ s'', ¬ Next g estimate goal s' s'' := by
    intro s'' hnext
    unfold Next at hnext
    rcases hend with ⟨hnil, -⟩ | ⟨path, hstep, -⟩ | ⟨x, hstep, -⟩
    · rw [step_of_nil hnil] at hnext
      cases hnext
    · rw [hstep] at hnext
      cases hnext
    · rw [hstep] at hnext
      cases hnext
  rwa [h.last_unique h' hlast hlast']

theorem Ends.search_eq (h : Ends g estimate start goal answer settled) :
    search g estimate start goal = .ok answer := by
  cases h with
  | @arrived s path hreach hstep =>
    have hlast : ∀ s', ¬ Next g estimate goal s s' := by
      intro s' hnext
      cases hstep.symm.trans hnext
    rcases hreach.search_of_last hlast with ⟨hnil, -⟩ | ⟨path', hstep', hsearch⟩ | ⟨x, hstep', -⟩
    · cases hstep.symm.trans (step_of_nil hnil)
    · cases hstep.symm.trans hstep'
      exact hsearch
    · cases hstep.symm.trans hstep'
  | @exhausted s hreach hnil =>
    have hstep : step g estimate goal s = .ok .exhausted := step_of_nil hnil
    have hlast : ∀ s', ¬ Next g estimate goal s s' := by
      intro s' hnext
      cases hstep.symm.trans hnext
    rcases hreach.search_of_last hlast with ⟨-, hsearch⟩ | ⟨path', hstep', -⟩ | ⟨x, hstep', -⟩
    · exact hsearch
    · cases hstep.symm.trans hstep'
    · cases hstep.symm.trans hstep'

theorem Ends.visited_eq (h : Ends g estimate start goal answer settled) :
    ∀ path ∈ answer, path.visited = settled := by
  intro path hpath
  cases h with
  | arrived =>
    cases hpath
    rfl
  | exhausted => cases hpath

end Runs

section Ranked

variable [Cost W] [RankedCost W] {g : Graph ε W} {P : Nat → Prop} {estimate : Nat → Except ε W}
  {start goal : Nat} {s : State W}

theorem Reaches.opened (h : Reaches g estimate start goal s) (hg : g.Domain P) (hs : P start) :
    s.side.Opened g .outgoing (policy estimate) P start :=
  h.induct (M := fun s => s.side.Opened g .outgoing (policy estimate) P start)
    (fun rest _ => .inl ⟨rest, rfl⟩) fun _ _ _ hopened hnext =>
      .inr (hopened.advance (policy_strict _) (fun hu _ he => hg.stays hu he) hs
        (step_running hnext).1)

/-- A search that cannot fail comes to its goal, or to a state with nothing left. -/
theorem exists_last (hg : g.Domain P) (hs : P start)
    (hest : ∀ n, P n → ∃ rest, estimate n = .ok rest) :
    ∃ s, Reaches g estimate start goal s ∧ (s.frontier = [] ∨
      ∃ e rest, s.frontier = e :: rest ∧ isStale s.labels e = false ∧ e.node = goal) := by
  obtain ⟨rest, hrest⟩ := hest start hs
  have hinit : Reaches g estimate start goal (init start rest) := ⟨rest, hrest, .refl⟩
  obtain ⟨s, hreach, hend⟩ := search_induct hrest hinit fun _ _ h hnext => h.next (.single hnext)
  refine ⟨s, hreach, ?_⟩
  rcases hend with ⟨hnil, -⟩ | ⟨path, hstep, -⟩ | ⟨x, hstep, -⟩
  · exact .inl hnil
  · obtain ⟨e, rest, hf, hstale, hnode, -⟩ := step_arrived hstep
    exact .inr ⟨e, rest, hf, hstale, hnode⟩
  · have hentry : ∀ e ∈ s.frontier, P e.node := fun _ he => (hreach.opened hg hs).node_mem hs he
    exact absurd hstep (step_ne_error hentry hg hest x)

end Ranked

end RoadRouting.Search.BestFirst
