import RoadRouting.Proofs.Search.TwoSided

/-!
# What a path is made of

Whatever the costs are, and even if they obey no laws, the searches do not leave a domain of the
graph, so they always answer there. Two joints in a row of an answer are different nodes with an edge
between them, which is listed at one of its two ends.

* `Graph.Beside`: two different nodes with an edge from the one to the other.
* `BestFirst.search_isChain`, `TwoSided.search_isChain`: the joints of an answer in a row.
* `BestFirst.search_answers`, `TwoSided.search_answers`: no search fails or leaves the domain.
-/

namespace RoadRouting

variable {ε W : Type}

/-- Two different nodes of a set with an edge from the first to the second, listed at either
    end. -/
def Graph.Beside (g : Graph ε W) (P : Nat → Prop) (a b : Nat) : Prop :=
  P a ∧ P b ∧ a ≠ b ∧
    ((∃ e ∈ g.edgesOrNone .outgoing a, e.target = b) ∨
      ∃ e ∈ g.edgesOrNone .incoming b, e.target = a)

namespace Search

open TwoSided (Side)

variable [Cost W] {g : Graph ε W} {P : Nat → Prop} {start goal : Nat} {path : Path W}

namespace TwoSided.Side.Linked

variable {s : Side W} {d : Direction}

theorem init (d : Direction) {origin : Nat} (ho : P origin) (t : W) :
    Linked g d P ⟨[⟨origin, 0, t⟩], .start origin⟩ where
  entry e he := by
    rw [List.mem_singleton.mp he]
    exact ho
  parent {n p} hp := by
    rw [Labels.of_start] at hp
    split at hp <;> cases hp

/-- The way back does not leave the set. -/
theorem mem_of_mem_trail (h : s.Linked g d P) {n m : Nat} (hn : P n)
    (hm : m ∈ n :: s.labels.trail n) : P m :=
  (s.labels.isChain_trail n).induction P _ (fun _ _ hp _ => (h.parent hp).1) (fun _ => hn) m hm

/-- The way back on the forward side, read forwards. -/
theorem isChain_outgoing (h : s.Linked g .outgoing P) (n : Nat) :
    (n :: s.labels.trail n).reverse.IsChain (g.Beside P) := by
  rw [List.isChain_reverse]
  refine (s.labels.isChain_trail n).imp fun child p hp => ?_
  obtain ⟨hPp, hPn, hne, hedge⟩ := h.parent hp
  exact ⟨hPp, hPn, hne, .inl hedge⟩

/-- The way back on the backward side leads on to the goal. -/
theorem isChain_incoming (h : s.Linked g .incoming P) (n : Nat) :
    (n :: s.labels.trail n).IsChain (g.Beside P) := by
  refine (s.labels.isChain_trail n).imp fun child p hp => ?_
  obtain ⟨hPp, hPn, hne, hedge⟩ := h.parent hp
  exact ⟨hPn, hPp, hne.symm, .inr hedge⟩

end TwoSided.Side.Linked

/-! ## Best-first search -/

namespace BestFirst

variable {estimate : Nat → Except ε W} {s : State W}

/-- A search ends with parents joined to their children. -/
theorem search_linked (goal : Nat) (hg : g.Domain P) (hs : P start) {rest : W}
    (hrest : estimate start = .ok rest) :
    ∃ s, s.side.Linked g .outgoing P ∧
      ((s.frontier = [] ∧ search g estimate start goal = .ok none) ∨
      (∃ path, step g estimate goal s = .ok (.arrived path) ∧
        search g estimate start goal = .ok (some path)) ∨
      ∃ x, step g estimate goal s = .error x ∧ search g estimate start goal = .error x) :=
  search_induct hrest (.init .outgoing hs rest) fun _ _ hlinked hnext =>
    hlinked.advance hg (step_running hnext).1

theorem search_isChain (hg : g.Domain P) (hs : P start)
    (h : search g estimate start goal = .ok (some path)) :
    path.joints.IsChain (g.Beside P) := by
  cases hrest : estimate start with
  | error x =>
    rw [search, hrest] at h
    cases h
  | ok rest =>
    obtain ⟨s, hlinked, hend⟩ := search_linked goal hg hs hrest
    rw [h] at hend
    rcases hend with ⟨-, hend⟩ | ⟨path', hstep, hend⟩ | ⟨x, -, hend⟩
    · cases hend
    · cases hend
      obtain ⟨e, rest, hf, -, rfl, hjoints, -⟩ := step_arrived hstep
      rw [hjoints]
      exact (hlinked.settle hf).isChain_outgoing e.node
    · cases hend

/-- The search answers as long as estimates do not fail, and its path stays in the domain. -/
theorem search_answers (hg : g.Domain P) (hs : P start)
    (hest : ∀ n, P n → ∃ rest, estimate n = .ok rest) :
    ∃ answer, search g estimate start goal = .ok answer ∧
      ∀ path ∈ answer, ∀ n ∈ path.joints, P n := by
  obtain ⟨rest, hrest⟩ := hest start hs
  obtain ⟨s, hlinked, hend⟩ := search_linked goal hg hs hrest
  rcases hend with ⟨-, hsearch⟩ | ⟨path, hstep, hsearch⟩ | ⟨x, hstep, -⟩
  · exact ⟨none, hsearch, fun _ h => nomatch h⟩
  · refine ⟨some path, hsearch, ?_⟩
    intro path' hpath n hn
    obtain rfl := Option.some.inj hpath
    obtain ⟨e, rest, hf, -, rfl, hjoints, -⟩ := step_arrived hstep
    rw [hjoints, pathTo, List.mem_reverse] at hn
    have he : P e.node := hlinked.entry e (Frontier.front_mem hf)
    exact (hlinked.settle hf).mem_of_mem_trail he hn
  · exact absurd hstep (step_ne_error hlinked.entry hg hest x)

end BestFirst

theorem dijkstra_isChain (hg : g.Domain P) (hs : P start)
    (h : dijkstra g start goal = .ok (some path)) : path.joints.IsChain (g.Beside P) :=
  BestFirst.search_isChain hg hs h

/-! ## Search from both ends -/

namespace TwoSided

variable {s s' : State W} {d : Direction} {via : Entry W} {edge : Edge W} {m : Nat}

theorem meeting_init (h : (init start goal : State W).meeting = some m) : start = m ∧ goal = m := by
  unfold init at h
  dsimp only at h
  split at h
  case isTrue heq =>
    obtain rfl := eq_of_named? h
    exact ⟨rfl, heq.symm⟩
  case isFalse => cases h

/-- The meeting node moves only to a node with a better way through it. -/
theorem State.meeting_join {n : Nat} {total : W} (h : (s.join n total).meeting = some m) :
    s.meeting = some m ∨ (n = m ∧ total < s.best) := by
  unfold join at h
  split at h
  case isTrue hlt => exact .inr ⟨eq_of_named? h, hlt⟩
  case isFalse => exact .inl h

theorem meeting_relax (h : (relax d via s edge).meeting = some m) :
    s.meeting = some m ∨ edge.target = m := by
  rw [relax_eq] at h
  split at h
  · refine (State.meeting_join h).imp (fun h => ?_) And.left
    rwa [State.meeting_withSide] at h
  · exact .inl h

/-- A step moves the meeting node to the far end of an edge it follows. -/
theorem meeting_step (hs : (s.side d).frontier ≠ []) (h : step g d s = .ok s')
    (hm : s'.meeting = some m) : s.meeting = some m ∨
      ∃ e ∈ (s.side d).frontier, ∃ edge ∈ g.edgesOrNone d e.node, edge.target = m := by
  revert m
  refine step_induct (M := fun t => ∀ {m}, t.meeting = some m → s.meeting = some m ∨
    ∃ e ∈ (s.side d).frontier, ∃ edge ∈ g.edgesOrNone d e.node, edge.target = m) hs h ?drop ?settle
    ?relax ?visited
  case drop => exact fun _ _ _ _ hm => .inl (s.meeting_withSide d _ ▸ hm)
  case settle => exact fun _ _ _ _ hm => .inl (s.meeting_withSide d _ ▸ hm)
  case relax =>
    intro e he edge hedge t ht m hm
    rcases meeting_relax hm with hm | rfl
    · exact ht hm
    · exact .inr ⟨e, he, edge, hedge, rfl⟩
  case visited => exact fun _ _ ht => ht

/-- On both sides parents are joined to their children, and the two sides meet in the set. -/
structure State.Within (g : Graph ε W) (P : Nat → Prop) (s : State W) : Prop where
  linked : ∀ d, (s.side d).Linked g d P
  meeting : ∀ {m}, s.meeting = some m → P m

namespace State.Within

theorem init (hs : P start) (ht : P goal) : State.Within g P (TwoSided.init start goal) where
  linked d := by
    cases d with
    | outgoing => exact .init .outgoing hs 0
    | incoming => exact .init .incoming ht 0
  meeting {m} hm := by
    obtain ⟨rfl, -⟩ := meeting_init hm
    exact hs

theorem next (h : s.Within g P) (hg : g.Domain P) (hnext : Next g s s') : s'.Within g P where
  linked d := by
    rcases hnext.side d with hkeep | hadvance
    · rw [hkeep]
      exact h.linked d
    · exact (h.linked d).advance hg hadvance
  meeting {m} hm := by
    obtain ⟨d, hd, hstep⟩ := hnext
    rcases meeting_step (frontier_ne_nil_of_next? hd) hstep hm with hm | ⟨e, he, edge, hedge, rfl⟩
    · exact h.meeting hm
    · exact hg.stays ((h.linked d).entry e he) hedge

end State.Within

/-- In the domain of the graph the search ends once no side is chosen, and does not fail. What holds
    before the first step and is kept by every step holds at the end. -/
theorem search_induct {M : State W → Prop} (hg : g.Domain P) (hs : P start) (ht : P goal)
    (hinit : M (init start goal))
    (hnext : ∀ s s', s.Within g P → M s → Next g s s' → M s') :
    ∃ s, State.Within g P s ∧ M s ∧ s.next? = none ∧ search g start goal =
      .ok (s.meeting.map fun m => ⟨s.pathVia m, s.best, s.visited⟩) := by
  obtain ⟨s, hreach, hend⟩ := run_spec (budget_init (g := g) (W := W) start goal)
  have hinv : s.Within g P ∧ M s := by
    clear hend
    induction hreach with
    | refl => exact ⟨.init hs ht, hinit⟩
    | tail _ hstep ih => exact ⟨ih.1.next hg hstep, hnext _ _ ih.1 ih.2 hstep⟩
  obtain ⟨hwithin, hM⟩ := hinv
  rcases hend with ⟨hstop, hrun⟩ | ⟨d, x, hd, hstep, -⟩
  · refine ⟨s, hwithin, hM, hstop, ?_⟩
    rw [search, hrun]
    rfl
  · obtain ⟨s', hok⟩ := exists_step hg (hwithin.linked d).entry (frontier_ne_nil_of_next? hd)
    cases hstep.symm.trans hok

theorem search_within (hg : g.Domain P) (hs : P start) (ht : P goal) :
    ∃ s, State.Within g P s ∧ search g start goal =
      .ok (s.meeting.map fun m => ⟨s.pathVia m, s.best, s.visited⟩) := by
  obtain ⟨s, hwithin, -, -, hsearch⟩ :=
    search_induct (M := fun _ => True) hg hs ht trivial fun _ _ _ _ _ => trivial
  exact ⟨s, hwithin, hsearch⟩

theorem search_isChain (hg : g.Domain P) (hs : P start) (ht : P goal)
    (h : search g start goal = .ok (some path)) : path.joints.IsChain (g.Beside P) := by
  obtain ⟨s, hwithin, hsearch⟩ := search_within hg hs ht
  rw [h] at hsearch
  obtain ⟨m, -, rfl⟩ := Option.map_eq_some_iff.mp (Except.ok.inj hsearch.symm)
  have hF := (hwithin.linked .outgoing).isChain_outgoing m
  have hB := (hwithin.linked .incoming).isChain_incoming m
  rw [List.reverse_cons] at hF
  exact List.isChain_split.mpr ⟨hF, hB⟩

/-- The search answers, and its path stays in the domain. -/
theorem search_answers (hg : g.Domain P) (hs : P start) (ht : P goal) :
    ∃ answer, search g start goal = .ok answer ∧ ∀ path ∈ answer, ∀ n ∈ path.joints, P n := by
  obtain ⟨s, hwithin, hsearch⟩ := search_within hg hs ht
  refine ⟨_, hsearch, fun path hpath n hn => ?_⟩
  obtain ⟨m, hmeet, rfl⟩ := Option.map_eq_some_iff.mp (Option.mem_def.mp hpath)
  have hm := hwithin.meeting hmeet
  have hn' : n ∈ (s.forward.labels.trail m).reverse ++ m :: s.backward.labels.trail m := hn
  rw [List.mem_append, List.mem_reverse] at hn'
  rcases hn' with hn | hn
  · exact (hwithin.linked .outgoing).mem_of_mem_trail hm (List.mem_cons_of_mem m hn)
  · exact (hwithin.linked .incoming).mem_of_mem_trail hm hn

end TwoSided

end Search

end RoadRouting
