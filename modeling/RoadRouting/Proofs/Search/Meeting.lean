import RoadRouting.Proofs.Search.TwoSided

/-!
# The search from both ends between two steps

The best way joined is only touched when a side accepts an offer, and then only compared with what
the other side knows of that one node. Labels improve later, from either side and at the meeting node
as well. Between any two steps the best way joined nevertheless costs as much as the cheapest way
through any node, and the meeting node attains it.

* `Side.Labelled`, `Side.Awaits`: the nodes that a side knows, and those in its frontier.
* `State.through_lt_top_iff`: a way through a node is known once both sides know the node.
* `State.Coherent`: what the two sides and the best way joined have to do with each other.
* `exists_run`: what every step keeps holds after any number of steps.
* `coherent_after_any_steps`: no number of steps, and no sign of the weights, breaks coherence.
-/

namespace RoadRouting.Search.TwoSided

variable {ε W : Type}

/-! ## What waits on a side -/

namespace Side

section Entries

variable [Cost W] {g : Graph ε W} {d : Direction} {s s' : Side W}

/-- The side knows a way of finite cost to the node. -/
def Labelled (s : Side W) (n : Nat) : Prop := (s.labels.of n).cost < Cost.infinity

/-- The frontier holds an entry for the node with exactly the cost of its label. -/
def Awaits (s : Side W) (n : Nat) : Prop :=
  ⟨n, (s.labels.of n).cost, (s.labels.of n).cost⟩ ∈ s.frontier

/-- Entries are taken by their costs alone. -/
def Unestimated (s : Side W) : Prop := ∀ e ∈ s.frontier, e.total = e.cost

theorem unestimated_start (origin : Nat) : (start origin : Side W).Unestimated := by
  intro e he
  rw [List.mem_singleton.mp he]

theorem Unestimated.advance (h : s.Unestimated) (ha : Advance g d policy s s') :
    s'.Unestimated := by
  cases ha with
  | drop hf _ => exact fun x hx => h x (Frontier.mem_of_mem_rest hf hx)
  | @expand e rest es hf _ _ =>
    apply expand_induct (M := Unestimated)
    · exact fun x hx => h x (Frontier.mem_of_mem_rest hf hx)
    · intro s' hs' edge _ _ x hx
      rcases Frontier.mem_push.mp hx with rfl | hx
      · rfl
      · exact hs' x hx

end Entries

section Ranked

variable [Cost W] [RankedCost W] {g : Graph ε W} {d : Direction} {π : Policy W} {P : Nat → Prop}
  {origin n : Nat} {s : Side W}

/-- A side that was just started knows its origin alone. -/
theorem eq_of_labelled_start {t : W}
    (h : Labelled (⟨[⟨origin, 0, t⟩], .start origin⟩ : Side W) n) : n = origin := by
  by_contra hn
  rw [Labelled, Labels.of_start, if_neg (Ne.symm hn)] at h
  exact RankedCost.lt_irrefl _ h

theorem Opened.exists_entry (h : s.Opened g d π P origin) (hn : s.Labelled n)
    (hset : (s.labels.of n).settled = false) :
    ∃ e ∈ s.frontier, e.node = n ∧ e.cost = (s.labels.of n).cost := by
  rcases h with ⟨t, rfl⟩ | h
  · obtain rfl := eq_of_labelled_start hn
    refine ⟨_, List.mem_singleton_self _, rfl, ?_⟩
    show 0 = ((Labels.start n : Labels W).of n).cost
    rw [Labels.of_start, if_pos rfl]
    rfl
  · exact h.live hset hn

theorem Opened.awaits (h : s.Opened g d π P origin) (htotal : s.Unestimated) (hn : s.Labelled n)
    (hset : (s.labels.of n).settled = false) : s.Awaits n := by
  obtain ⟨⟨node, cost, total⟩, he, rfl, hcost⟩ := h.exists_entry hn hset
  obtain rfl : cost = (s.labels.of node).cost := hcost
  obtain rfl : total = (s.labels.of node).cost := htotal _ he
  exact he

end Ranked

end Side

/-! ## The best way joined -/

variable [LinearOrderedAddCommMonoidWithTop W] {g : Graph ε W} {P : Nat → Prop} {start goal n : Nat}
  {s s' : State W} {d : Direction}

theorem State.through_lt_top_iff : s.through n < ⊤ ↔ ∀ d, (s.side d).Labelled n := by
  have hsplit : s.through n < ⊤ ↔ s.forward.Labelled n ∧ s.backward.Labelled n :=
    Cost.add_lt_top_iff
  rw [hsplit]
  constructor
  · rintro ⟨hF, hB⟩ d
    cases d with
    | outgoing => exact hF
    | incoming => exact hB
  · exact fun h => ⟨h .outgoing, h .incoming⟩

/-- The best way joined is the cheapest that the two sides know together, it goes through the meeting
    node, and what a side has to settle waits for it. -/
structure State.Coherent (P : Nat → Prop) (s : State W) : Prop where
  /-- The best way joined costs what the cheapest way through any node costs. -/
  isLeast : IsLeast (Set.range s.through) s.best
  /-- The way through the meeting node costs no more. -/
  attained : ∀ m, s.meeting = some m → P m ∧ s.through m = s.best
  /-- Until some node is labelled on both sides, no meeting node is named. -/
  meeting_eq_none_iff : s.meeting = none ↔ ¬ ∃ n, ∀ d, (s.side d).Labelled n
  /-- Until then the best way joined costs infinity. -/
  best_eq_top_iff : s.best = ⊤ ↔ ¬ ∃ n, ∀ d, (s.side d).Labelled n
  /-- What is labelled and not settled waits under its present label. -/
  awaits : ∀ d n, (s.side d).Labelled n → ((s.side d).labels.of n).settled = false →
    (s.side d).Awaits n

namespace State.Joined

/-- No way through a node is cheaper than the best way joined, and one is as cheap: that through the
    meeting node, or any when there is none. -/
theorem isLeast (h : s.Joined g P start goal) : IsLeast (Set.range s.through) s.best := by
  have hlower : ∀ c ∈ Set.range s.through, s.best ≤ c := by
    rintro _ ⟨n, rfl⟩
    exact h.met.le_through n
  refine ⟨?_, hlower⟩
  cases hm : s.meeting with
  | none =>
    obtain ⟨hbest, -⟩ := h.met.unmet hm
    have htop : s.through start = ⊤ := top_le_iff.mp (hbest ▸ h.met.le_through start)
    exact ⟨start, by rw [htop, hbest]⟩
  | some m =>
    obtain ⟨-, hbest, -⟩ := h.met.attained hm
    exact ⟨m, hbest.symm⟩

/-- The two sides have met as soon as some way was joined. -/
theorem meeting_eq_none_iff [Nontrivial W] (h : s.Joined g P start goal) :
    s.meeting = none ↔ s.best = ⊤ := by
  constructor
  · exact fun hm => (h.met.unmet hm).1
  · intro hbest
    by_contra hm
    obtain ⟨m, hm⟩ := Option.ne_none_iff_exists'.mp hm
    exact absurd hbest (ne_of_lt (h.best_lt_top hm))

theorem best_eq_top_iff (h : s.Joined g P start goal) :
    s.best = ⊤ ↔ ¬ ∃ n, ∀ d, (s.side d).Labelled n := by
  obtain ⟨⟨m, hm⟩, hlower⟩ := h.isLeast
  constructor
  · rintro hbest ⟨n, hn⟩
    have hlt : s.best < ⊤ := lt_of_le_of_lt (h.met.le_through n) (through_lt_top_iff.mpr hn)
    exact ne_of_lt hlt hbest
  · intro hnone
    by_contra hbest
    rw [← hm] at hbest
    exact hnone ⟨m, through_lt_top_iff.mp (lt_top_iff_ne_top.mpr hbest)⟩

end State.Joined

/-! ## Any number of steps -/

/-- What holds of a state, and is kept by every step on the side that is chosen, holds after any number
    of steps. -/
theorem exists_run {M : State W → Prop} (hs : M s)
    (hnext : ∀ s d, M s → s.next? = some d → ∃ s', step g d s = .ok s' ∧ M s') (steps : Nat) :
    ∃ s', run g steps s = .ok s' ∧ M s' := by
  induction steps generalizing s with
  | zero => exact ⟨s, rfl, hs⟩
  | succ steps ih =>
    unfold run
    cases hd : s.next? with
    | none => exact ⟨s, rfl, hs⟩
    | some d =>
      obtain ⟨s₁, hstep, hs₁⟩ := hnext s d hs hd
      obtain ⟨s', hrun, hs'⟩ := ih hs₁
      refine ⟨s', ?_, hs'⟩
      show step g d s >>= run g steps = .ok s'
      rw [hstep]
      exact hrun

/-- Both sides are grown, their best way is joined, and nothing is estimated. -/
structure State.Unguided (g : Graph ε W) (P : Nat → Prop) (start goal : Nat) (s : State W) :
    Prop where
  joined : s.Joined g P start goal
  unestimated : ∀ d, (s.side d).Unestimated

namespace State.Unguided

theorem init (hid : ∀ n, P n → n ≠ noJoint) (hs : P start) :
    State.Unguided g P start goal (TwoSided.init start goal) where
  joined := .init hid hs
  unestimated d := by
    rw [State.side_init]
    exact Side.unestimated_start _

/-- A step on the side that is chosen does not fail, and keeps what holds. -/
theorem exists_next (h : s.Unguided g P start goal) (hg : g.Domain P)
    (hid : ∀ n, P n → n ≠ noJoint) (hP : ∀ d, P (origin start goal d)) (hd : s.next? = some d) :
    ∃ s', step g d s = .ok s' ∧ s'.Unguided g P start goal := by
  obtain ⟨s', hstep⟩ := TwoSided.exists_step hg
    (fun e he => (h.joined.grown d).node_mem (hP d) he) (frontier_ne_nil_of_next? hd)
  have hnext : Next g s s' := ⟨d, hd, hstep⟩
  refine ⟨s', hstep, h.joined.next hg hid hP hnext, fun d' => ?_⟩
  rcases hnext.side d' with hkeep | hadvance
  · rw [hkeep]
    exact h.unestimated d'
  · exact (h.unestimated d').advance hadvance

theorem coherent [Nontrivial W] (h : s.Unguided g P start goal) : s.Coherent P where
  isLeast := h.joined.isLeast
  attained m hm := by
    obtain ⟨hP, hbest, -⟩ := h.joined.met.attained hm
    exact ⟨hP, hbest.symm⟩
  meeting_eq_none_iff := h.joined.meeting_eq_none_iff.trans h.joined.best_eq_top_iff
  best_eq_top_iff := h.joined.best_eq_top_iff
  awaits d _ hn hset := (h.joined.grown d).opened.awaits (h.unestimated d) hn hset

end State.Unguided

/-- After any number of steps, those that only drop a stale entry included, the best way joined costs as
    much as the cheapest way through any node, the meeting node attains it, and every labelled node that
    is not settled waits under its present label. Weights may be of any sign. -/
theorem coherent_after_any_steps [Nontrivial W] (hg : g.Domain P) (hid : ∀ n, P n → n ≠ noJoint)
    (hs : P start) (ht : P goal) (steps : Nat) :
    ∃ s, run g steps (init start goal) = .ok s ∧ s.Coherent P := by
  have hkeep : ∀ s d, State.Unguided g P start goal s → s.next? = some d →
      ∃ s', step g d s = .ok s' ∧ s'.Unguided g P start goal :=
    fun s d h hd => h.exists_next hg hid (origin_mem hs ht) hd
  obtain ⟨s, hrun, h⟩ := exists_run (.init hid hs) hkeep steps
  exact ⟨s, hrun, h.coherent⟩

/-- The way through the meeting node becomes cheaper over an arc of negative weight, and the entry that
    the forward side takes next is stale. One more arc cannot be travelled. -/
theorem coherent_after_any_steps_detour :
    let g : Graph Empty (WithTop ℤ) := .ofArcs [(0, 1, (5 : ℤ)), (0, 2, (1 : ℤ)), (0, 4, (40 : ℤ)),
      (2, 1, (-3 : ℤ)), (1, 4, (10 : ℤ)), (4, 3, (10 : ℤ)), (0, 3, ⊤)]
    (run g 3 (init 0 3)).map (fun s => (s.best, s.meeting, s.visited)) = .ok ((50 : ℤ), some 4, 3) ∧
    (run g 4 (init 0 3)).map (fun s => (s.best, s.meeting, s.visited)) = .ok ((18 : ℤ), some 4, 4) ∧
    (run g 5 (init 0 3)).map (fun s => (s.best, s.meeting, s.visited)) = .ok ((18 : ℤ), some 4, 4) ∧
    ∀ steps, ∃ s, run g steps (init 0 3) = .ok s ∧ s.Coherent (· < 5) := by
  intro g
  have hid : ∀ n, n < 5 → n ≠ noJoint := by
    intro n hn
    rw [noJoint]
    omega
  exact ⟨rfl, rfl, rfl, fun steps =>
    coherent_after_any_steps (Graph.domain_ofArcs (by decide)) hid (by decide) (by decide) steps⟩

end RoadRouting.Search.TwoSided
