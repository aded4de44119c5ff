import Mathlib.Data.ENat.Basic
import RoadRouting.Proofs.Cost.WithNaN
import RoadRouting.Proofs.Result
import RoadRouting.Proofs.Search.Paths

/-!
# Edges whose weight is no number

Dijkstra's search accepts an offer only if it is cheaper, so never one over an edge whose weight is no
number. Among all values it runs like the search of a graph that has only the other edges, step by
step.

The search from both ends refuses an offer only if it costs no less than the way known. An offer over
an edge whose weight is no number is accepted, and what was known of the far end is forgotten. What it
answers still weighs as much as some walk over the other edges, but it may miss every way.

* `BestFirst.search_lifts`: the best-first search does not see edges whose weight is no number.
* `TwoSided.search_weight`: a weight found from both ends is that of a walk over the other edges.
* `ignores_not_numbers`: what both searches find in a graph, and what its other edges are worth.
* `TwoSided.search_loses_the_way`: the search from both ends finds less than without these edges.
-/

namespace RoadRouting.Search

variable {ε W : Type} {first : Bool}

/-! ## Numbers among all values -/

/-- The label with its cost among all values. -/
def Label.lift (l : Label W) : Label (WithNaN first W) := ⟨.number l.cost, l.parent, l.settled⟩

/-- The entry with its costs among all values. -/
def Entry.lift (e : Entry W) : Entry (WithNaN first W) := ⟨e.node, .number e.cost, .number e.total⟩

/-- The path with its weight among all values. -/
def Path.lift (p : Path W) : Path (WithNaN first W) := ⟨p.joints, .number p.weight, p.visited⟩

/-- Both labels tell the same of every node. -/
structure Labels.Lifts (labels : Labels W) (labels' : Labels (WithNaN first W)) : Prop where
  get : ∀ n : Nat, labels'[n]? = labels[n]?.map Label.lift
  size : labels'.size = labels.size

namespace Labels.Lifts

variable {labels : Labels W} {labels' : Labels (WithNaN first W)}

theorem insert (h : labels.Lifts labels') (n : Nat) (l : Label W) :
    Labels.Lifts (labels.insert n l) (labels'.insert n l.lift) where
  get m := by
    rw [Std.TreeMap.getElem?_insert, Std.TreeMap.getElem?_insert, h.get]
    split <;> rfl
  size := by
    rw [Std.TreeMap.size_insert, Std.TreeMap.size_insert, h.size,
      Std.TreeMap.contains_eq_isSome_getElem?, Std.TreeMap.contains_eq_isSome_getElem?, h.get,
      Option.isSome_map]

theorem trail (h : labels.Lifts labels') (n : Nat) : labels'.trail n = labels.trail n := by
  have hclimb : ∀ steps n, labels'.climb steps n = labels.climb steps n := by
    intro steps
    induction steps with
    | zero => exact fun n => rfl
    | succ steps ih =>
      intro n
      rw [Labels.climb, Labels.climb, h.get]
      cases labels[n]? with
      | none => rfl
      | some label =>
        obtain ⟨cost, parent, settled⟩ := label
        cases parent with
        | none => rfl
        | some p => simp [Label.lift, ih]
  rw [Labels.trail, Labels.trail, h.size, hclimb]

variable [Cost W]

theorem of (h : labels.Lifts labels') (n : Nat) : labels'.of n = (labels.of n).lift := by
  rw [Labels.of, Labels.of, Std.TreeMap.getD_eq_getD_getElem?, Std.TreeMap.getD_eq_getD_getElem?,
    h.get]
  cases labels[n]? <;> rfl

theorem start (origin : Nat) :
    Labels.Lifts (Labels.start origin : Labels W) (Labels.start origin : Labels (WithNaN first W)) := by
  have hempty : Labels.Lifts (∅ : Labels W) (∅ : Labels (WithNaN first W)) :=
    ⟨fun n => by simp, rfl⟩
  exact hempty.insert origin .origin

end Labels.Lifts

section Frontiers

variable [Cost W]

theorem Entry.order_lift (a b : Entry W) :
    (a.lift : Entry (WithNaN first W)).order b.lift = a.order b := rfl

theorem Frontier.push_lift (e : Entry W) (f : Frontier W) :
    Frontier.push (e.lift : Entry (WithNaN first W)) (f.map Entry.lift) =
      (Frontier.push e f).map Entry.lift := by
  induction f with
  | nil => rfl
  | cons x f ih =>
    rw [List.map_cons, Frontier.push, Frontier.push, Entry.order_lift]
    split
    · rw [ih, List.map_cons]
    · rfl

end Frontiers

/-! ## Best-first search -/

namespace BestFirst

/-- Both states hold the same. -/
structure State.Lifts (s : State W) (s' : State (WithNaN first W)) : Prop where
  frontier : s'.frontier = s.frontier.map Entry.lift
  labels : s.labels.Lifts s'.labels
  visited : s'.visited = s.visited

/-- Both steps lead to the same. -/
inductive Progress.Lifts : Progress W → Progress (WithNaN first W) → Prop
  | running {s : State W} {s' : State (WithNaN first W)} : s.Lifts s' →
      Lifts (.running s) (.running s')
  | arrived (path : Path W) : Lifts (.arrived path) (.arrived path.lift)
  | exhausted : Lifts .exhausted .exhausted

/-- The estimates among all values. -/
def liftEstimate (first : Bool) (estimate : Nat → Except ε W) (n : Nat) :
    Except ε (WithNaN first W) :=
  (estimate n).map .number

variable [Cost W] {g : Graph ε (WithNaN first W)} {estimate : Nat → Except ε W} {goal : Nat}
  {s : State W} {s' : State (WithNaN first W)} {e via : Entry W} {rest : Frontier W}

/-- An offer over an edge whose weight is no number is not accepted. -/
theorem relax_nan (estimate : Nat → Except ε (WithNaN first W)) (via : Entry (WithNaN first W))
    (s : State (WithNaN first W)) (v : Nat) : relax estimate via s ⟨v, .nan⟩ = .ok s := by
  have hnot : ∀ c, ¬ via.cost + .nan < c := by
    intro c hlt
    obtain ⟨x, y, hsum, -⟩ := WithNaN.lt_iff.mp hlt
    obtain ⟨_, _, -, hnan, -⟩ := WithNaN.add_eq_number_iff.mp hsum
    cases hnan
  unfold relax
  exact if_neg fun h => hnot _ h.2

theorem relax_lifts (h : s.Lifts s') (via : Entry W) (edge : Edge W) :
    Alongside State.Lifts (relax estimate via s edge)
      (relax (liftEstimate first estimate) via.lift s' ⟨edge.target, .number edge.weight⟩) := by
  have hadmits : ((s'.labels.of edge.target).settled = false ∧
      via.lift.cost + .number edge.weight < (s'.labels.of edge.target).cost) ↔
      ((s.labels.of edge.target).settled = false ∧
        via.cost + edge.weight < (s.labels.of edge.target).cost) := by
    simp [h.labels.of, Label.lift, Entry.lift]
  unfold relax
  simp only [hadmits]
  split
  case isTrue =>
    rw [liftEstimate]
    cases estimate edge.target with
    | error x => exact .error x
    | ok rest =>
      refine .ok ⟨?_, h.labels.insert _ _, h.visited⟩
      let accepted : Entry W :=
        ⟨edge.target, via.cost + edge.weight, via.cost + edge.weight + rest⟩
      rw [h.frontier]
      exact Frontier.push_lift accepted s.frontier
  case isFalse => exact .ok h

/-- The offers over all edges come to those over the edges whose weight is a number. -/
theorem foldlM_relax_lifts (h : s.Lifts s') (via : Entry W) (es : List (Edge (WithNaN first W))) :
    Alongside State.Lifts ((es.filterMap Edge.number?).foldlM (relax estimate via) s)
      (es.foldlM (relax (liftEstimate first estimate) via.lift) s') := by
  induction es generalizing s s' with
  | nil => exact .ok h
  | cons edge es ih =>
    obtain ⟨v, w⟩ := edge
    cases w with
    | nan =>
      rw [List.foldlM_cons, relax_nan]
      exact ih h
    | number w =>
      rw [List.filterMap_cons_some (Edge.number?_number v w), List.foldlM_cons, List.foldlM_cons]
      exact (relax_lifts h via ⟨v, w⟩).bind fun _ _ h => ih h

theorem settle_lifts (h : s.Lifts s') (e : Entry W) (rest : Frontier W) :
    (settle s e rest).Lifts (settle s' e.lift (rest.map Entry.lift)) where
  frontier := rfl
  labels := by
    have hlabel : { s'.labels.of e.node with settled := true } =
        ({ s.labels.of e.node with settled := true } : Label W).lift := by
      rw [h.labels.of]
      rfl
    show Labels.Lifts _ (s'.labels.insert e.node { s'.labels.of e.node with settled := true })
    rw [hlabel]
    exact h.labels.insert _ _
  visited := by
    show s'.visited + 1 = s.visited + 1
    rw [h.visited]

theorem step_lifts (h : s.Lifts s') : Alongside Progress.Lifts (step g.numbers estimate goal s)
    (step g (liftEstimate first estimate) goal s') := by
  unfold step
  rw [h.frontier]
  cases s.frontier with
  | nil => exact .ok .exhausted
  | cons e rest =>
    have hstale : isStale s'.labels e.lift = isStale s.labels e := by
      simp [isStale, h.labels.of, Label.lift, Entry.lift]
    have hsettle := settle_lifts h e rest
    have hnode : (e.lift : Entry (WithNaN first W)).node = e.node := rfl
    simp only [List.map_cons, hstale, hnode]
    split
    · exact .ok (.running ⟨rfl, h.labels, h.visited⟩)
    · split
      · have hpath : (⟨pathTo (settle s' e.lift (rest.map Entry.lift)).labels goal, e.lift.cost,
            (settle s' e.lift (rest.map Entry.lift)).visited⟩ : Path (WithNaN first W)) =
            Path.lift ⟨pathTo (settle s e rest).labels goal, e.cost, (settle s e rest).visited⟩ := by
          rw [pathTo, hsettle.labels.trail, hsettle.visited]
          rfl
        rw [hpath]
        exact .ok (.arrived _)
      · have hedges : g.numbers.edges .outgoing e.node =
            (g.edges .outgoing e.node).map (List.filterMap Edge.number?) := rfl
        rw [hedges]
        cases g.edges .outgoing e.node with
        | error x => exact .error x
        | ok es =>
          exact (foldlM_relax_lifts hsettle e es).bind fun _ _ h => .ok (.running h)

theorem run_lifts (h : s.Lifts s') (steps : Nat) :
    run g (liftEstimate first estimate) goal steps s' =
      (run g.numbers estimate goal steps s).map (Option.map Path.lift) := by
  induction steps generalizing s s' with
  | zero => rfl
  | succ steps ih =>
    have hstep : Alongside Progress.Lifts (step g.numbers estimate goal s)
        (step g (liftEstimate first estimate) goal s') := step_lifts h
    rw [run, run]
    generalize step g.numbers estimate goal s = x, step g (liftEstimate first estimate) goal s' = x'
      at hstep
    cases hstep with
    | error x => rfl
    | ok hprogress =>
      cases hprogress with
      | running h => exact ih h
      | arrived path => rfl
      | exhausted => rfl

/-- Edges whose weight is no number make no difference to the search, as long as estimates are
    numbers. -/
theorem search_lifts (g : Graph ε (WithNaN first W)) (estimate : Nat → Except ε W)
    (start goal : Nat) : search g (liftEstimate first estimate) start goal =
      (search g.numbers estimate start goal).map (Option.map Path.lift) := by
  rw [search, search, liftEstimate]
  cases estimate start with
  | error x => rfl
  | ok rest =>
    have hinit : (init start rest).Lifts (init start (.number rest : WithNaN first W)) :=
      ⟨rfl, .start start, rfl⟩
    have hbound : stepBound g.numbers ≤ stepBound g :=
      Nat.add_le_add_left (Graph.edgeCount_numbers_le g .outgoing) 1
    show run g (liftEstimate first estimate) goal (stepBound g) (init start (.number rest)) =
      (run g.numbers estimate goal (stepBound g.numbers) (init start rest)).map _
    rw [run_lifts hinit, run_of_le (budget_init start rest) hbound]

end BestFirst

/-! ## Search from both ends -/

namespace TwoSided

variable [LinearOrderedAddCommMonoidWithTop W] {g : Graph ε (WithNaN first W)} {P : Nat → Prop}
  {start goal : Nat} {d : Direction}

/-- The value is no number, or the cost of a walk to the node over edges whose weight is a number. -/
def Told (g : Graph ε (WithNaN first W)) (d : Direction) (origin n : Nat) (value : WithNaN first W) :
    Prop :=
  ∀ {c}, value = .number c → ∃ nodes, g.numbers.Walk d origin nodes n c

theorem Told.origin (g : Graph ε (WithNaN first W)) (d : Direction) (n : Nat) :
    Told g d n n (.number 0) := by
  intro c hc
  obtain rfl : 0 = c := WithNaN.number.inj hc
  exact ⟨_, .here⟩

/-- An offer whose cost is a number tells a walk. -/
theorem Told.over {origin : Nat} {via : Entry (WithNaN first W)} {edge : Edge (WithNaN first W)}
    (h : Told g d origin via.node via.cost) (hedge : edge ∈ g.edgesOrNone d via.node) :
    Told g d origin edge.target (via.cost + edge.weight) := by
  intro c hc
  obtain ⟨x, w, hx, hw, rfl⟩ := WithNaN.add_eq_number_iff.mp hc
  obtain ⟨nodes, hwalk⟩ := h hx
  obtain ⟨v, _⟩ := edge
  cases hw
  exact ⟨_, .step hwalk (Graph.mem_edgesOrNone_numbers.mpr hedge)⟩

/-- What a side knows is told by walks, but for the infinite cost of a node not met. -/
structure Side.Sound (g : Graph ε (WithNaN first W)) (d : Direction) (origin : Nat)
    (s : Side (WithNaN first W)) : Prop where
  entry : ∀ e ∈ s.frontier, Told g d origin e.node e.cost
  label : ∀ {n}, (s.labels.of n).cost ≠ .number ⊤ → Told g d origin n (s.labels.of n).cost

namespace Side.Sound

variable {origin : Nat} {s : Side (WithNaN first W)} {e via : Entry (WithNaN first W)}
  {rest : Frontier (WithNaN first W)} {edge : Edge (WithNaN first W)}

theorem init (g : Graph ε (WithNaN first W)) (d : Direction) (origin : Nat) :
    (Side.start origin).Sound g d origin where
  entry e he := by
    rw [List.mem_singleton.mp he]
    exact Told.origin g d origin
  label {n} hfin := by
    rw [Side.start, Labels.of_start] at hfin ⊢
    split
    case isTrue hn =>
      rw [← hn]
      exact Told.origin g d origin
    case isFalse hn =>
      rw [if_neg hn] at hfin
      exact absurd rfl hfin

theorem drop (h : s.Sound g d origin) (hf : s.frontier = e :: rest) :
    Sound g d origin ⟨rest, s.labels⟩ where
  entry x hx := h.entry x (Frontier.mem_of_mem_rest hf hx)
  label := h.label

theorem settle (h : s.Sound g d origin) (hf : s.frontier = e :: rest) :
    (s.settle e rest).Sound g d origin where
  entry := (h.drop hf).entry
  label hfin := by
    rw [cost_of_settle] at hfin ⊢
    exact h.label hfin

theorem accept (h : s.Sound g d origin) (hvia : Told g d origin via.node via.cost)
    (hedge : edge ∈ g.edgesOrNone d via.node) (π : Policy (WithNaN first W)) :
    (s.accept π via edge).Sound g d origin where
  entry x hx := by
    rcases Frontier.mem_push.mp hx with rfl | hx
    · exact hvia.over hedge
    · exact h.entry x hx
  label {n} hfin := by
    rw [of_accept] at hfin ⊢
    split
    case isTrue hn =>
      rw [← hn]
      exact hvia.over hedge
    case isFalse hn =>
      rw [if_neg hn] at hfin
      exact h.label hfin

end Side.Sound

/-- Both sides are sound, and once they have met, the best way joined costs what some walk costs over
    edges whose weight is a number. -/
structure State.Sound (g : Graph ε (WithNaN first W)) (start goal : Nat)
    (s : State (WithNaN first W)) : Prop where
  side : ∀ d, (s.side d).Sound g d (origin start goal d)
  best : s.meeting ≠ none → ∃ c, s.best = .number c ∧ (start = goal ∨ c < ⊤) ∧
    ∃ nodes, g.numbers.Walk .outgoing start nodes goal c

namespace State.Sound

variable {s s' : State (WithNaN first W)} {via : Entry (WithNaN first W)}
  {edge : Edge (WithNaN first W)}

theorem init (g : Graph ε (WithNaN first W)) (start goal : Nat) :
    State.Sound g start goal (TwoSided.init start goal) where
  side d := by
    rw [State.side_init]
    exact .init g d _
  best hmeet := by
    by_cases heq : start = goal
    · subst heq
      have hbest : (TwoSided.init start start : State (WithNaN first W)).best = .number 0 := if_pos rfl
      exact ⟨0, hbest, .inl rfl, _, .here⟩
    · rw [TwoSided.init, if_neg heq] at hmeet
      exact absurd rfl hmeet

theorem withSide (h : s.Sound g start goal) {x : Side (WithNaN first W)}
    (hx : x.Sound g d (origin start goal d)) : (s.withSide d x).Sound g start goal where
  side d' := by
    cases d <;> cases d' <;> first | exact hx | exact h.side _
  best hmeet := by
    rw [State.meeting_withSide] at hmeet
    rw [State.best_withSide]
    exact h.best hmeet

theorem join (h : s.Sound g start goal) (n : Nat) {total : WithNaN first W}
    (hway : ∀ {c}, total = .number c → c < ⊤ →
      ∃ nodes, g.numbers.Walk .outgoing start nodes goal c) :
    (s.join n total).Sound g start goal where
  side d := by
    rw [State.side_join]
    exact h.side d
  best hmeet := by
    unfold State.join at hmeet ⊢
    split
    case isTrue hlt =>
      -- only a number is below another value, and it is below the top
      obtain ⟨c, known, rfl, -, hbelow⟩ := WithNaN.lt_iff.mp hlt
      have hfin : c < ⊤ := lt_of_lt_of_le hbelow le_top
      exact ⟨c, rfl, .inr hfin, hway rfl hfin⟩
    case isFalse hnot =>
      rw [if_neg hnot] at hmeet
      exact h.best hmeet

/-- A way joined costs what its two parts cost. -/
theorem joined (hg : g.Domain P) (hm : g.Mirrored P) (hs : P start) (ht : P goal) {n : Nat}
    {a b : W} (hown : ∃ nodes, g.numbers.Walk d (origin start goal d) nodes n a)
    (hother : ∃ nodes, g.numbers.Walk d.opposite (origin start goal d.opposite) nodes n b) :
    ∃ nodes, g.numbers.Walk .outgoing start nodes goal (a + b) := by
  obtain ⟨_, hown⟩ := hown
  obtain ⟨_, hother⟩ := hother
  cases d with
  | outgoing => exact ⟨_, Graph.Walk.glue hg.numbers hm.numbers hs ht hother hown⟩
  | incoming =>
    rw [add_comm]
    exact ⟨_, Graph.Walk.glue hg.numbers hm.numbers hs ht hown hother⟩

theorem relax (h : s.Sound g start goal) (hg : g.Domain P) (hm : g.Mirrored P) (hs : P start)
    (ht : P goal) (hvia : Told g d (origin start goal d) via.node via.cost)
    (hedge : edge ∈ g.edgesOrNone d via.node) : (relax d via s edge).Sound g start goal := by
  rw [relax_eq]
  split
  case isFalse => exact h
  case isTrue =>
    refine (h.withSide ((h.side d).accept hvia hedge policy)).join _ fun htotal hfin => ?_
    obtain ⟨a, b, ha, hb, rfl⟩ := WithNaN.add_eq_number_iff.mp htotal
    have hother : ((s.side d.opposite).labels.of edge.target).cost ≠ .number ⊤ := by
      rw [hb]
      exact fun htop => ne_of_lt (Cost.add_lt_top_iff.mp hfin).2 (WithNaN.number.inj htop)
    exact joined hg hm hs ht (hvia.over hedge ha) ((h.side d.opposite).label hother hb)

theorem next (h : s.Sound g start goal) (hg : g.Domain P) (hm : g.Mirrored P) (hs : P start)
    (ht : P goal) (hnext : Next g s s') : s'.Sound g start goal := by
  obtain ⟨d, hd, hstep⟩ := hnext
  refine step_induct (frontier_ne_nil_of_next? hd) hstep ?drop ?settle ?relax ?visited
  case drop => exact fun _ _ hf => h.withSide ((h.side d).drop hf)
  case settle => exact fun _ _ hf => h.withSide ((h.side d).settle hf)
  case relax =>
    exact fun e he edge hedge t hsound => hsound.relax hg hm hs ht ((h.side d).entry e he) hedge
  case visited => exact fun t _ hsound => ⟨fun d => by cases d <;> exact hsound.side _, hsound.best⟩

end State.Sound

/-- The search from both ends answers, and a weight it finds is that of a walk over edges whose weight
    is a number. -/
theorem search_weight (hg : g.Domain P) (hm : g.Mirrored P) (hs : P start) (ht : P goal) :
    ∃ answer, search g start goal = .ok answer ∧ ∀ path ∈ answer,
      ∃ c, path.weight = .number c ∧ (start = goal ∨ c < ⊤) ∧
        ∃ nodes, g.numbers.Walk .outgoing start nodes goal c := by
  obtain ⟨s, -, hsound, -, hsearch⟩ :=
    search_induct hg hs ht (.init g start goal) fun s s' _ (h : s.Sound g start goal) hnext =>
      h.next hg hm hs ht hnext
  refine ⟨_, hsearch, fun path hpath => ?_⟩
  obtain ⟨m, hmeet, rfl⟩ := Option.map_eq_some_iff.mp (Option.mem_def.mp hpath)
  exact hsound.best (by rw [hmeet]; exact Option.some_ne_none m)

/-- The walk need not be a cheapest one, also if what is no number comes last in a frontier: both sides
    have forgotten what their parts of the way of weight `4` cost when these could be joined. -/
example :
    let g : Graph Empty (WithNaN false ℕ∞) := .ofArcs [(0, 1, .number 1), (0, 1, .nan),
      (1, 2, .number 2), (2, 3, .number 1), (2, 3, .nan), (0, 3, .number 5)]
    search g 0 3 = .ok (some ⟨[0, 3], .number 5, 4⟩) ∧
      search g.numbers 0 3 = .ok (some ⟨[0, 1, 2, 3], 4, 3⟩) := ⟨rfl, rfl⟩

end TwoSided

/-! ## Both searches -/

/-- Dijkstra's search finds a cheapest walk over the edges whose weight is a number, as if there were no
    others. What the search from both ends finds weighs as much as one of these walks, and it finds
    nothing where there is none. -/
theorem ignores_not_numbers [LinearOrderedAddCommMonoidWithTop W] {g : Graph ε (WithNaN first W)}
    {P : Nat → Prop} {start goal : Nat} (hg : g.Domain P) (hm : g.Mirrored P)
    (hw : g.numbers.NonNegative P) (hid : ∀ n, P n → n ≠ noJoint) (hs : P start) (ht : P goal) :
    ∃ one both, dijkstra g.numbers start goal = .ok one ∧ g.numbers.Cheapest start goal one ∧
      dijkstra g start goal = .ok (one.map Path.lift) ∧
      TwoSided.search g start goal = .ok both ∧
      ∀ path ∈ both, ∃ best ∈ one, ∃ c, path.weight = .number c ∧ best.weight ≤ c ∧
        ∃ nodes, g.numbers.Walk .outgoing start nodes goal c := by
  obtain ⟨one, hone, hcheapest⟩ := dijkstra_spec hg.numbers hw hid hs
  obtain ⟨both, hboth, hweight⟩ := TwoSided.search_weight hg hm hs ht
  have hlift : dijkstra g start goal = (dijkstra g.numbers start goal).map (Option.map Path.lift) :=
    BestFirst.search_lifts g (fun _ => .ok 0) start goal
  rw [hone] at hlift
  refine ⟨one, both, hone, hcheapest, hlift, hboth, fun path hpath => ?_⟩
  obtain ⟨c, hc, hfin, nodes, hwalk⟩ := hweight path hpath
  cases hcheapest with
  | walk _ hleast _ => exact ⟨_, rfl, c, hc, hleast hwalk, nodes, hwalk⟩
  | none hne hnone => exact absurd (hfin.resolve_left hne) (hnone hwalk)

/-- A triangle with one edge whose weight is no number. -/
theorem ignores_not_numbers_triangle :
    let g : Graph Empty (WithNaN true ℕ∞) :=
      .ofArcs [(0, 1, .number 1), (0, 2, .nan), (1, 2, .number 1)]
    ∃ one both, dijkstra g.numbers 0 2 = .ok one ∧ g.numbers.Cheapest 0 2 one ∧
      dijkstra g 0 2 = .ok (one.map Path.lift) ∧ TwoSided.search g 0 2 = .ok both ∧
      ∀ path ∈ both, ∃ best ∈ one, ∃ c, path.weight = .number c ∧ best.weight ≤ c ∧
        ∃ nodes, g.numbers.Walk .outgoing 0 nodes 2 c := by
  intro g
  have hid : ∀ n, n < 3 → n ≠ noJoint := by
    intro n hn
    rw [noJoint]
    omega
  exact ignores_not_numbers (Graph.domain_ofArcs (by decide)) Graph.mirrored_ofArcs
    (fun _ _ _ _ _ => zero_le) hid (by decide) (by decide)

/-- Two edges in a row, each beside one whose weight is no number. Each side forgets what it knew of the
    node in the middle, settles it at no number, and the way is never joined. -/
theorem TwoSided.search_loses_the_way :
    let g : Graph Empty (WithNaN true ℕ∞) :=
      .ofArcs [(0, 1, .number 1), (0, 1, .nan), (1, 2, .number 1), (1, 2, .nan)]
    g.Domain (· < 3) ∧ g.Mirrored (· < 3) ∧ g.numbers.NonNegative (· < 3) ∧
      dijkstra g 0 2 = .ok (some ⟨[0, 1, 2], .number 2, 3⟩) ∧
      search g.numbers 0 2 = .ok (some ⟨[0, 1, 2], 2, 2⟩) ∧ search g 0 2 = .ok none :=
  ⟨Graph.domain_ofArcs (by decide), Graph.mirrored_ofArcs, fun _ _ _ _ _ => zero_le, rfl, rfl, rfl⟩

end RoadRouting.Search
