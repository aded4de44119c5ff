import Mathlib.Data.Nat.Dist
import RoadRouting.Proofs.Trip.Choice

/-!
# The shape of a route

The road points between nodes in a row are those of one leg after the other. A leg is driven on one
road, forwards or, unless the road is one-way, backwards, past all points in between. Every leg but
the first leaves out the point at which it begins. Otherwise some two nodes in a row have no leg, or
the one chosen for them goes nowhere.

* `Leg.Passes`: the points of a leg.
* `Trip.Shape`: the points of a route, leg by leg.
* `Trip.Impasse`: what is wrong between two nodes.
* `Trip.roadPoints_have_shape`: points found have this shape, or there is a first impasse.
-/

namespace RoadRouting

/-! ## Where a chain breaks -/

section Breaks

variable {α : Type} {R F : α → α → Prop} {a b : α} {l : List α}

/-- `F` holds of some two items in a row, and `R` of all those before. -/
def Breaks (R F : α → α → Prop) (l : List α) : Prop :=
  ∃ before a b after, l = before ++ a :: b :: after ∧ (before ++ [a]).IsChain R ∧ F a b

theorem not_breaks_of_length_lt (h : l.length < 2) : ¬ Breaks R F l := by
  rintro ⟨before, a, b, after, rfl, -⟩
  simp at h
  omega

theorem exists_cons_cons (h : 2 ≤ l.length) : ∃ a b rest, l = a :: b :: rest := by
  cases l with
  | nil => cases h
  | cons a l =>
    cases l with
    | nil => exact absurd h (by simp)
    | cons b l => exact ⟨a, b, l, rfl⟩

theorem head?_of_split {before rest : List α} {a' : α} (h : b :: l = before ++ a' :: rest) :
    (before ++ [a']).head? = some b := by
  cases before with
  | nil =>
    rw [(List.cons.inj h).1]
    rfl
  | cons x before =>
    rw [(List.cons.inj h).1]
    rfl

theorem breaks_cons_cons : Breaks R F (a :: b :: l) ↔ F a b ∨ (R a b ∧ Breaks R F (b :: l)) := by
  constructor
  · rintro ⟨before, a', b', after, hsplit, hchain, hF⟩
    cases before with
    | nil =>
      obtain ⟨rfl, hrest⟩ := List.cons.inj hsplit
      obtain ⟨rfl, -⟩ := List.cons.inj hrest
      exact .inl hF
    | cons x before =>
      obtain ⟨rfl, hrest⟩ := List.cons.inj hsplit
      have hR : R a b := (List.isChain_cons.mp hchain).1 b (head?_of_split hrest)
      exact .inr ⟨hR, before, a', b', after, hrest, hchain.tail, hF⟩
  · rintro (hF | ⟨hR, before, a', b', after, hsplit, hchain, hF⟩)
    · exact ⟨[], a, b, l, rfl, List.isChain_singleton a, hF⟩
    · refine ⟨a :: before, a', b', after, by rw [hsplit, List.cons_append], ?_, hF⟩
      refine List.IsChain.cons hchain fun y hy => ?_
      obtain rfl := Option.some.inj ((head?_of_split hsplit).symm.trans hy)
      exact hR

end Breaks

/-! ## The points of a leg -/

namespace Leg

variable {l : Leg} {ls : List Leg} {part : List RoadPoint} {x : RoadPoint}

/-- The road points of a leg, both ends included. -/
def points (l : Leg) : List RoadPoint := l.source :: l.onward

theorem offsets_of_le (h : l.first ≤ l.last) :
    l.first :: l.offsets = List.range' l.first (l.last - l.first + 1) := by
  rw [offsets, if_pos h, List.range'_succ]

theorem offsets_of_lt (h : l.last < l.first) :
    l.first :: l.offsets = (List.range' l.last (l.first - l.last + 1)).reverse := by
  rw [offsets, if_neg (Nat.not_le_of_gt h), List.range'_concat, List.reverse_append,
    List.reverse_singleton, Nat.one_mul, Nat.add_sub_cancel' (Nat.le_of_lt h), List.singleton_append]

theorem points_eq (l : Leg) : l.points = (l.first :: l.offsets).map (RoadPoint.mk l.road) := rfl

/-- The points of a leg are those of its road between both ends. -/
theorem mem_points_iff : x ∈ l.points ↔
    x.road = l.road ∧ min l.first l.last ≤ x.offset ∧ x.offset ≤ max l.first l.last := by
  have hoffsets : ∀ o, o ∈ l.first :: l.offsets ↔
      min l.first l.last ≤ o ∧ o ≤ max l.first l.last := by
    intro o
    by_cases hle : l.first ≤ l.last
    · rw [offsets_of_le hle, List.mem_range'_1]
      omega
    · rw [offsets_of_lt (Nat.lt_of_not_le hle), List.mem_reverse, List.mem_range'_1]
      omega
  rw [points_eq, List.mem_map]
  constructor
  · rintro ⟨o, ho, rfl⟩
    exact ⟨rfl, (hoffsets o).mp ho⟩
  · rintro ⟨hroad, hbetween⟩
    refine ⟨x.offset, (hoffsets _).mpr hbetween, ?_⟩
    rw [← hroad]

theorem points_increasing (h : l.first ≤ l.last) :
    l.points.Pairwise fun x y => x.offset < y.offset := by
  rw [points_eq, offsets_of_le h, List.pairwise_map]
  exact List.pairwise_lt_range'

theorem points_decreasing (h : l.last < l.first) :
    l.points.Pairwise fun x y => y.offset < x.offset := by
  rw [points_eq, offsets_of_lt h, List.pairwise_map, List.pairwise_reverse]
  exact List.pairwise_lt_range'

/-- A leg that goes somewhere arrives at its target. -/
theorem getLast?_onward (h : l.first ≠ l.last) : l.onward.getLast? = some l.target := by
  have hlast : l.offsets.getLast? = some l.last := by
    rcases Nat.lt_or_gt_of_ne h with hlt | hgt
    · rw [offsets, if_pos (Nat.le_of_lt hlt), List.getLast?_range', if_neg (by omega)]
      congr 1
      omega
    · rw [offsets, if_neg (Nat.not_le_of_gt hgt), List.getLast?_reverse, List.head?_range',
        if_neg (by omega)]
  rw [onward, List.getLast?_map, hlast]
  rfl

/-- The road points along legs in a row are those of each leg, without the first point of all but
    the first leg. -/
theorem roadPoints_eq (ls : List Leg) :
    roadPoints ls = (ls.map points).headD [] ++ (ls.map points).tail.flatMap List.tail := by
  cases ls with
  | nil => rfl
  | cons l ls =>
    rw [roadPoints, List.map_cons, List.headD_cons, List.tail_cons, List.flatMap_map, List.flatMap_cons]
    rfl

theorem length_roadPoints (h : ls ≠ []) :
    (roadPoints ls).length = 1 + (ls.map fun l => Nat.dist l.first l.last).sum := by
  have honward : ∀ l : Leg, l.onward.length = Nat.dist l.first l.last := by
    intro l
    rw [onward, List.length_map, length_offsets, Nat.dist, Nat.add_comm]
  cases ls with
  | nil => exact absurd rfl h
  | cons l ls =>
    rw [roadPoints, List.length_cons, List.length_flatMap, Nat.add_comm]
    simp only [honward]

theorem getLast?_roadPoints (hlast : ls.getLast? = some l) (hmoves : l.first ≠ l.last) :
    (roadPoints ls).getLast? = some l.target := by
  have honward : (ls.flatMap onward).getLast? = some l.target := by
    obtain ⟨before, rfl⟩ := List.getLast?_eq_some_iff.mp hlast
    rw [List.flatMap_append, List.getLast?_append, List.flatMap_singleton, getLast?_onward hmoves]
    rfl
  cases ls with
  | nil => cases hlast
  | cons x ls =>
    rw [roadPoints, List.getLast?_cons, honward]
    rfl

/-- The leg is driven through these points: along one routable road, from its source to its target,
    past every point between them. Their offsets grow, or become smaller on a road that is not
    one-way. -/
structure Passes {K : Type} (net : Network K) (l : Leg) (part : List RoadPoint) : Prop where
  source : part.head? = some l.source
  target : part.getLast? = some l.target
  between : ∀ x, x ∈ part ↔
    x.road = l.road ∧ min l.first l.last ≤ x.offset ∧ x.offset ≤ max l.first l.last
  driven : l.first ≠ l.last ∧ ∃ road, net.roads[l.road]? = some road ∧ road.routable = true ∧
    ((part.Pairwise fun x y => x.offset < y.offset) ∨
      road.oneWay = false ∧ part.Pairwise fun x y => y.offset < x.offset)

theorem passes_points {K : Type} {net : Network K} (h : net.Allows l) (hmoves : l.first ≠ l.last) :
    l.Passes net l.points where
  source := rfl
  target := by
    rw [points, List.getLast?_cons, getLast?_onward hmoves]
    rfl
  between _ := mem_points_iff
  driven := by
    obtain ⟨road, hroad, hroutable, hway⟩ := h
    refine ⟨hmoves, road, hroad, hroutable, ?_⟩
    rcases Nat.lt_or_gt_of_ne hmoves with hlt | hgt
    · exact .inl (points_increasing (Nat.le_of_lt hlt))
    · rw [Road.forbids, decide_eq_true hgt, Bool.and_true] at hway
      exact .inr ⟨hway, points_decreasing hgt⟩

end Leg

namespace Trip

variable {K W : Type} {t : Trip K} {est : Estimator K W} {a b n : Nat} {nodes : List Nat}
  {ls : List Leg} {x : RoadPoint} {e : LegError}

/-! ## Legs of nodes in a row -/

/-- The road point is one of those of the node. -/
def Owns (t : Trip K) (n : Nat) (x : RoadPoint) : Prop := ∃ ps, t.points n = .ok ps ∧ x ∈ ps

theorem Proper.owns_iff (ht : t.Proper) (hn : t.IsNode n) : t.Owns n x ↔ t.nodeOf? x = some n := by
  obtain ⟨ps, hps, -, hmem⟩ := ht.points_spec hn
  rw [← hmem]
  constructor
  · rintro ⟨ps', hps', hx⟩
    obtain rfl := Except.ok.inj (hps.symm.trans hps')
    exact hx
  · exact fun hx => ⟨ps, hps, hx⟩

variable [Cost W]

/-- Either there is a leg between two nodes, or the roads allow none. -/
theorem Proper.leg_cases (ht : t.Proper) (hest : t.network.Priced est) (ha : t.IsNode a)
    (hb : t.IsNode b) :
    (∃ l, t.leg est a b = .ok l ∧ t.Owns a l.source ∧ t.Owns b l.target ∧ t.network.Allows l) ∨
      (t.leg est a b = .error (.noCommonRoad a b) ∧
        ∀ l, t.Owns a l.source → t.Owns b l.target → ¬ t.network.Allows l) := by
  obtain ⟨ls, hls, hcost, hmem⟩ := ht.candidates_spec hest ha hb
  simp only [ht.owns_iff ha, ht.owns_iff hb]
  by_cases hnil : ls = []
  · subst hnil
    refine .inr ⟨leg_of_candidates hls rfl, fun l hsource htarget hallows => ?_⟩
    cases (hmem l).mpr ⟨hsource, htarget, hallows⟩
  · obtain ⟨l, hl, hbest⟩ := cheapest_spec hnil hcost
    exact .inl ⟨l, leg_of_candidates hls hbest, (hmem l).mp hl⟩

/-- Every leg joins a point of its node to one of the next, and goes somewhere. -/
theorem Proper.hops_of_legs (ht : t.Proper) (hest : t.network.Priced est)
    (hnodes : ∀ n ∈ nodes, t.IsNode n) (h : t.legs est nodes = .ok ls) :
    List.Forall₂ (fun (hop : Nat × Nat) l => t.leg est hop.1 hop.2 = .ok l ∧
        t.Owns hop.1 l.source ∧ t.Owns hop.2 l.target) (nodes.zip nodes.tail) ls ∧
      ∀ l ∈ ls, t.network.Allows l ∧ l.first ≠ l.last := by
  induction nodes generalizing ls with
  | nil =>
    cases h
    exact ⟨.nil, by simp⟩
  | cons a nodes ih =>
    cases nodes with
    | nil =>
      cases h
      exact ⟨.nil, by simp⟩
    | cons b nodes =>
      obtain ⟨l, more, hl, hmoves, hmore, rfl⟩ := legs_cons_cons_eq_ok_iff.mp h
      obtain ⟨hhops, hlegs⟩ := ih (fun n hn => hnodes n (List.mem_cons_of_mem a hn)) hmore
      rcases ht.leg_cases hest (hnodes a (by simp)) (hnodes b (by simp)) with
        ⟨l', hl', hsource, htarget, hallows⟩ | ⟨hnone, -⟩
      · obtain rfl := Except.ok.inj (hl.symm.trans hl')
        exact ⟨.cons ⟨hl, hsource, htarget⟩ hhops,
          List.forall_mem_cons.mpr ⟨⟨hallows, hmoves⟩, hlegs⟩⟩
      · cases hl.symm.trans hnone

/-! ## Where there is no way on -/

/-- There is a leg between the two nodes, and it goes somewhere. -/
def Moves (t : Trip K) (est : Estimator K W) (a b : Nat) : Prop :=
  ∃ l, t.leg est a b = .ok l ∧ l.first ≠ l.last

/-- There is no leg between the two nodes, or the one that is chosen goes nowhere. -/
def Fails (t : Trip K) (est : Estimator K W) (a b : Nat) (e : LegError) : Prop :=
  t.leg est a b = .error e ∨
    ∃ l, t.leg est a b = .ok l ∧ l.first = l.last ∧ e = .standstill l.source

theorem legs_cons_cons_eq_error_iff : t.legs est (a :: b :: nodes) = .error e ↔
    t.Fails est a b e ∨ (t.Moves est a b ∧ t.legs est (b :: nodes) = .error e) := by
  rw [legs, Fails, Moves]
  cases hl : t.leg est a b with
  | error e' => simp [bind, Except.bind]
  | ok l =>
    by_cases hsame : l.first = l.last
    · simp [bind, Except.bind, hsame, eq_comm]
    · simp only [bind, Except.bind, hsame, if_false]
      cases t.legs est (b :: nodes) <;> simp [hsame]

/-- Legs fail at the first two nodes between which there is no way on. -/
theorem legs_eq_error_iff :
    t.legs est nodes = .error e ↔ Breaks (t.Moves est) (t.Fails est · · e) nodes := by
  induction nodes with
  | nil => exact iff_of_false nofun fun h => not_breaks_of_length_lt (by simp) h
  | cons a nodes ih =>
    cases nodes with
    | nil => exact iff_of_false nofun fun h => not_breaks_of_length_lt (by simp) h
    | cons b nodes => rw [legs_cons_cons_eq_error_iff, ih, breaks_cons_cons]

/-! ## The points of a route -/

theorem roadPoints_cons_cons : t.roadPoints est (a :: b :: nodes) =
    (t.legs est (a :: b :: nodes)).map Leg.roadPoints := by
  rw [roadPoints]
  · cases t.legs est (a :: b :: nodes) <;> rfl
  · exact List.cons_ne_nil _ _
  · simp

/-- The road points along nodes in a row, leg by leg. -/
structure Shape (t : Trip K) (est : Estimator K W) (nodes : List Nat) (route : List RoadPoint)
    (legs : List Leg) (parts : List (List RoadPoint)) : Prop where
  /-- For any two nodes in a row there is a leg, from a point of the first to one of the second. -/
  hops : List.Forall₂ (fun (hop : Nat × Nat) l => t.leg est hop.1 hop.2 = .ok l ∧
    t.Owns hop.1 l.source ∧ t.Owns hop.2 l.target) (nodes.zip nodes.tail) legs
  passes : List.Forall₂ (Leg.Passes t.network) legs parts
  /-- The first leg contributes all its points, every other leg all but the first. -/
  route_eq : route = parts.headD [] ++ parts.tail.flatMap List.tail
  length_eq : route.length = 1 + (legs.map fun l => Nat.dist l.first l.last).sum
  head : ∃ n x, nodes.head? = some n ∧ route.head? = some x ∧ t.Owns n x
  last : ∃ n x, nodes.getLast? = some n ∧ route.getLast? = some x ∧ t.Owns n x

/-- The last leg arrives where the nodes end. -/
theorem last_of_hops (h : List.Forall₂ (fun (hop : Nat × Nat) l => t.Owns hop.2 l.target)
      ((a :: b :: nodes).zip (b :: nodes)) ls) :
    ∃ n l, (a :: b :: nodes).getLast? = some n ∧ ls.getLast? = some l ∧ t.Owns n l.target := by
  induction nodes generalizing a b ls with
  | nil =>
    obtain ⟨l, more, hl, hmore, rfl⟩ := List.forall₂_cons_left_iff.mp h
    obtain rfl := List.forall₂_nil_left_iff.mp hmore
    exact ⟨b, l, rfl, rfl, hl⟩
  | cons c nodes ih =>
    obtain ⟨l, more, -, hmore, rfl⟩ := List.forall₂_cons_left_iff.mp h
    obtain ⟨n, last, hn, hlast, htarget⟩ := ih hmore
    refine ⟨n, last, ?_, ?_, htarget⟩
    · rw [List.getLast?_cons_cons, hn]
    · rw [List.getLast?_cons, hlast]
      rfl

theorem Proper.shape_of_legs (ht : t.Proper) (hest : t.network.Priced est)
    (hnodes : ∀ n ∈ a :: b :: nodes, t.IsNode n) (h : t.legs est (a :: b :: nodes) = .ok ls) :
    t.Shape est (a :: b :: nodes) (Leg.roadPoints ls) ls (ls.map Leg.points) := by
  obtain ⟨hhops, hlegs⟩ := ht.hops_of_legs hest hnodes h
  have htargets := hhops.imp fun _ _ hop => hop.2.2
  obtain ⟨n, l, hn, hl, htarget⟩ := last_of_hops htargets
  obtain ⟨first, more, ⟨-, hsource, -⟩, -, rfl⟩ := List.forall₂_cons_left_iff.mp hhops
  have hlast := Leg.getLast?_roadPoints hl (hlegs l (List.mem_of_getLast? hl)).2
  exact {
    hops := hhops
    passes := List.forall₂_map_right_iff.mpr
      (List.forall₂_same.mpr fun l hl => Leg.passes_points (hlegs l hl).1 (hlegs l hl).2)
    route_eq := Leg.roadPoints_eq _
    length_eq := Leg.length_roadPoints (List.cons_ne_nil _ _)
    head := ⟨a, first.source, rfl, rfl, hsource⟩
    last := ⟨n, l.target, hn, hlast, htarget⟩ }

/-- What is wrong between two nodes: no road is driven from a point of the one to a point of the
    other, or the leg that is chosen begins and ends at the same point. -/
inductive Impasse (t : Trip K) (est : Estimator K W) (a b : Nat) : LegError → Prop
  | noCommonRoad : (∀ l, t.Owns a l.source → t.Owns b l.target → ¬ t.network.Allows l) →
      Impasse t est a b (.noCommonRoad a b)
  | standstill {l : Leg} : t.leg est a b = .ok l → l.first = l.last →
      Impasse t est a b (.standstill l.source)

theorem Proper.fails_iff (ht : t.Proper) (hest : t.network.Priced est) (ha : t.IsNode a)
    (hb : t.IsNode b) : t.Fails est a b e ↔ t.Impasse est a b e := by
  constructor
  · rintro (he | ⟨l, hl, hsame, rfl⟩)
    · rcases ht.leg_cases hest ha hb with ⟨l, hl, -⟩ | ⟨hnone, hforbidden⟩
      · cases he.symm.trans hl
      · obtain rfl := Except.error.inj (he.symm.trans hnone)
        exact .noCommonRoad hforbidden
    · exact .standstill hl hsame
  · rintro (hforbidden | ⟨hl, hsame⟩)
    · rcases ht.leg_cases hest ha hb with ⟨l, -, hsource, htarget, hallows⟩ | ⟨hnone, -⟩
      · exact absurd hallows (hforbidden l hsource htarget)
      · exact .inl hnone
    · exact .inr ⟨_, hl, hsame, rfl⟩

/-- The road points along nodes of a trip are those of one leg for any two nodes in a row, each
    driven from a point of the first to a point of the second, past all points in between. There are
    none exactly if there is no way on somewhere, and the error tells the first such place. -/
theorem roadPoints_have_shape {roads : Array (Road K)} {joints : List (List RoadPoint)}
    {net : Network K} {p q : RoadPoint} (hnet : Network.build roads joints = .ok net)
    (hp : net.hasPoint p = true) (hq : net.hasPoint q = true) (hest : net.Priced est)
    (hnodes : ∀ n ∈ nodes, (between net p q).IsNode n) (hlength : 2 ≤ nodes.length) :
    (∀ route, (between net p q).roadPoints est nodes = .ok route →
      ∃ legs parts, (between net p q).Shape est nodes route legs parts) ∧
    ∀ e, (between net p q).roadPoints est nodes = .error e ↔
      ∃ before a b after, nodes = before ++ a :: b :: after ∧
        (before ++ [a]).IsChain ((between net p q).Moves est) ∧
        (between net p q).Impasse est a b e := by
  have ht := proper_between (Network.consistent_of_build hnet) hp hq
  obtain ⟨a₀, b₀, rest, rfl⟩ := exists_cons_cons hlength
  rw [roadPoints_cons_cons]
  constructor
  · intro route hroute
    cases hlegs : (between net p q).legs est (a₀ :: b₀ :: rest) with
    | error e =>
      rw [hlegs] at hroute
      cases hroute
    | ok ls =>
      rw [hlegs] at hroute
      obtain rfl := Except.ok.inj hroute
      exact ⟨ls, ls.map Leg.points, ht.shape_of_legs hest hnodes hlegs⟩
  · intro e
    have hmap : ((between net p q).legs est (a₀ :: b₀ :: rest)).map Leg.roadPoints = .error e ↔
        (between net p q).legs est (a₀ :: b₀ :: rest) = .error e := by
      cases (between net p q).legs est (a₀ :: b₀ :: rest) <;> simp [Except.map]
    rw [hmap, legs_eq_error_iff, Breaks]
    refine exists_congr fun before => exists_congr fun a => exists_congr fun b =>
      exists_congr fun after => and_congr_right fun hsplit => and_congr_right fun _ => ?_
    exact ht.fails_iff hest (hnodes a (by simp [hsplit])) (hnodes b (by simp [hsplit]))

/-- From the start past one joint to the next. A leg from a joint to itself goes nowhere. -/
theorem roadPoints_have_shape_sample :
    ∃ net, Network.build Network.sampleRoads Network.sampleJoints = .ok net ∧
      (∃ legs parts, (between net ⟨0, 0⟩ ⟨0, 3⟩).Shape Network.sampleEstimator [2, 0, 1]
        [⟨0, 0⟩, ⟨0, 1⟩, ⟨0, 2⟩, ⟨0, 3⟩] legs parts) ∧
      ∃ before a b after, [2, 0, 0] = before ++ a :: b :: after ∧
        (before ++ [a]).IsChain ((between net ⟨0, 0⟩ ⟨0, 3⟩).Moves Network.sampleEstimator) ∧
        (between net ⟨0, 0⟩ ⟨0, 3⟩).Impasse Network.sampleEstimator a b (.standstill ⟨0, 1⟩) := by
  obtain ⟨net, hnet, hcount, hstart, hfirst, hsecond, hroute, hstand⟩ : ∃ net,
      Network.build Network.sampleRoads Network.sampleJoints = .ok net ∧
      net.joints.count = 2 ∧ (between net ⟨0, 0⟩ ⟨0, 3⟩).start.node = 2 ∧
      net.hasPoint ⟨0, 0⟩ = true ∧ net.hasPoint ⟨0, 3⟩ = true ∧
      (between net ⟨0, 0⟩ ⟨0, 3⟩).roadPoints Network.sampleEstimator [2, 0, 1] =
        .ok [⟨0, 0⟩, ⟨0, 1⟩, ⟨0, 2⟩, ⟨0, 3⟩] ∧
      (between net ⟨0, 0⟩ ⟨0, 3⟩).roadPoints Network.sampleEstimator [2, 0, 0] =
        .error (.standstill ⟨0, 1⟩) :=
    ⟨_, rfl, rfl, rfl, rfl, rfl, rfl, rfl⟩
  have hnode : ∀ n ≤ 2, (between net ⟨0, 0⟩ ⟨0, 3⟩).IsNode n := by
    intro n hn
    rcases Nat.lt_or_eq_of_le hn with hlt | rfl
    · exact .inl (hcount ▸ hlt)
    · exact .inr (.inl hstart.symm)
  have hway : ∀ n ∈ [2, 0, 1], (between net ⟨0, 0⟩ ⟨0, 3⟩).IsNode n := by
    intro n hn
    exact hnode n (by simp at hn; omega)
  have hblocked : ∀ n ∈ [2, 0, 0], (between net ⟨0, 0⟩ ⟨0, 3⟩).IsNode n := by
    intro n hn
    exact hnode n (by simp at hn; omega)
  obtain ⟨hshape, -⟩ :=
    roadPoints_have_shape hnet hfirst hsecond (Network.priced_sample net) hway (by simp)
  obtain ⟨-, himpasse⟩ :=
    roadPoints_have_shape hnet hfirst hsecond (Network.priced_sample net) hblocked (by simp)
  exact ⟨net, hnet, hshape _ hroute, (himpasse _).mp hstand⟩

end Trip

end RoadRouting
