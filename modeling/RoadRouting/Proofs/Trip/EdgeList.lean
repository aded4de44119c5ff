import RoadRouting.Proofs.Trip.Edges

/-!
# Edges between points

What the edge list of a node holds can be told without legs and nodes of road points: from the points
of the two nodes alone. For every pair of points that can be driven to one another along their road,
with no point of a joint in between, there is one edge, and there are no others. Only the two
endpoints of a trip are joined past the joints that lie between them.

* `Trip.Linked`: a pair of points with an edge.
* `Trip.Proper.joins_iff_linked`: these are the ends of the legs over which there is an edge.
* `Trip.Proper.listsLinks`, `Trip.edges_are_links`: the edges that leave one node for another are one
  for each linked pair of their points.
-/

namespace RoadRouting.Trip

variable {K W : Type} {t : Trip K} {est : Estimator K W} {d : Direction} {l : Leg}
  {p q : RoadPoint} {u v : Nat}

/-! ## Linked points -/

/-- The two points are the two endpoints of the trip, and neither endpoint is a joint. -/
def Faces (t : Trip K) (p q : RoadPoint) : Prop :=
  t.start.isVirtual = true ∧ t.finish.isVirtual = true ∧
    ((p = t.start.point ∧ q = t.finish.point) ∨ (p = t.finish.point ∧ q = t.start.point))

/-- Different points of a road that is driven from the first to the second. No point of a joint lies
    strictly between them, unless they are the two endpoints of the trip. -/
structure Linked (t : Trip K) (p q : RoadPoint) : Prop where
  same_road : p.road = q.road
  ne : p ≠ q
  driven : ∃ road, t.network.roads[p.road]? = some road ∧ road.routable = true ∧
    (road.oneWay = true → p.offset < q.offset)
  free : (∀ o, (p.offset < o ∧ o < q.offset) ∨ (q.offset < o ∧ o < p.offset) →
    ∀ j ps, t.network.joints.points j = .ok ps → ⟨p.road, o⟩ ∉ ps) ∨ t.Faces p q

theorem Proper.clear_iff (ht : t.Proper) {r a b : Nat} : t.network.owners.Clear r a b ↔
    ∀ o, (a < o ∧ o < b) ∨ (b < o ∧ o < a) →
      ∀ j ps, t.network.joints.points j = .ok ps → ⟨r, o⟩ ∉ ps := by
  refine forall_congr' fun o => imp_congr_right fun _ => ?_
  rw [Option.eq_none_iff_forall_ne_some]
  refine forall_congr' fun j => ?_
  rw [ne_eq, ht.consistent.find?_iff, not_exists]
  exact forall_congr' fun ps => not_and

/-- Two different points of nodes that belong to no joint are the two endpoints. -/
theorem Proper.faces_iff (ht : t.Proper) (hp : t.nodeOf? p = some u) (hq : t.nodeOf? q = some v)
    (hne : p ≠ q) : t.Faces p q ↔
      t.network.owners.find? p = none ∧ t.network.owners.find? q = none := by
  rw [Faces, ht.start_isVirtual_iff, ht.finish_isVirtual_iff]
  constructor
  · rintro ⟨hstart, ⟨hfinish, -⟩, ⟨rfl, rfl⟩ | ⟨rfl, rfl⟩⟩
    · exact ⟨hstart, hfinish⟩
    · exact ⟨hfinish, hstart⟩
  · rintro ⟨hfree, hfree'⟩
    have hends : ∀ {x n}, t.nodeOf? x = some n → t.network.owners.find? x = none →
        x = t.start.point ∨ x = t.finish.point := by
      intro x n hx hnone
      refine (exists_nodeOf?_iff.mp ⟨n, hx⟩).resolve_left ?_
      rintro ⟨j, hj⟩
      rw [hnone] at hj
      cases hj
    rcases hends hp hfree with rfl | rfl <;> rcases hends hq hfree' with rfl | rfl
    · exact absurd rfl hne
    · exact ⟨hfree, ⟨hfree', hne.symm⟩, .inl ⟨rfl, rfl⟩⟩
    · exact ⟨hfree', ⟨hfree, hne⟩, .inr ⟨rfl, rfl⟩⟩
    · exact absurd rfl hne

/-- There is an edge over a leg between points of nodes exactly if its ends are linked. -/
theorem Proper.joins_iff_linked (ht : t.Proper) (hsource : t.nodeOf? l.source = some u)
    (htarget : t.nodeOf? l.target = some v) :
    t.Joins .outgoing l ↔ t.Linked l.source l.target := by
  have hends : l.source ≠ l.target ↔ l.first ≠ l.last := by
    rw [Leg.source, Leg.target, ne_eq, RoadPoint.mk.injEq, and_iff_right rfl]
  constructor
  · rintro ⟨⟨road, hroad, hroutable, hne, hway⟩, hfree⟩
    have hpoints := hends.mpr hne
    refine ⟨rfl, hpoints, ⟨road, hroad, hroutable, fun hone => (hway hone).mp rfl⟩, ?_⟩
    exact hfree.imp ht.clear_iff.mp (ht.faces_iff hsource htarget hpoints).mpr
  · rintro ⟨-, hpoints, ⟨road, hroad, hroutable, hway⟩, hfree⟩
    refine ⟨⟨road, hroad, hroutable, hends.mp hpoints, fun hone => ?_⟩, ?_⟩
    · exact iff_of_true rfl (hway hone)
    · exact hfree.imp ht.clear_iff.mpr (ht.faces_iff hsource htarget hpoints).mp

/-! ## Edge lists -/

/-- The weight is the cost of the road between the two points, told in one of its directions. -/
def Weighs (t : Trip K) (est : Estimator K W) (p q : RoadPoint) (w : W) : Prop :=
  ∃ road, t.network.roads[p.road]? = some road ∧
    (est.weight road p.offset q.offset = .ok w ∨ est.weight road q.offset p.offset = .ok w)

/-- All edges at `u` lead to nodes of the trip. Those that lead to `v` are one for each linked pair of
    a point of `u` and a point of `v`, with the cost of the road between the two. -/
def ListsLinks (t : Trip K) (est : Estimator K W) (u v : Nat) : Prop :=
  ∃ es ps qs, t.edges est .outgoing u = .ok es ∧ t.points u = .ok ps ∧ t.points v = .ok qs ∧
    (∀ e ∈ es, t.IsNode e.target) ∧
    ∃ (pairs : List (RoadPoint × RoadPoint)) (weight : RoadPoint → RoadPoint → W),
      pairs.Nodup ∧ (∀ p q, (p, q) ∈ pairs ↔ p ∈ ps ∧ q ∈ qs ∧ t.Linked p q) ∧
      (∀ p q, (p, q) ∈ pairs → t.Weighs est p q (weight p q)) ∧
      (es.filter (·.target = v)).Perm (pairs.map fun x => ⟨v, weight x.1 x.2⟩)

/-- A leg is told by its two ends. -/
theorem injective_ends : Function.Injective fun l : Leg => (l.source, l.target) := by
  rintro ⟨r, a, b⟩ ⟨r', a', b'⟩ h
  obtain ⟨hsource, htarget⟩ := Prod.mk.inj h
  obtain ⟨rfl, rfl⟩ := RoadPoint.mk.inj hsource
  obtain ⟨-, rfl⟩ := RoadPoint.mk.inj htarget
  rfl

section Weights

variable [Zero W]

/-- The edges to `v` of those over the legs `L`. -/
theorem Over.filter_edges {L : List Leg} (h : t.Over d u L) :
    (L.map (t.edgeOver est)).filter (·.target = v) =
      (L.filter fun l => t.nodeOf? l.target = some v).map fun l => ⟨v, t.toll est l⟩ := by
  rw [List.filter_map]
  have hfilter : L.filter ((fun e => decide (e.target = v)) ∘ t.edgeOver est) =
      L.filter fun l => t.nodeOf? l.target = some v := by
    refine List.filter_congr fun l hl => ?_
    obtain ⟨-, ⟨w, hw⟩, -⟩ := (h.mem_iff l).mp hl
    simp [edgeOver, hw]
  rw [hfilter]
  refine List.map_congr_left fun l hl => ?_
  rw [List.mem_filter, decide_eq_true_eq] at hl
  rw [edgeOver, hl.2, Option.getD_some]

theorem Proper.weighs_toll (ht : t.Proper) (hest : t.network.Priced est)
    (hsource : t.nodeOf? l.source = some u) (htarget : t.nodeOf? l.target = some v) :
    t.Weighs est l.source l.target (t.toll est l) := by
  have hp := ht.valid_of_nodeOf? hsource
  have hq := ht.valid_of_nodeOf? htarget
  obtain ⟨road, hroad, -⟩ := Network.hasPoint_iff.mp hp
  refine ⟨road, hroad, ?_⟩
  rw [toll]
  split
  · exact .inr (Network.weight_eq_price (l := l.reverse) hest hroad hq hp)
  · exact .inl (Network.weight_eq_price hest hroad hp hq)

theorem Proper.listsLinks (ht : t.Proper) (hest : t.network.Priced est) (hu : t.IsNode u)
    (hv : t.IsNode v) : t.ListsLinks est u v := by
  obtain ⟨L, hL, hes⟩ := ht.edges_spec hest hu .outgoing
  obtain ⟨ps, hps, -, hmemps⟩ := ht.points_spec hu
  obtain ⟨qs, hqs, -, hmemqs⟩ := ht.points_spec hv
  let toV := L.filter fun l => t.nodeOf? l.target = some v
  have hmem : ∀ l, l ∈ toV ↔ t.nodeOf? l.source = some u ∧ t.nodeOf? l.target = some v ∧
      t.Joins .outgoing l := by
    intro l
    rw [List.mem_filter, hL.mem_iff, decide_eq_true_eq]
    constructor
    · exact fun ⟨⟨hsource, _, hjoins⟩, htarget⟩ => ⟨hsource, htarget, hjoins⟩
    · exact fun ⟨hsource, htarget, hjoins⟩ => ⟨⟨hsource, ⟨v, htarget⟩, hjoins⟩, htarget⟩
  refine ⟨_, ps, qs, hes, hps, hqs, fun e he => ?_,
    toV.map fun l => (l.source, l.target), fun p q => t.toll est ⟨p.road, p.offset, q.offset⟩,
    (hL.nodup.filter _).map injective_ends, fun p q => ?_, fun p q hpq => ?_, ?_⟩
  · obtain ⟨l, hl, rfl⟩ := List.mem_map.mp he
    obtain ⟨-, ⟨w, hw⟩, -⟩ := (hL.mem_iff l).mp hl
    rw [edgeOver, hw]
    exact ht.isNode_of_nodeOf? hw
  · rw [List.mem_map, hmemps, hmemqs]
    constructor
    · rintro ⟨l, hl, heq⟩
      obtain ⟨rfl, rfl⟩ := Prod.mk.inj heq
      obtain ⟨hsource, htarget, hjoins⟩ := (hmem l).mp hl
      exact ⟨hsource, htarget, (ht.joins_iff_linked hsource htarget).mp hjoins⟩
    · rintro ⟨hp, hq, hlinked⟩
      let l : Leg := ⟨p.road, p.offset, q.offset⟩
      have hsource : l.source = p := rfl
      have htarget : l.target = q := by
        show (⟨p.road, q.offset⟩ : RoadPoint) = q
        rw [hlinked.same_road]
      rw [← hsource] at hp hlinked
      rw [← htarget] at hq hlinked
      refine ⟨l, (hmem l).mpr ⟨hp, hq, (ht.joins_iff_linked hp hq).mpr hlinked⟩, ?_⟩
      rw [hsource, htarget]
  · obtain ⟨l, hl, heq⟩ := List.mem_map.mp hpq
    obtain ⟨rfl, rfl⟩ := Prod.mk.inj heq
    obtain ⟨hsource, htarget, -⟩ := (hmem l).mp hl
    exact ht.weighs_toll hest hsource htarget
  · refine List.Perm.of_eq ?_
    rw [hL.filter_edges, List.map_map]
    rfl

/-- In a trip between two existing road points of a network that was built, the edges that leave a
    node for another are one for each pair of their points that is linked. -/
theorem edges_are_links {roads : Array (Road K)} {joints : List (List RoadPoint)} {net : Network K}
    (hnet : Network.build roads joints = .ok net) (hest : net.Priced est)
    (hp : net.hasPoint p = true) (hq : net.hasPoint q = true)
    (hu : (between net p q).IsNode u) (hv : (between net p q).IsNode v) :
    (between net p q).ListsLinks est u v :=
  (proper_between (Network.consistent_of_build hnet) hp hq).listsLinks hest hu hv

/-- From the start of a trip along a road, to its end behind a joint. -/
theorem edges_are_links_sample :
    ∃ net, Network.build Network.sampleRoads Network.sampleJoints = .ok net ∧
      (between net ⟨0, 0⟩ ⟨0, 2⟩).ListsLinks Network.sampleEstimator
        (between net ⟨0, 0⟩ ⟨0, 2⟩).start.node (between net ⟨0, 0⟩ ⟨0, 2⟩).finish.node := by
  obtain ⟨net, hnet, -, -, hfirst, hsecond⟩ := Network.build_sample
  exact ⟨net, hnet, edges_are_links hnet (Network.priced_sample net) hfirst hsecond isNode_start
    isNode_finish⟩

end Weights

end RoadRouting.Trip
