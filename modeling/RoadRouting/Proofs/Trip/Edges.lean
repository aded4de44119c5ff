import RoadRouting.Proofs.Graph.Walk
import RoadRouting.Proofs.Trip.Nodes

/-!
# The edges of a trip

Edges are listed by different rules: from an endpoint to the joints around it and straight to the
other endpoint, from a joint over its road points, and from a joint to an endpoint by looking from
the endpoint. All of them are edges over the legs between road points of two nodes that are driven
and have no joint in between, or run straight between the two endpoints.

* `Trip.Joins`: the legs over which there is an edge.
* `Trip.Proper.edges_spec`: every edge list is the list of these legs.
* `Trip.Proper.mirrored`: with equal costs in both directions, the two sides of the graph mirror
  each other.
-/

namespace RoadRouting.Trip

variable {K W : Type} {t : Trip K} {est : Estimator K W} {d : Direction} {l : Leg} {n u v : Nat}

/-- The leg is driven and has no joint in between, or lies between two endpoints that are no
    joints. -/
def Joins (t : Trip K) (d : Direction) (l : Leg) : Prop :=
  t.network.Drives d l ∧ (t.network.owners.Clear l.road l.first l.last ∨
    (t.network.owners.find? l.source = none ∧ t.network.owners.find? l.target = none))

theorem Joins.reverse (h : t.Joins d l) : t.Joins d.opposite l.reverse :=
  ⟨h.1.reverse, h.2.imp (·.symm) And.symm⟩

theorem joins_reverse_iff : t.Joins d.opposite l.reverse ↔ t.Joins d l := by
  constructor
  · intro h
    have := h.reverse
    rwa [Direction.opposite_opposite, Leg.reverse_reverse] at this
  · exact Joins.reverse

/-- The edges from `u` run over the legs `L`: these are the ones that join a point of `u` to a point
    of some node. -/
structure Over (t : Trip K) (d : Direction) (u : Nat) (L : List Leg) : Prop where
  nodup : L.Nodup
  mem_iff : ∀ l, l ∈ L ↔
    t.nodeOf? l.source = some u ∧ (∃ v, t.nodeOf? l.target = some v) ∧ t.Joins d l

section Weights

variable [Zero W]

/-- The cost of the edge over a leg. An edge between a joint and an endpoint costs what the leg
    from the endpoint to the joint costs. -/
def toll (t : Trip K) (est : Estimator K W) (l : Leg) : W :=
  if (t.network.owners.find? l.source).isSome ∧ (t.network.owners.find? l.target).isNone then
    t.network.price est l.reverse
  else t.network.price est l

/-- The edge over a leg. -/
def edgeOver (t : Trip K) (est : Estimator K W) (l : Leg) : Edge W :=
  ⟨(t.nodeOf? l.target).getD 0, t.toll est l⟩

theorem edgeOver_of_owner {j : Nat} (h : t.network.owners.find? l.target = some j) :
    t.edgeOver est l = t.network.edgeOver est l := by
  rw [edgeOver, Network.edgeOver, nodeOf?_of_owner h, toll, h]
  simp

theorem toll_eq_price (hsymm : est.Symmetric) : t.toll est l = t.network.price est l := by
  rw [toll, Network.price_reverse hsymm, ite_self]

/-! ## Edges of an endpoint -/

/-- The endpoint `e` is a node `n` of its own, seen together with the other endpoint of the trip. -/
structure Stands (t : Trip K) (n : Nat) (e other : Endpoint) : Prop where
  free : t.network.owners.find? e.point = none
  valid : t.network.hasPoint e.point = true
  points : ∀ x, t.nodeOf? x = some n ↔ x = e.point
  ends : ∀ x, (x = t.start.point ∨ x = t.finish.point) ↔ (x = e.point ∨ x = other.point)
  node : t.nodeOf? other.point = some other.node
  isVirtual_iff : other.isVirtual = true ↔
    t.network.owners.find? other.point = none ∧ other.point ≠ e.point

theorem Proper.start_stands (h : t.Proper)
    (hfree : t.network.owners.find? t.start.point = none) :
    t.Stands t.network.joints.count t.start t.finish where
  free := hfree
  valid := h.start_valid
  points x := by
    rw [h.nodeOf?_eq_first_iff]
    constructor
    · exact fun hx => hx.2
    · rintro rfl
      exact ⟨hfree, rfl⟩
  ends _ := Iff.rfl
  node := h.nodeOf?_finish
  isVirtual_iff := h.finish_isVirtual_iff

theorem Proper.finish_stands (h : t.Proper)
    (hfree : t.network.owners.find? t.finish.point = none)
    (hne : t.finish.point ≠ t.start.point) :
    t.Stands (t.network.joints.count + 1) t.finish t.start where
  free := hfree
  valid := h.finish_valid
  points x := by
    rw [h.nodeOf?_eq_second_iff]
    constructor
    · exact fun hx => hx.2.1
    · rintro rfl
      exact ⟨hfree, rfl, hne⟩
  ends _ := or_comm
  node := h.nodeOf?_start
  isVirtual_iff := by
    rw [h.start_isVirtual_iff]
    exact ⟨fun hnone => ⟨hnone, hne.symm⟩, fun hnone => hnone.1⟩

/-- The leg from one endpoint to the other, if they are on one road. -/
def across (self other : Endpoint) : Leg :=
  ⟨self.point.road, self.point.offset, other.point.offset⟩

/-- There is an edge straight from one endpoint to the other. -/
def Crosses (t : Trip K) (d : Direction) (self other : Endpoint) : Prop :=
  other.isVirtual = true ∧ self.point.road = other.point.road ∧
    t.network.Drives d (across self other)

namespace Stands

variable {self other : Endpoint}

theorem target_across (hroad : self.point.road = other.point.road) :
    (across self other).target = other.point := by
  show (⟨self.point.road, other.point.offset⟩ : RoadPoint) = other.point
  rw [hroad]

theorem eq_across (hsource : l.source = self.point) (htarget : l.target = other.point) :
    l = across self other := by
  have hlast : l.last = other.point.offset := congrArg RoadPoint.offset htarget
  rw [across, ← hsource, ← hlast]
  rfl

theorem ne_of_drives (hdrives : t.network.Drives d l) : l.target ≠ l.source := by
  obtain ⟨-, -, -, hne, -⟩ := hdrives
  intro heq
  rw [Leg.target, Leg.source, RoadPoint.mk.injEq] at heq
  exact hne heq.2.symm

/-- The legs of an endpoint lead to the joints around it and to the other endpoint. -/
theorem departures_over [Decidable (t.Crosses d self other)] (h : t.Stands n self other) :
    t.Over d n (t.network.legsAround d self.point ++
      if t.Crosses d self other then [across self other] else []) := by
  constructor
  case nodup =>
    refine List.nodup_append'.mpr ⟨Network.nodup_legsAround, by split <;> simp, fun l hl hl' => ?_⟩
    obtain ⟨⟨hfar, hroad, -⟩, hl'⟩ := List.mem_ite_nil_right.mp hl'
    obtain ⟨-, ⟨j, hj⟩, -⟩ := Network.mem_legsAround.mp hl
    rw [List.mem_singleton.mp hl', target_across hroad, (h.isVirtual_iff.mp hfar).1] at hj
    cases hj
  case mem_iff =>
    intro l
    rw [List.mem_append, Network.mem_legsAround, List.mem_ite_nil_right, List.mem_singleton,
      h.points, exists_nodeOf?_iff, h.ends]
    constructor
    · rintro (⟨hsource, howner, hdrives, hclear⟩ | ⟨⟨hfar, hroad, hdrives⟩, rfl⟩)
      · exact ⟨hsource, .inl howner, hdrives, .inl hclear⟩
      · refine ⟨rfl, .inr (.inr (target_across hroad)), hdrives, .inr ⟨h.free, ?_⟩⟩
        rw [target_across hroad, (h.isVirtual_iff.mp hfar).1]
    · rintro ⟨hsource, hend, hdrives, hfree⟩
      have hmoves : l.target ≠ self.point := hsource ▸ ne_of_drives hdrives
      cases howner : t.network.owners.find? l.target with
      | some j =>
        refine .inl ⟨hsource, ⟨j, rfl⟩, hdrives, hfree.resolve_right fun hnone => ?_⟩
        rw [hnone.2] at howner
        cases howner
      | none =>
        have hother : l.target = other.point := by
          rcases hend with ⟨j, hj⟩ | hself | hother
          · rw [howner] at hj
            cases hj
          · exact absurd hself hmoves
          · exact hother
        have hacross : l = across self other := eq_across hsource hother
        refine .inr ⟨⟨h.isVirtual_iff.mpr ⟨?_, ?_⟩, ?_, ?_⟩, hacross⟩
        · rw [← hother, howner]
        · rwa [← hother]
        · rw [← hother, ← hsource]
          rfl
        · rwa [← hacross]

theorem straight_eq [Decidable (t.Crosses d self other)] (h : t.Stands n self other)
    (ht : t.Proper) (hest : t.network.Priced est) :
    (if other.isVirtual = true ∧ self.point.road = other.point.road then
      t.network.direct est self.point.road self.point.offset other.point.offset other.node d
      else .ok []) =
    .ok ((if t.Crosses d self other then [across self other] else []).map (t.edgeOver est)) := by
  classical
  by_cases hfar : other.isVirtual = true ∧ self.point.road = other.point.road
  · have htarget := target_across hfar.2
    have hsource : (across self other).source = self.point := rfl
    have hne : (across self other).first ≠ (across self other).last := by
      intro heq
      apply (h.isVirtual_iff.mp hfar.1).2
      rw [← htarget, ← hsource, Leg.target, Leg.source, heq]
    have hedge : t.edgeOver est (across self other) =
        ⟨other.node, t.network.price est (across self other)⟩ := by
      rw [edgeOver, toll, hsource, htarget, h.node, h.free]
      simp
    have hvalid : t.network.hasPoint (across self other).source = true := h.valid
    have hvalid' : t.network.hasPoint (across self other).target = true := by
      rw [htarget]
      exact ht.valid_of_nodeOf? h.node
    have hdirect : t.network.direct est self.point.road self.point.offset other.point.offset
        other.node d = .ok (if t.network.Drives d (across self other) then
          [⟨other.node, t.network.price est (across self other)⟩] else []) :=
      Network.direct_eq hest hvalid hvalid' hne other.node
    rw [if_pos hfar, hdirect]
    by_cases hdrives : t.network.Drives d (across self other)
    · rw [if_pos hdrives, if_pos ⟨hfar.1, hfar.2, hdrives⟩, List.map_singleton, hedge]
    · rw [if_neg hdrives, if_neg fun h => hdrives h.2.2, List.map_nil]
  · rw [if_neg hfar, if_neg fun h => hfar ⟨h.1, h.2.1⟩, List.map_nil]

/-- The edges of an endpoint that is no joint. -/
theorem departures_spec (h : t.Stands n self other) (ht : t.Proper)
    (hest : t.network.Priced est) :
    ∃ L, t.Over d n L ∧ t.departures est self other d = .ok (L.map (t.edgeOver est)) := by
  classical
  refine ⟨_, h.departures_over, ?_⟩
  have haround : t.network.neighbours est self.point d =
      .ok ((t.network.legsAround d self.point).map (t.edgeOver est)) := by
    rw [Network.neighbours_eq ht.consistent hest h.valid]
    refine congrArg Except.ok (List.map_congr_left fun l hl => ?_)
    obtain ⟨-, ⟨j, hj⟩, -⟩ := Network.mem_legsAround.mp hl
    exact (edgeOver_of_owner hj).symm
  have hstraight := h.straight_eq (d := d) ht hest
  unfold departures
  rw [haround]
  by_cases hfar : other.isVirtual = true ∧ self.point.road = other.point.road
  · rw [if_pos hfar] at hstraight
    simp only [bind, Except.bind, if_pos hfar, hstraight, List.map_append]
  · rw [if_neg hfar] at hstraight
    simp only [bind, Except.bind, if_neg hfar, Except.ok.inj hstraight, List.map_append]

end Stands

/-! ## Edges of a joint -/

/-- The legs from a joint to an endpoint that is no joint. -/
def arrivalLegs (t : Trip K) (d : Direction) (joint : Nat) (e : Endpoint) : List Leg :=
  if e.isVirtual then
    ((t.network.legsAround d.opposite e.point).filter fun l =>
      t.network.owners.find? l.target = some joint).map Leg.reverse
  else []

theorem mem_arrivalLegs {e : Endpoint} : l ∈ t.arrivalLegs d u e ↔ e.isVirtual = true ∧
    l.target = e.point ∧ t.network.owners.find? l.source = some u ∧ t.network.Drives d l ∧
      t.network.owners.Clear l.road l.first l.last := by
  rw [arrivalLegs, List.mem_ite_nil_right, List.mem_map]
  refine and_congr_right fun _ => ?_
  constructor
  · rintro ⟨l, hl, rfl⟩
    rw [List.mem_filter, decide_eq_true_eq, Network.mem_legsAround] at hl
    obtain ⟨⟨hsource, -, hdrives, hclear⟩, howner⟩ := hl
    have := hdrives.reverse
    rw [Direction.opposite_opposite] at this
    exact ⟨hsource, howner, this, hclear.symm⟩
  · rintro ⟨htarget, howner, hdrives, hclear⟩
    refine ⟨l.reverse, ?_, l.reverse_reverse⟩
    rw [List.mem_filter, decide_eq_true_eq, Network.mem_legsAround]
    exact ⟨⟨htarget, ⟨u, howner⟩, hdrives.reverse, hclear.symm⟩, howner⟩

theorem nodup_arrivalLegs {e : Endpoint} : (t.arrivalLegs d u e).Nodup := by
  rw [arrivalLegs]
  split
  case isTrue =>
    refine List.Nodup.map_on (fun l _ l' _ h => ?_) (Network.nodup_legsAround.filter _)
    rw [← l.reverse_reverse, h, l'.reverse_reverse]
  case isFalse => exact List.nodup_nil

theorem arrivals_eq (ht : t.Proper) (hest : t.network.Priced est) {e : Endpoint}
    (hu : u < t.network.joints.count) (hvalid : t.network.hasPoint e.point = true)
    (hnode : t.nodeOf? e.point = some e.node)
    (hfree : e.isVirtual = true → t.network.owners.find? e.point = none) :
    t.arrivals est u e d = .ok ((t.arrivalLegs d u e).map (t.edgeOver est)) := by
  unfold arrivals
  by_cases hvirtual : e.isVirtual = true
  · obtain ⟨ps, hps⟩ := Network.exists_points hu
    have hmem : ∀ l ∈ t.arrivalLegs d u e, t.edgeOver est l =
        ⟨e.node, t.network.price est l.reverse⟩ := by
      intro l hl
      obtain ⟨-, htarget, howner, -⟩ := mem_arrivalLegs.mp hl
      rw [edgeOver, toll, htarget, hnode, howner, hfree hvirtual]
      simp
    rw [if_pos hvirtual, Network.liesOn, hps, List.map_congr_left hmem]
    simp only [bind, Except.bind]
    split
    case isTrue hroad =>
      rw [Network.neighbours_eq ht.consistent hest hvalid]
      refine congrArg Except.ok ?_
      rw [arrivalLegs, if_pos hvirtual, List.map_map, List.filterMap_map]
      conv_rhs => rw [← List.filterMap_eq_map, List.filterMap_filter]
      refine List.filterMap_congr fun l hl => ?_
      obtain ⟨-, ⟨j, hj⟩, -⟩ := Network.mem_legsAround.mp hl
      simp [Network.edgeOver, hj]
    case isFalse hroad =>
      -- no leg to the joint, since no point of the joint is on the road
      refine congrArg Except.ok ?_
      rw [eq_comm, List.map_eq_nil_iff, List.eq_nil_iff_forall_not_mem]
      intro l hl
      obtain ⟨-, htarget, howner, -⟩ := mem_arrivalLegs.mp hl
      apply hroad
      have hsource := (ht.consistent.mem_points_iff hps).mpr howner
      rw [List.any_eq_true]
      have hroad' : l.target.road = e.point.road := congrArg RoadPoint.road htarget
      exact ⟨l.source, hsource, beq_iff_eq.mpr hroad'⟩
  · rw [if_neg hvirtual, arrivalLegs, if_neg hvirtual, List.map_nil]

/-- The legs to a joint and those to the two endpoints end at different points. -/
theorem nodup_jointLegs (ht : t.Proper) {ps : List RoadPoint}
    (hps : t.network.joints.points u = .ok ps) :
    (ps.flatMap (t.network.legsAround d) ++ t.arrivalLegs d u t.start ++
      t.arrivalLegs d u t.finish).Nodup := by
  have howner : ∀ l ∈ ps.flatMap (t.network.legsAround d),
      ∃ j, t.network.owners.find? l.target = some j := by
    intro l hl
    obtain ⟨p, -, hl⟩ := List.mem_flatMap.mp hl
    exact (Network.mem_legsAround.mp hl).2.1
  refine List.nodup_append'.mpr ⟨List.nodup_append'.mpr
    ⟨Network.nodup_flatMap_legsAround (ht.consistent.nodup hps), nodup_arrivalLegs, ?_⟩,
    nodup_arrivalLegs, ?_⟩
  · intro l hl hl'
    obtain ⟨hvirtual, htarget, -⟩ := mem_arrivalLegs.mp hl'
    obtain ⟨j, hj⟩ := howner l hl
    rw [htarget, ht.start_isVirtual_iff.mp hvirtual] at hj
    cases hj
  · intro l hl hl'
    obtain ⟨hvirtual, htarget, -⟩ := mem_arrivalLegs.mp hl'
    obtain ⟨hfree, hne⟩ := ht.finish_isVirtual_iff.mp hvirtual
    rcases List.mem_append.mp hl with hl | hl
    · obtain ⟨j, hj⟩ := howner l hl
      rw [htarget, hfree] at hj
      cases hj
    · exact hne (htarget.symm.trans (mem_arrivalLegs.mp hl).2.1)

/-- The legs of a joint lead to other joints and to both endpoints. -/
theorem joint_over (ht : t.Proper) (hu : u < t.network.joints.count) {ps : List RoadPoint}
    (hps : t.network.joints.points u = .ok ps) :
    t.Over d u (ps.flatMap (t.network.legsAround d) ++ t.arrivalLegs d u t.start ++
      t.arrivalLegs d u t.finish) := by
  constructor
  case nodup => exact nodup_jointLegs ht hps
  case mem_iff =>
    intro l
    rw [List.mem_append, List.mem_append, List.mem_flatMap, mem_arrivalLegs, mem_arrivalLegs,
      ht.start_isVirtual_iff, ht.finish_isVirtual_iff, nodeOf?_eq_joint_iff hu,
      exists_nodeOf?_iff]
    constructor
    · rintro ((⟨p, hp, hl⟩ | ⟨-, htarget, hsource, hdrives, hclear⟩) |
        ⟨-, htarget, hsource, hdrives, hclear⟩)
      · obtain ⟨rfl, howner, hdrives, hclear⟩ := Network.mem_legsAround.mp hl
        exact ⟨(ht.consistent.mem_points_iff hps).mp hp, .inl howner, hdrives, .inl hclear⟩
      · exact ⟨hsource, .inr (.inl htarget), hdrives, .inl hclear⟩
      · exact ⟨hsource, .inr (.inr htarget), hdrives, .inl hclear⟩
    · rintro ⟨hsource, hend, hdrives, hfree⟩
      have hclear : t.network.owners.Clear l.road l.first l.last := by
        refine hfree.resolve_right fun hnone => ?_
        rw [hnone.1] at hsource
        cases hsource
      cases htarget : t.network.owners.find? l.target with
      | some j =>
        have hp := (ht.consistent.mem_points_iff hps).mpr hsource
        exact .inl (.inl ⟨l.source, hp, Network.mem_legsAround.mpr
          ⟨rfl, ⟨j, htarget⟩, hdrives, hclear⟩⟩)
      | none =>
        rw [htarget] at hend
        by_cases hstart : l.target = t.start.point
        · exact .inl (.inr ⟨hstart ▸ htarget, hstart, hsource, hdrives, hclear⟩)
        · have hfinish : l.target = t.finish.point := by simpa [hstart] using hend
          exact .inr ⟨⟨hfinish ▸ htarget, hfinish ▸ hstart⟩, hfinish, hsource, hdrives, hclear⟩

/-! ## All edges -/

/-- Every node lists its edges, one over each leg that joins it to a node. -/
theorem Proper.edges_spec (ht : t.Proper) (hest : t.network.Priced est) (hu : t.IsNode u)
    (d : Direction) : ∃ L, t.Over d u L ∧ t.edges est d u = .ok (L.map (t.edgeOver est)) := by
  unfold edges
  rw [ht.start_reserved, ht.finish_reserved]
  rcases ht.isNode_cases hu with hu | ⟨rfl, hfree⟩ | ⟨rfl, hfree, hne⟩
  · obtain ⟨ps, hps⟩ := Network.exists_points hu
    refine ⟨_, joint_over ht hu hps, ?_⟩
    have hown : t.network.edges est d u =
        .ok ((ps.flatMap (t.network.legsAround d)).map (t.edgeOver est)) := by
      rw [Network.edges_eq ht.consistent hest hps]
      refine congrArg Except.ok (List.map_congr_left fun l hl => ?_)
      obtain ⟨p, -, hl⟩ := List.mem_flatMap.mp hl
      obtain ⟨-, ⟨j, hj⟩, -⟩ := Network.mem_legsAround.mp hl
      exact (edgeOver_of_owner hj).symm
    have hstart := arrivals_eq (d := d) ht hest hu ht.start_valid ht.nodeOf?_start
      ht.start_isVirtual_iff.mp
    have hfinish := arrivals_eq (d := d) ht hest hu ht.finish_valid ht.nodeOf?_finish
      fun h => (ht.finish_isVirtual_iff.mp h).1
    rw [if_neg (by omega), if_neg (by omega), hown, hstart, hfinish, List.map_append,
      List.map_append]
    rfl
  · rw [if_pos rfl]
    exact (ht.start_stands hfree).departures_spec ht hest
  · rw [if_neg (by omega), if_pos rfl]
    exact (ht.finish_stands hfree hne).departures_spec ht hest

theorem Over.weightsTo_eq {L : List Leg} (h : t.Over d u L) (v : Nat) :
    Edge.weightsTo v (L.map (t.edgeOver est)) =
      (L.filter fun l => t.nodeOf? l.target = some v).map (t.toll est) := by
  rw [Edge.weightsTo, List.filter_map, List.map_map]
  have hfilter : L.filter ((fun e => decide (e.target = v)) ∘ t.edgeOver est) =
      L.filter fun l => t.nodeOf? l.target = some v := by
    refine List.filter_congr fun l hl => ?_
    obtain ⟨-, ⟨w, hw⟩, -⟩ := (h.mem_iff l).mp hl
    simp [edgeOver, hw]
  rw [hfilter]
  rfl

/-- The legs that leave `u` for `v` are, turned around, those that arrive at `v` from `u`. -/
theorem Over.perm_reverse {L L' : List Leg} (h : t.Over d u L) (h' : t.Over d.opposite v L') :
    (L.filter fun l => t.nodeOf? l.target = some v).Perm
      ((L'.filter fun l => t.nodeOf? l.target = some u).map Leg.reverse) := by
  have hinj : Function.Injective Leg.reverse := by
    intro l l' heq
    rw [← l.reverse_reverse, heq, l'.reverse_reverse]
  refine (List.perm_ext_iff_of_nodup (h.nodup.filter _)
    (List.Nodup.map hinj (h'.nodup.filter _))).mpr fun l => ?_
  rw [← l.reverse_reverse, List.mem_map_of_injective hinj, List.mem_filter, List.mem_filter,
    h.mem_iff, h'.mem_iff, joins_reverse_iff, Leg.reverse_reverse, decide_eq_true_eq,
    decide_eq_true_eq, Leg.source_reverse, Leg.target_reverse]
  constructor
  · rintro ⟨⟨hsource, -, hjoins⟩, htarget⟩
    exact ⟨⟨htarget, ⟨u, hsource⟩, hjoins⟩, hsource⟩
  · rintro ⟨⟨htarget, -, hjoins⟩, hsource⟩
    exact ⟨⟨hsource, ⟨v, htarget⟩, hjoins⟩, htarget⟩

theorem Proper.edgesOrNone_eq (ht : t.Proper) (hest : t.network.Priced est) (hu : t.IsNode u)
    (d : Direction) : ∃ L, t.Over d u L ∧
      (t.graph est).edgesOrNone d u = L.map (t.edgeOver est) := by
  obtain ⟨L, hL, hedges⟩ := ht.edges_spec hest hu d
  exact ⟨L, hL, Graph.edgesOrNone_eq hedges⟩

/-- No edge leaves the nodes of a trip, and all of them list their edges. -/
theorem Proper.domain (ht : t.Proper) (hest : t.network.Priced est) :
    (t.graph est).Domain t.IsNode where
  lists hn d := by
    obtain ⟨L, -, hedges⟩ := ht.edges_spec hest hn d
    exact ⟨_, hedges⟩
  stays := by
    intro u hu d e he
    obtain ⟨L, hL, hedges⟩ := ht.edgesOrNone_eq hest hu d
    rw [hedges] at he
    obtain ⟨l, hl, rfl⟩ := List.mem_map.mp he
    obtain ⟨-, ⟨v, hv⟩, -⟩ := (hL.mem_iff l).mp hl
    rw [edgeOver, hv]
    exact ht.isNode_of_nodeOf? hv

theorem Proper.weightsTo_perm (ht : t.Proper) (hest : t.network.Priced est)
    (hsymm : est.Symmetric) (hu : t.IsNode u) (hv : t.IsNode v) :
    ∃ es es', t.edges est .outgoing u = .ok es ∧ t.edges est .incoming v = .ok es' ∧
      (Edge.weightsTo v es).Perm (Edge.weightsTo u es') := by
  obtain ⟨L, hL, hes⟩ := ht.edges_spec hest hu .outgoing
  obtain ⟨L', hL', hes'⟩ := ht.edges_spec hest hv .incoming
  refine ⟨_, _, hes, hes', ?_⟩
  have htoll : t.toll est = t.network.price est := by
    funext l
    exact toll_eq_price hsymm
  have hreverse : t.network.price est ∘ Leg.reverse = t.network.price est := by
    funext l
    exact Network.price_reverse hsymm l
  have hperm := (hL.perm_reverse (v := v) hL').map (t.network.price est)
  rwa [List.map_map, hreverse, ← htoll, ← hL.weightsTo_eq, ← hL'.weightsTo_eq] at hperm

/-- With equal costs in both directions, the two sides of the graph mirror each other. -/
theorem Proper.mirrored (ht : t.Proper) (hest : t.network.Priced est) (hsymm : est.Symmetric) :
    (t.graph est).Mirrored t.IsNode := by
  intro u v hu hv
  obtain ⟨es, es', hes, hes', hperm⟩ := ht.weightsTo_perm hest hsymm hu hv
  rwa [Graph.edgesOrNone_eq hes, Graph.edgesOrNone_eq hes']

/-- In a trip between two existing road points of a network that was built, the edges that leave a
    node for another are those that arrive at the other from it, weight by weight. -/
theorem edges_mirror {roads : Array (Road K)} {joints : List (List RoadPoint)} {net : Network K}
    {p q : RoadPoint} (hnet : Network.build roads joints = .ok net) (hest : net.Priced est)
    (hsymm : est.Symmetric) (hp : net.hasPoint p = true) (hq : net.hasPoint q = true)
    (hu : (between net p q).IsNode u) (hv : (between net p q).IsNode v) :
    ∃ es es', (between net p q).edges est .outgoing u = .ok es ∧
      (between net p q).edges est .incoming v = .ok es' ∧
      (Edge.weightsTo v es).Perm (Edge.weightsTo u es') :=
  (proper_between (Network.consistent_of_build hnet) hp hq).weightsTo_perm hest hsymm hu hv

/-- On a road between two joints, for a trip to one of them. -/
theorem edges_mirror_sample :
    ∃ net, Network.build Network.sampleRoads Network.sampleJoints = .ok net ∧
      ∃ es es', (between net ⟨0, 2⟩ ⟨0, 0⟩).edges Network.sampleEstimator .outgoing 0 = .ok es ∧
        (between net ⟨0, 2⟩ ⟨0, 0⟩).edges Network.sampleEstimator .incoming
          (between net ⟨0, 2⟩ ⟨0, 0⟩).start.node = .ok es' ∧
        (Edge.weightsTo (between net ⟨0, 2⟩ ⟨0, 0⟩).start.node es).Perm
          (Edge.weightsTo 0 es') := by
  obtain ⟨net, hnet, -, hcount, hfirst, hsecond⟩ := Network.build_sample
  have hjoint : (between net ⟨0, 2⟩ ⟨0, 0⟩).IsNode 0 := .inl (by
    show 0 < net.joints.count
    omega)
  exact ⟨net, hnet, edges_mirror hnet (Network.priced_sample net) Network.symmetric_sample hsecond
    hfirst hjoint (.inr (.inl rfl))⟩

end Weights

end RoadRouting.Trip
