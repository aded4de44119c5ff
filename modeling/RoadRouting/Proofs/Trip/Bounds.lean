import Mathlib.Data.Nat.Dist
import RoadRouting.Proofs.Router
import RoadRouting.Proofs.Search.Estimates

/-!
# Lower bounds from coordinates

The search with an estimate takes the bound between the coordinates of a node and those of the goal for
a lower bound of what remains. It need not be one: a joint has the coordinates of its first road point,
while the costs of its edges run between whichever of its points lie on the road, and joints are
imported although their points lie apart. As far as the bound tells them apart, the estimate may exceed
the remaining cost, and then the search misses the cheapest way.

* `Network.Bounded`: the bound exceeds no cost between two points of a road.
* `Network.Level`: the bound does not tell the points of a joint apart.
* `Trip.Proper.guides`: on a level network the bound guides the search.
* `Trip.aStar_agrees_with_dijkstra`: the search with an estimate finds a way when Dijkstra's does, and
  one of the same weight on a level network.
* `Trip.aStar_misses_the_cheapest`: where the estimate exceeds what remains, it finds another way.
-/

namespace RoadRouting

variable {K W : Type}

/-! ## Bounds between the points of a network -/

namespace Network

section Bounds

variable [LinearOrderedAddCommMonoidWithTop W]

/-- The lower bound is not negative, is zero between equal coordinates, obeys the triangle inequality,
    and exceeds no cost between two points of one road of the network. -/
structure Bounded (net : Network K) (est : Estimator K W) : Prop where
  nonneg : ∀ x y, 0 ≤ est.bound x y
  self_eq_zero : ∀ x, est.bound x x = 0
  triangle : ∀ x y z, est.bound x z ≤ est.bound x y + est.bound y z
  le_weight : ∀ {r a b : Nat} {road : Road K} {x y : GeoPoint K} {w : W},
    net.roads[r]? = some road → road.pointAt a = .ok x → road.pointAt b = .ok y →
    est.weight road a b = .ok w → est.bound x y ≤ w

/-- The lower bound is zero between the coordinates of any two points of one joint. -/
def Level (net : Network K) (est : Estimator K W) : Prop :=
  ∀ {j ps p q x y}, net.joints.points j = .ok ps → p ∈ ps → q ∈ ps → net.geometry p = .ok x →
    net.geometry q = .ok y → est.bound x y = 0

variable {net : Network K} {est : Estimator K W} {l : Leg} {x y : GeoPoint K}

/-- Joints whose points have equal coordinates are level. -/
theorem Bounded.level (h : net.Bounded est)
    (hequal : ∀ {j ps p q x y}, net.joints.points j = .ok ps → p ∈ ps → q ∈ ps →
      net.geometry p = .ok x → net.geometry q = .ok y → x = y) : net.Level est := by
  intro j ps p q x y hps hp hq hx hy
  rw [hequal hps hp hq hx hy]
  exact h.self_eq_zero y

/-- No leg costs less than the bound between its ends. -/
theorem Bounded.le_price (h : net.Bounded est) (hest : net.Priced est)
    (hsource : net.hasPoint l.source = true) (htarget : net.hasPoint l.target = true)
    (hx : net.geometry l.source = .ok x) (hy : net.geometry l.target = .ok y) :
    est.bound x y ≤ net.price est l := by
  obtain ⟨road, hroad, hfirst⟩ := geometry_eq_ok_iff.mp hx
  obtain ⟨road', hroad', hlast⟩ := geometry_eq_ok_iff.mp hy
  obtain rfl : road' = road := Option.some.inj (hroad'.symm.trans hroad)
  exact h.le_weight hroad (Road.pointAt_eq_ok.mpr hfirst) (Road.pointAt_eq_ok.mpr hlast)
    (weight_eq_price hest hroad hsource htarget)

end Bounds

end Network

/-! ## Bounds between the nodes of a trip -/

namespace Trip

variable {t : Trip K} {est : Estimator K W} {n goal : Nat} {p q : RoadPoint} {x y : GeoPoint K}

/-- The coordinates of a node are those of its first point. -/
theorem geometry_of_points {ps : List RoadPoint} (h : t.points n = .ok (p :: ps)) :
    t.geometry n = t.network.geometry p := by
  unfold points at h
  unfold geometry
  split at h
  case isTrue hstart =>
    cases h
    rw [if_pos hstart]
  case isFalse hstart =>
    rw [if_neg hstart]
    split at h
    case isTrue hfinish =>
      cases h
      rw [if_pos hfinish]
    case isFalse hfinish =>
      rw [if_neg hfinish, Network.jointGeometry, h]
      rfl

theorem bound_eq {z : GeoPoint K} (hx : t.geometry n = .ok x) (hz : t.geometry goal = .ok z) :
    t.bound est goal n = .ok (est.bound x z) := by
  simp only [bound, hx, hz, bind, Except.bind]

/-- No joint is empty, so every node has the coordinates of one of its points. -/
theorem Proper.geometry_spec (ht : t.Proper)
    (hfilled : t.network.Filled) (hn : t.IsNode n) :
    ∃ p x, t.nodeOf? p = some n ∧ t.network.geometry p = .ok x ∧ t.geometry n = .ok x := by
  obtain ⟨p₀, hp₀⟩ : ∃ p, t.nodeOf? p = some n := by
    rcases hn with hn | rfl | rfl
    · obtain ⟨ps, hps⟩ := Network.exists_points hn
      obtain ⟨p, hp⟩ := List.exists_mem_of_ne_nil ps (hfilled n ps hps)
      exact ⟨p, nodeOf?_of_owner ((ht.consistent.mem_points_iff hps).mp hp)⟩
    · exact ⟨_, ht.nodeOf?_start⟩
    · exact ⟨_, ht.nodeOf?_finish⟩
  obtain ⟨ps, hps, -, hmem⟩ := ht.points_spec hn
  cases ps with
  | nil => exact absurd ((hmem p₀).mpr hp₀) List.not_mem_nil
  | cons p ps =>
    have hp := (hmem p).mp List.mem_cons_self
    obtain ⟨x, hx⟩ := Network.geometry_of_hasPoint (ht.valid_of_nodeOf? hp)
    exact ⟨p, x, hp, hx, (geometry_of_points hps).trans hx⟩

section Exact

variable [LinearOrderedAddCommMonoidWithTop W]

/-- On a level network the bound does not tell the points of a node apart. -/
theorem Proper.bound_eq_zero (ht : t.Proper) (hbound : t.network.Bounded est)
    (hlevel : t.network.Level est) (hp : t.nodeOf? p = some n) (hq : t.nodeOf? q = some n)
    (hx : t.network.geometry p = .ok x) (hy : t.network.geometry q = .ok y) :
    est.bound x y = 0 := by
  rcases ht.eq_or_mem_joint hp hq with rfl | ⟨j, ps, hps, hp, hq⟩
  · rw [hx] at hy
    rw [Except.ok.inj hy]
    exact hbound.self_eq_zero y
  · exact hlevel hps hp hq hx hy

/-- The estimates of the nodes on a level network do not drop by more than the weight along an edge:
    the detours from the coordinates of the nodes to the ends of the leg count for nothing. -/
theorem Proper.guides (ht : t.Proper) (hfilled : t.network.Filled)
    (hest : t.network.Priced est) (hsymm : est.Symmetric) (hbound : t.network.Bounded est)
    (hlevel : t.network.Level est) (hgoal : t.IsNode goal) :
    (t.graph est).Guides t.IsNode (t.bound est goal) := by
  obtain ⟨-, z, -, -, hz⟩ := ht.geometry_spec hfilled hgoal
  constructor
  case answers =>
    intro n hn
    obtain ⟨-, x, -, -, hx⟩ := ht.geometry_spec hfilled hn
    exact ⟨_, bound_eq hx hz⟩
  case drop_le =>
    intro u v w a b hu hedge ha hb
    obtain ⟨l, hsource, htarget, -, rfl⟩ := ht.joins_of_edge hest hu hedge
    obtain ⟨p, x, hp, hpx, hx⟩ := ht.geometry_spec hfilled hu
    obtain ⟨q, y, hq, hqy, hy⟩ := ht.geometry_spec hfilled (ht.isNode_of_nodeOf? htarget)
    obtain rfl := Except.ok.inj ((bound_eq hx hz).symm.trans ha)
    obtain rfl := Except.ok.inj ((bound_eq hy hz).symm.trans hb)
    have hsource' := ht.valid_of_nodeOf? hsource
    have htarget' := ht.valid_of_nodeOf? htarget
    obtain ⟨first, hfirst⟩ := Network.geometry_of_hasPoint hsource'
    obtain ⟨last, hlast⟩ := Network.geometry_of_hasPoint htarget'
    rw [toll_eq_price hsymm]
    calc est.bound x z
        ≤ est.bound x first + est.bound first z := hbound.triangle ..
      _ = est.bound first z := by
          rw [ht.bound_eq_zero hbound hlevel hp hsource hpx hfirst, zero_add]
      _ ≤ est.bound first last + est.bound last z := hbound.triangle ..
      _ ≤ t.network.price est l + est.bound last z :=
          add_le_add_left (hbound.le_price hest hsource' htarget' hfirst hlast) _
      _ ≤ t.network.price est l + (est.bound last y + est.bound y z) :=
          add_le_add_right (hbound.triangle ..) _
      _ = t.network.price est l + est.bound y z := by
          rw [ht.bound_eq_zero hbound hlevel htarget hq hlast hqy, zero_add]

/-! ## The search with an estimate -/

/-- Whatever the bound is, the search with an estimate finds a way exactly when Dijkstra's does, and
    never a cheaper one. -/
theorem Proper.aStar_finds [Nontrivial W] (ht : t.Proper) (hfilled : t.network.Filled)
    (hest : t.network.Priced est) (hnonneg : est.NonNegative)
    (hids : t.network.joints.count + 1 < noJoint) :
    ∃ one guided, t.search est t.start.node t.finish.node .dijkstra = .ok one ∧
      t.search est t.start.node t.finish.node .aStar = .ok guided ∧
      guided.isSome = one.isSome ∧
      ∀ path ∈ guided, ∀ best ∈ one, best.weight ≤ path.weight := by
  have hid := ht.ne_noJoint hids
  have hg := ht.domain hest
  have hestimate : ∀ n, t.IsNode n → ∃ rest, t.bound est t.finish.node n = .ok rest := by
    intro n hn
    obtain ⟨-, x, -, -, hx⟩ := ht.geometry_spec hfilled hn
    obtain ⟨-, z, -, -, hz⟩ := ht.geometry_spec hfilled isNode_finish
    exact ⟨_, bound_eq hx hz⟩
  obtain ⟨one, hone, hcheapest⟩ : ∃ one,
      t.search est t.start.node t.finish.node .dijkstra = .ok one ∧
        (t.graph est).Cheapest t.start.node t.finish.node one :=
    Search.dijkstra_spec hg (ht.nonNegative hest hnonneg) hid isNode_start
  obtain ⟨guided, hguided, hfound, hwalk⟩ : ∃ guided,
      t.search est t.start.node t.finish.node .aStar = .ok guided ∧
        (guided.isSome = true ↔ ∃ nodes c,
          (t.graph est).Walk .outgoing t.start.node nodes t.finish.node c ∧ c < ⊤) ∧
        ∀ path ∈ guided,
          (t.graph est).Walk .outgoing t.start.node path.joints t.finish.node path.weight ∧
            path.weight < ⊤ :=
    Search.BestFirst.search_finds hg hid isNode_start hestimate
  refine ⟨one, guided, hone, hguided, Bool.eq_iff_iff.mpr ?_, fun path hpath best hbest => ?_⟩
  · rw [hfound, hcheapest.isSome_iff Cost.zero_lt_top]
    rfl
  · obtain rfl := Option.mem_def.mp hbest
    exact hcheapest.isLeast.2 ⟨_, (hwalk path hpath).1⟩

/-- On a level network the way found with an estimate weighs what Dijkstra's does. -/
theorem Proper.aStar_agrees (ht : t.Proper) (hfilled : t.network.Filled)
    (hest : t.network.Priced est) (hsymm : est.Symmetric) (hnonneg : est.NonNegative)
    (hids : t.network.joints.count + 1 < noJoint) (hbound : t.network.Bounded est)
    (hlevel : t.network.Level est) {one guided : Option (Search.Path W)}
    (hone : t.search est t.start.node t.finish.node .dijkstra = .ok one)
    (hguided : t.search est t.start.node t.finish.node .aStar = .ok guided) :
    guided.map (·.weight) = one.map (·.weight) := by
  have hid := ht.ne_noJoint hids
  have hguides : (t.graph est).Guides t.IsNode (t.bound est t.finish.node) :=
    ht.guides hfilled hest hsymm hbound hlevel isNode_finish
  obtain ⟨one', guided', hone', hguided', hweight, -⟩ :=
    Search.BestFirst.search_agrees hguides (ht.domain hest) (ht.nonNegative hest hnonneg) hid
      isNode_start
  obtain rfl := Except.ok.inj (hone'.symm.trans hone)
  obtain rfl := Except.ok.inj (hguided'.symm.trans hguided)
  exact hweight

/-- In a trip between two existing road points of a network that was built, the search with an
    estimate finds a way exactly when Dijkstra's does, and none that costs less. Both ways have the
    same weight if the bound is zero between the coordinates of the points of a joint. -/
theorem aStar_agrees_with_dijkstra [Nontrivial W] {roads : Array (Road K)}
    {joints : List (List RoadPoint)} {net : Network K} {p q : RoadPoint}
    (hnet : Network.build roads joints = .ok net) (hest : net.Priced est) (hsymm : est.Symmetric)
    (hnonneg : est.NonNegative) (hbound : net.Bounded est) (hids : net.joints.count + 1 < noJoint)
    (hp : net.hasPoint p = true) (hq : net.hasPoint q = true) :
    ∃ one guided, (between net p q).search est (between net p q).start.node
          (between net p q).finish.node .dijkstra = .ok one ∧
      (between net p q).search est (between net p q).start.node (between net p q).finish.node
          .aStar = .ok guided ∧
      guided.isSome = one.isSome ∧
      (∀ path ∈ guided, ∀ best ∈ one, best.weight ≤ path.weight) ∧
      (net.Level est → guided.map (·.weight) = one.map (·.weight)) := by
  have ht := proper_between (Network.consistent_of_build hnet) hp hq
  have hfilled := Network.filled_of_build hnet
  obtain ⟨one, guided, hone, hguided, hfound, hle⟩ := ht.aStar_finds hfilled hest hnonneg hids
  exact ⟨one, guided, hone, hguided, hfound, hle, fun hlevel =>
    ht.aStar_agrees hfilled hest hsymm hnonneg hids hbound hlevel hone hguided⟩

end Exact

end Trip

/-! ## A fast road and a slow one -/

namespace Network

/-- A unit for every point that is passed at the speed 50. -/
def gridEstimator : Estimator Nat ℕ∞ where
  weight road a b := .ok ((Nat.dist a b * 50 / road.speed : Nat) : ℕ∞)
  bound x y := (gridDistance x y : ℕ∞)

/-- A fast road with a point in the middle, a slow road between the same two ends, and a place far
    away from both. -/
def detourRoads : Array (Road Nat) :=
  #[.drivable #[⟨0, 0⟩, ⟨0, 1⟩, ⟨0, 2⟩] false 50, .drivable #[⟨0, 0⟩, ⟨0, 2⟩] false 10,
    .drivable #[⟨0, 9⟩] false 50]

/-- The two roads meet at both ends. -/
def detourJoints (middle : List RoadPoint) : List (List RoadPoint) :=
  [[⟨0, 0⟩, ⟨1, 0⟩], middle, [⟨0, 2⟩, ⟨1, 1⟩]]

variable {net : Network Nat}

theorem priced_grid (net : Network Nat) : net.Priced gridEstimator :=
  fun _ _ _ => ⟨_, rfl⟩

theorem symmetric_grid : gridEstimator.Symmetric := by
  intro road a b
  show Except.ok ((Nat.dist a b * 50 / road.speed : Nat) : ℕ∞) =
    .ok ((Nat.dist b a * 50 / road.speed : Nat) : ℕ∞)
  rw [Nat.dist_comm]

theorem nonNegative_grid : gridEstimator.NonNegative :=
  fun _ => zero_le

theorem bounded_grid (hroads : net.roads = detourRoads) : net.Bounded gridEstimator where
  nonneg _ _ := zero_le
  self_eq_zero x := by
    show (gridDistance x x : ℕ∞) = 0
    rw [gridDistance, Nat.dist_self, Nat.dist_self]
    rfl
  triangle x y z := by
    have htriangle : gridDistance x z ≤ gridDistance x y + gridDistance y z := by
      have hlat := Nat.dist.triangle_inequality x.lat y.lat z.lat
      have hlng := Nat.dist.triangle_inequality x.lng y.lng z.lng
      unfold gridDistance
      omega
    show (gridDistance x z : ℕ∞) ≤ gridDistance x y + gridDistance y z
    exact_mod_cast htriangle
  le_weight := by
    intro r a b road x y w hroad hx hy hw
    have hall : ∀ road ∈ detourRoads.toList, ∀ a < road.points.size, ∀ b < road.points.size,
        ∀ x ∈ road.points[a]?, ∀ y ∈ road.points[b]?,
          gridDistance x y ≤ Nat.dist a b * 50 / road.speed := by
      decide
    have hmem : road ∈ detourRoads.toList := by
      rw [Array.mem_toList_iff, ← hroads]
      exact Array.mem_of_getElem? hroad
    have ha := Road.exists_pointAt_iff.mp ⟨x, hx⟩
    have hb := Road.exists_pointAt_iff.mp ⟨y, hy⟩
    obtain rfl := Except.ok.inj hw
    exact Nat.cast_le.mpr (hall road hmem a ha b hb x (Road.pointAt_eq_ok.mp hx) y
      (Road.pointAt_eq_ok.mp hy))

end Network

namespace Trip

open Network (detourRoads detourJoints gridEstimator)

/-- The fast road is a way of weight 2, and the points of every joint have the same coordinates. -/
theorem aStar_agrees_with_dijkstra_detour :
    ∃ net, Network.build detourRoads (detourJoints [⟨0, 1⟩]) = .ok net ∧
      net.Level gridEstimator ∧ ∃ path, (between net ⟨0, 0⟩ ⟨0, 2⟩).search gridEstimator
          (between net ⟨0, 0⟩ ⟨0, 2⟩).start.node (between net ⟨0, 0⟩ ⟨0, 2⟩).finish.node
          .aStar = .ok (some path) ∧ path.weight = 2 := by
  obtain ⟨net, hnet, hroads, hjoints, hfirst, hsecond, hdijkstra⟩ : ∃ net,
      Network.build detourRoads (detourJoints [⟨0, 1⟩]) = .ok net ∧ net.roads = detourRoads ∧
      net.joints.entries = (detourJoints [⟨0, 1⟩]).toArray ∧ net.hasPoint ⟨0, 0⟩ = true ∧
      net.hasPoint ⟨0, 2⟩ = true ∧ (between net ⟨0, 0⟩ ⟨0, 2⟩).search gridEstimator
          (between net ⟨0, 0⟩ ⟨0, 2⟩).start.node (between net ⟨0, 0⟩ ⟨0, 2⟩).finish.node
          .dijkstra = .ok (some ⟨[0, 1, 2], 2, 3⟩) :=
    ⟨_, rfl, rfl, rfl, rfl, rfl, rfl⟩
  have hids : net.joints.count + 1 < noJoint := by
    rw [JointTable.count, hjoints]
    decide
  have hbound := Network.bounded_grid hroads
  have hlevel : net.Level gridEstimator := by
    refine hbound.level fun {j ps p q x y} hps hp hq hx hy => ?_
    have hall : ∀ ps ∈ detourJoints [⟨0, 1⟩], ∀ p ∈ ps, ∀ q ∈ ps,
        ∀ road ∈ detourRoads[p.road]?, ∀ x ∈ road.points[p.offset]?,
        ∀ road ∈ detourRoads[q.road]?, ∀ y ∈ road.points[q.offset]?, x = y := by
      decide
    obtain ⟨road, hroad, hx⟩ := Network.geometry_eq_ok_iff.mp hx
    obtain ⟨road', hroad', hy⟩ := Network.geometry_eq_ok_iff.mp hy
    rw [hroads] at hroad hroad'
    rw [JointTable.points_eq_ok, hjoints, List.getElem?_toArray] at hps
    exact hall ps (List.mem_of_getElem? hps) p hp q hq road hroad x hx road' hroad' y hy
  obtain ⟨one, guided, hone, hguided, -, -, hagrees⟩ := aStar_agrees_with_dijkstra hnet
    (Network.priced_grid net) Network.symmetric_grid Network.nonNegative_grid hbound hids hfirst
    hsecond
  obtain rfl := Except.ok.inj (hone.symm.trans hdijkstra)
  obtain ⟨path, rfl, hweight⟩ := Option.map_eq_some_iff.mp (hagrees hlevel)
  exact ⟨net, hnet, hlevel, path, hguided, hweight⟩

/-- Once the joint in the middle has the coordinates of a place far away, its estimate is 7 where 1
    remains. The search with an estimate takes the slow road, although the bound exceeds no cost along a
    road. -/
theorem aStar_misses_the_cheapest :
    ∃ net, Network.build detourRoads (detourJoints [⟨2, 0⟩, ⟨0, 1⟩]) = .ok net ∧
      net.Priced gridEstimator ∧ gridEstimator.Symmetric ∧ gridEstimator.NonNegative ∧
      net.Bounded gridEstimator ∧ net.joints.count + 1 < noJoint ∧
      net.hasPoint ⟨0, 0⟩ = true ∧ net.hasPoint ⟨0, 2⟩ = true ∧
      (between net ⟨0, 0⟩ ⟨0, 2⟩).search gridEstimator (between net ⟨0, 0⟩ ⟨0, 2⟩).start.node
        (between net ⟨0, 0⟩ ⟨0, 2⟩).finish.node .dijkstra = .ok (some ⟨[0, 1, 2], 2, 3⟩) ∧
      (between net ⟨0, 0⟩ ⟨0, 2⟩).search gridEstimator (between net ⟨0, 0⟩ ⟨0, 2⟩).start.node
        (between net ⟨0, 0⟩ ⟨0, 2⟩).finish.node .aStar = .ok (some ⟨[0, 2], 5, 2⟩) :=
  ⟨_, rfl, Network.priced_grid _, Network.symmetric_grid, Network.nonNegative_grid,
    Network.bounded_grid rfl, by decide, rfl, rfl, rfl, rfl⟩

end Trip

end RoadRouting
