import Mathlib.Algebra.BigOperators.Intervals
import Mathlib.Algebra.Order.BigOperators.Group.Finset
import Mathlib.Algebra.Order.Field.Basic
import Mathlib.Algebra.Order.Field.Rat
import Mathlib.Tactic.NormNum
import RoadRouting.Proofs.Lookups

/-!
# The costs of a car

With exact numbers and any metric for the distances, the costs of a car obey the laws that searches and
the choice of legs rely on. Between two offsets a car drives one segment of the road after the other, so
what it drives adds up along the road and is no shorter than the straight line. The speed of the road
never exceeds the cap, so no road is faster than the straight line at the speed of the cap.

* `GeoPoint.Metric`: the laws of distances.
* `Road.segment`: the length of one segment of a road.
* `Car.length_eq`: a stretch of a road is as long as its segments together.
* `Car.weight_eq`: the cost of a stretch.
* `Network.metered_car`, `Network.bounded_car`: the laws of costs and bounds on every network.
* `Car.estimator_obeys_the_laws`: the same, written out for one road.
-/

namespace RoadRouting

variable {K : Type} {distance : GeoPoint K → GeoPoint K → K} {road : Road K} {a b c : Nat}
  {p q : GeoPoint K}

/-- Distances are not negative, are the same in both directions, are zero between equal places, and
    obey the triangle inequality. -/
structure GeoPoint.Metric [Zero K] [Add K] [LE K] (distance : GeoPoint K → GeoPoint K → K) :
    Prop where
  nonneg : ∀ p q, 0 ≤ distance p q
  comm : ∀ p q, distance p q = distance q p
  self_eq_zero : ∀ p, distance p p = 0
  triangle : ∀ p q r, distance p r ≤ distance p q + distance q r

/-- The length of the segment of a road that begins at an offset. -/
def Road.segment [Zero K] (distance : GeoPoint K → GeoPoint K → K) (road : Road K) (i : Nat) : K :=
  match road.points[i]?, road.points[i + 1]? with
  | some p, some q => distance p q
  | _, _ => 0

/-! ## Stretches and their segments -/

theorem Road.drop_points (hp : road.points[a]? = some p) :
    road.points.toList.drop a = p :: road.points.toList.drop (a + 1) := by
  obtain ⟨ha, rfl⟩ := Array.getElem?_eq_some_iff.mp hp
  exact List.drop_eq_getElem_cons (l := road.points.toList) ha

theorem Road.segment_eq [Zero K] (hp : road.points[a]? = some p)
    (hq : road.points[a + 1]? = some q) : road.segment distance a = distance p q := by
  simp only [segment, hp, hq]

theorem Road.segment_nonneg [Zero K] [Add K] [Preorder K] (hd : GeoPoint.Metric distance)
    (road : Road K) (i : Nat) : 0 ≤ road.segment distance i := by
  unfold segment
  split
  · exact hd.nonneg _ _
  · exact le_rfl

section Sums

variable [AddCommMonoid K]

namespace Car

/-- The points from an offset on, followed for some segments. -/
theorem polyline_take_drop (n : Nat) (h : a + n < road.points.size) (sum : K) :
    polyline distance sum ((road.points.toList.drop a).take (n + 1)) =
      sum + ∑ i ∈ Finset.Ico a (a + n), road.segment distance i := by
  induction n generalizing a sum with
  | zero =>
    obtain ⟨p, hp⟩ : ∃ p, road.points[a]? = some p := ⟨_, Array.getElem?_eq_getElem h⟩
    rw [Road.drop_points hp]
    simp [polyline]
  | succ n ih =>
    obtain ⟨p, hp⟩ : ∃ p, road.points[a]? = some p := ⟨_, Array.getElem?_eq_getElem (by omega)⟩
    obtain ⟨q, hq⟩ : ∃ q, road.points[a + 1]? = some q := ⟨_, Array.getElem?_eq_getElem (by omega)⟩
    have hrest := ih (a := a + 1) (by omega) (sum + road.segment distance a)
    have hsplit := Finset.sum_eq_sum_Ico_succ_bot (by omega : a < a + (n + 1))
      (road.segment distance)
    have hsegment : road.segment distance a = distance p q := Road.segment_eq hp hq
    have hend : a + (n + 1) = a + 1 + n := by omega
    rw [Road.drop_points hq, List.take_succ_cons] at hrest
    rw [Road.drop_points hp, Road.drop_points hq, List.take_succ_cons, List.take_succ_cons, polyline,
      ← hsegment, hrest, hsplit, hend, add_assoc]

theorem length_eq (hab : a ≤ b) (hb : b < road.points.size) :
    length distance road a b = .ok (∑ i ∈ Finset.Ico a b, road.segment distance i) := by
  obtain ⟨n, rfl⟩ := Nat.exists_eq_add_of_le hab
  have hcount : a + n + 1 - a = n + 1 := by omega
  rw [length, if_neg (by omega), Array.toList_extract, List.extract_eq_take_drop, hcount,
    polyline_take_drop n hb, zero_add]

theorem lt_size_of_length {m : K} (h : length distance road a b = .ok m) (hab : a < b) :
    b < road.points.size := by
  by_contra hnot
  rw [length, if_pos ⟨hab, Nat.le_of_not_lt hnot⟩] at h
  cases h

end Car

end Sums

section Distances

variable [AddCommMonoid K] [PartialOrder K] [IsOrderedAddMonoid K]

/-- No stretch of a road is shorter than the straight line between its ends. -/
theorem Road.distance_le_segments (hd : GeoPoint.Metric distance) (hab : a ≤ b)
    (hp : road.points[a]? = some p) (hq : road.points[b]? = some q) :
    distance p q ≤ ∑ i ∈ Finset.Ico a b, road.segment distance i := by
  induction b, hab using Nat.le_induction generalizing q with
  | base =>
    obtain rfl := Option.some.inj (hp.symm.trans hq)
    rw [Finset.Ico_self, Finset.sum_empty, hd.self_eq_zero]
  | succ b hab ih =>
    have hlt : b < road.points.size := Nat.lt_of_succ_lt (Array.getElem?_eq_some_iff.mp hq).1
    obtain ⟨r, hr⟩ : ∃ r, road.points[b]? = some r := ⟨_, Array.getElem?_eq_getElem hlt⟩
    calc distance p q
        ≤ distance p r + distance r q := hd.triangle ..
      _ ≤ (∑ i ∈ Finset.Ico a b, road.segment distance i) + distance r q :=
          add_le_add_left (ih hr) _
      _ = ∑ i ∈ Finset.Ico a (b + 1), road.segment distance i := by
          rw [Finset.sum_Ico_succ_top hab, segment_eq hr hq]

end Distances

/-! ## The cost of a stretch -/

theorem Car.lesser_eq_min [LinearOrder K] (x y : K) : lesser x y = min x y := by
  rcases le_total x y with hle | hle
  · rw [lesser, if_pos hle, min_eq_left hle]
  · rw [lesser, min_eq_right hle, if_pos hle, ite_eq_right_iff]
    exact fun h => le_antisymm h hle

theorem Car.speed_upTo [LinearOrder K] (v : K) (road : Road K) :
    speed (.upTo v) road = min road.speed v :=
  lesser_eq_min road.speed v

section Exact

variable [Field K] [LinearOrder K] [IsStrictOrderedRing K] {unit v m : K} {x y w : WithTop K}

namespace Car

/-- The costs of a car in exact numbers and an infinity. -/
abbrev exact (distance : GeoPoint K → GeoPoint K → K) (unit v : K) : Estimator K (WithTop K) :=
  estimator distance unit (↑) (.upTo v)

theorem weight_eq_ite (distance : GeoPoint K → GeoPoint K → K) (unit v : K) (road : Road K)
    (a b : Nat) : (exact distance unit v).weight road a b =
      if min road.speed v * unit ≤ 0 then .ok ⊤
      else (length distance road (min a b) (max a b)).map
        fun m => ↑(m / (min road.speed v * unit)) := by
  simp only [exact, estimator, seconds?, speed_upTo]
  split
  · rfl
  · cases length distance road (min a b) (max a b) <;> rfl

/-- The cost of a stretch between two points of a road. -/
theorem weight_eq (ha : a < road.points.size) (hb : b < road.points.size) :
    (exact distance unit v).weight road a b = .ok (if min road.speed v * unit ≤ 0 then ⊤
      else ↑((∑ i ∈ Finset.Ico (min a b) (max a b), road.segment distance i) /
        (min road.speed v * unit))) := by
  have hmax : max a b < road.points.size := by omega
  rw [weight_eq_ite, length_eq (by omega) hmax]
  split <;> rfl

/-- A length that is told is that of a stretch between two points of the road, or of none at all. -/
theorem length_nonneg (hd : GeoPoint.Metric distance) (hab : a ≤ b)
    (h : length distance road a b = .ok m) : 0 ≤ m := by
  rcases Nat.eq_or_lt_of_le hab with rfl | hlt
  · -- a single point, or none beyond the end of the road
    have hzero : length distance road a a = .ok 0 := by
      rw [length, if_neg (fun h => Nat.lt_irrefl a h.1), Array.toList_extract,
        List.extract_eq_take_drop, Nat.add_sub_cancel_left]
      cases road.points.toList.drop a <;> rfl
    rw [Except.ok.inj (h.symm.trans hzero)]
  · have hb : b < road.points.size := lt_size_of_length h hlt
    rw [length_eq hab hb] at h
    rw [← Except.ok.inj h]
    exact Finset.sum_nonneg fun i _ => road.segment_nonneg hd i

theorem symmetric_exact : (exact distance unit v).Symmetric := by
  intro road a b
  rw [weight_eq_ite, weight_eq_ite, min_comm a, max_comm a]

theorem nonNegative_exact (hd : GeoPoint.Metric distance) :
    (exact distance unit v).NonNegative := by
  intro road a b w hw
  rw [weight_eq_ite] at hw
  split at hw
  case isTrue =>
    rw [← Except.ok.inj hw]
    exact le_top
  case isFalse hpace =>
    obtain ⟨m, hm, rfl⟩ := map_eq_ok_iff.mp hw
    have hm' : 0 ≤ m := length_nonneg hd (by omega) hm
    exact WithTop.coe_le_coe.mpr (div_nonneg hm' (le_of_lt (not_le.mp hpace)))

/-- A stretch costs what its two parts cost. -/
theorem weight_add (hab : a ≤ b) (hbc : b ≤ c) (hc : c < road.points.size)
    (hx : (exact distance unit v).weight road a b = .ok x)
    (hy : (exact distance unit v).weight road b c = .ok y) :
    (exact distance unit v).weight road a c = .ok (x + y) := by
  rw [weight_eq (by omega) (by omega), min_eq_left hab, max_eq_right hab] at hx
  rw [weight_eq (by omega) hc, min_eq_left hbc, max_eq_right hbc] at hy
  rw [weight_eq (by omega) hc, min_eq_left (hab.trans hbc), max_eq_right (hab.trans hbc),
    ← Except.ok.inj hx, ← Except.ok.inj hy]
  split
  · rfl
  · rw [← WithTop.coe_add, ← add_div, Finset.sum_Ico_consecutive _ hab hbc]

/-- No stretch costs less than the straight line at the speed of the cap. -/
theorem bound_le_weight (hd : GeoPoint.Metric distance) (hunit : 0 < unit)
    (hp : road.points[a]? = some p) (hq : road.points[b]? = some q)
    (hw : (exact distance unit v).weight road a b = .ok w) :
    (exact distance unit v).bound p q ≤ w := by
  obtain ⟨ha, -⟩ := Array.getElem?_eq_some_iff.mp hp
  obtain ⟨hb, -⟩ := Array.getElem?_eq_some_iff.mp hq
  rw [weight_eq ha hb] at hw
  rw [← Except.ok.inj hw]
  split
  case isTrue => exact le_top
  case isFalse hpace =>
    have hsum : distance p q ≤ ∑ i ∈ Finset.Ico (min a b) (max a b), road.segment distance i := by
      rcases Nat.le_total a b with hab | hab
      · rw [min_eq_left hab, max_eq_right hab]
        exact road.distance_le_segments hd hab hp hq
      · rw [min_eq_right hab, max_eq_left hab, hd.comm]
        exact road.distance_le_segments hd hab hq hp
    have hpace' : min road.speed v * unit ≤ v * unit :=
      mul_le_mul_of_nonneg_right (min_le_right _ _) (le_of_lt hunit)
    exact WithTop.coe_le_coe.mpr
      (div_le_div₀ (le_trans (hd.nonneg p q) hsum) hsum (not_le.mp hpace) hpace')

end Car

/-! ## The laws on a network -/

namespace Network

/-- The costs of a car add up along the roads of every network. -/
theorem metered_car (hd : GeoPoint.Metric distance) (net : Network K) :
    net.Metered (Car.exact distance unit v) where
  priced := net.priced_car distance unit _ _
  symmetric := Car.symmetric_exact
  nonneg := Car.nonNegative_exact hd
  additive {road a b c x y} hab hbc hx hy := by
    by_cases hpace : min road.speed v * unit ≤ 0
    · rw [Car.weight_eq_ite, if_pos hpace] at hx hy ⊢
      rw [← Except.ok.inj hx, ← Except.ok.inj hy]
      rfl
    · have hc : c < road.points.size := by
        rw [Car.weight_eq_ite, if_neg hpace, map_eq_ok_iff] at hy
        obtain ⟨m, hm, -⟩ := hy
        have hmax := Car.lt_size_of_length hm (by omega)
        omega
      exact Car.weight_add (Nat.le_of_lt hab) (Nat.le_of_lt hbc) hc hx hy

/-- The straight line at the speed of the cap bounds the costs of a car on every network. -/
theorem bounded_car (hd : GeoPoint.Metric distance) (hunit : 0 < unit) (hv : 0 < v)
    (net : Network K) : net.Bounded (Car.exact distance unit v) where
  nonneg p q := WithTop.coe_le_coe.mpr
    (div_nonneg (hd.nonneg p q) (le_of_lt (mul_pos hv hunit)))
  self_eq_zero p := by
    show ((distance p p / (v * unit) : K) : WithTop K) = 0
    rw [hd.self_eq_zero, zero_div, WithTop.coe_zero]
  triangle p q r := by
    show ((distance p r / (v * unit) : K) : WithTop K) ≤
      ((distance p q / (v * unit) : K) : WithTop K) + ((distance q r / (v * unit) : K) : WithTop K)
    rw [← WithTop.coe_add, ← add_div, WithTop.coe_le_coe]
    exact div_le_div_of_nonneg_right (hd.triangle p q r) (le_of_lt (mul_pos hv hunit))
  le_weight _ hp hq hw :=
    Car.bound_le_weight hd hunit (Road.pointAt_eq_ok.mp hp) (Road.pointAt_eq_ok.mp hq) hw

end Network

/-- Between two points of a road the costs of a car are the same in both directions and not negative.
    They are infinite exactly if the road, or the cap, allows no speed. They add up along the road, and
    are no less than the bound between the places. So they are what searches and the choice of legs
    rely on, on every network. -/
theorem Car.estimator_obeys_the_laws (hd : GeoPoint.Metric distance) (hunit : 0 < unit)
    (hv : 0 < v) :
    (∀ (road : Road K) (a b c : Nat), a ≤ b → b ≤ c → c < road.points.size →
      ∃ x y p q, (exact distance unit v).weight road a b = .ok x ∧
        (exact distance unit v).weight road b a = .ok x ∧
        (exact distance unit v).weight road b c = .ok y ∧
        (exact distance unit v).weight road a c = .ok (x + y) ∧
        0 ≤ x ∧ (x = ⊤ ↔ min road.speed v ≤ 0) ∧
        road.pointAt a = .ok p ∧ road.pointAt b = .ok q ∧ (exact distance unit v).bound p q ≤ x) ∧
    ∀ net : Network K, net.Metered (exact distance unit v) ∧ net.Bounded (exact distance unit v) := by
  refine ⟨fun road a b c hab hbc hc => ?_, fun net =>
    ⟨net.metered_car hd, net.bounded_car hd hunit hv⟩⟩
  have ha : a < road.points.size := by omega
  have hb : b < road.points.size := by omega
  obtain ⟨x, hx⟩ : ∃ x, (exact distance unit v).weight road a b = .ok x := ⟨_, weight_eq ha hb⟩
  obtain ⟨y, hy⟩ : ∃ y, (exact distance unit v).weight road b c = .ok y := ⟨_, weight_eq hb hc⟩
  obtain ⟨p, hp⟩ := Road.exists_pointAt_iff.mpr ha
  obtain ⟨q, hq⟩ := Road.exists_pointAt_iff.mpr hb
  have htop : x = ⊤ ↔ min road.speed v ≤ 0 := by
    have hpace : min road.speed v * unit ≤ 0 ↔ min road.speed v ≤ 0 := by
      rw [← not_lt, ← not_lt, mul_pos_iff_of_pos_right hunit]
    rw [weight_eq ha hb] at hx
    rw [← Except.ok.inj hx, ← hpace]
    split
    case isTrue h => exact iff_of_true rfl h
    case isFalse h => exact iff_of_false (WithTop.coe_ne_top) h
  exact ⟨x, y, p, q, hx, symmetric_exact road a b ▸ hx, hy, weight_add hab hbc hc hx hy,
    nonNegative_exact hd hx, htop, hp, hq,
    bound_le_weight hd hunit (Road.pointAt_eq_ok.mp hp) (Road.pointAt_eq_ok.mp hq) hx⟩

end Exact

/-- The differences of both coordinates. -/
def taxicab (p q : GeoPoint ℚ) : ℚ := |p.lat - q.lat| + |p.lng - q.lng|

theorem metric_taxicab : GeoPoint.Metric taxicab where
  nonneg p q := add_nonneg (abs_nonneg _) (abs_nonneg _)
  comm p q := by rw [taxicab, taxicab, abs_sub_comm p.lat, abs_sub_comm p.lng]
  self_eq_zero p := by simp [taxicab]
  triangle p q r :=
    calc |p.lat - r.lat| + |p.lng - r.lng|
        ≤ (|p.lat - q.lat| + |q.lat - r.lat|) + (|p.lng - q.lng| + |q.lng - r.lng|) :=
          add_le_add (abs_sub_le ..) (abs_sub_le ..)
      _ = taxicab p q + taxicab q r := add_add_add_comm ..

/-- A road that turns back at its third point, at 72 km/h or twenty metres in a second. -/
theorem Car.estimator_obeys_the_laws_bend :
    let car := exact taxicab (1000 / 3600) 130
    let road : Road ℚ := .drivable #[⟨0, 0⟩, ⟨0, 1⟩, ⟨0, 2⟩, ⟨0, 1⟩] false 72
    let second : WithTop ℚ := (1 / 20 : ℚ)
    car.weight road 1 2 = .ok second ∧ car.weight road 2 1 = .ok second ∧
      car.weight road 2 3 = .ok second ∧ car.weight road 1 3 = .ok (second + second) ∧
      0 ≤ second ∧ (second = ⊤ ↔ min road.speed 130 ≤ 0) ∧ car.bound ⟨0, 1⟩ ⟨0, 2⟩ ≤ second := by
  intro car road second
  have hunit : (0 : ℚ) < 1000 / 3600 := by norm_num
  have hpace : min road.speed 130 * (1000 / 3600) = 20 := by
    rw [min_eq_left (by norm_num [road, Road.drivable])]
    norm_num [road, Road.drivable]
  have hsegment : road.segment taxicab 1 = 1 ∧ road.segment taxicab 2 = 1 := by
    norm_num [road, Road.drivable, Road.segment, taxicab]
  have hfirst : car.weight road 1 2 = .ok second := by
    rw [weight_eq (by decide) (by decide), hpace, if_neg (by norm_num)]
    simp [hsegment.1, second]
  have hlast : car.weight road 2 3 = .ok second := by
    rw [weight_eq (by decide) (by decide), hpace, if_neg (by norm_num)]
    simp [hsegment.2, second]
  obtain ⟨x, y, p, q, hx, hback, hy, hsum, hnonneg, htop, hp, hq, hbound⟩ :=
    (estimator_obeys_the_laws metric_taxicab hunit (by norm_num : (0 : ℚ) < 130)).1 road 1 2 3
      (by decide) (by decide) (by decide)
  obtain rfl := Except.ok.inj (hx.symm.trans hfirst)
  obtain rfl := Except.ok.inj (hy.symm.trans hlast)
  cases hp
  cases hq
  exact ⟨hx, hback, hy, hsum, hnonneg, htop, hbound⟩

end RoadRouting
