import Mathlib.Data.Nat.Dist
import RoadRouting.Network.Basic
import RoadRouting.Proofs.Network.Milestones
import RoadRouting.Proofs.Result

/-!
# Networks that were built

A network that was built knows every road point of a joint twice: in the list of the joint, and in
the map from road points to joints. Both tell the same, which is what all edges rest on.

* `Network.Consistent`: the list of a joint and the map of joints agree.
* `Network.consistent_of_build`: every network that is built is consistent.
* `Network.filled_of_build`: no joint of a network that is built is empty.
-/

namespace RoadRouting.Network

variable {K : Type} {net net' : Network K} {roads : Array (Road K)} {p : RoadPoint}
  {ps : List RoadPoint} {j : Nat} {owners owners' : JointMap}

theorem hasPoint_iff : net.hasPoint p = true ↔
    ∃ road, net.roads[p.road]? = some road ∧ p.offset < road.points.size := by
  unfold hasPoint
  split <;> simp [*]

theorem hasPoint_iff_of_road {road : Road K} (hroad : net.roads[p.road]? = some road) :
    net.hasPoint p = true ↔ p.offset < road.points.size := by
  rw [hasPoint, hroad]
  exact decide_eq_true_iff

theorem geometry_eq_ok_iff {x : GeoPoint K} : net.geometry p = .ok x ↔
    ∃ road, net.roads[p.road]? = some road ∧ road.points[p.offset]? = some x := by
  rw [geometry, Network.road]
  cases net.roads[p.road]? with
  | none => simp [bind, Except.bind]
  | some road => simp [bind, Except.bind, Road.pointAt_eq_ok]

/-- The points of a road up to an existing one exist as well. -/
theorem hasPoint_of_le {r a b : Nat} (hb : net.hasPoint ⟨r, b⟩ = true) (hle : a ≤ b) :
    net.hasPoint ⟨r, a⟩ = true := by
  obtain ⟨road, hroad, hlt⟩ := hasPoint_iff.mp hb
  exact hasPoint_iff.mpr ⟨road, hroad, Nat.lt_of_le_of_lt hle hlt⟩

/-- The road points of joints exist, none of them is listed twice, and the map of joints finds
    exactly the listed ones. -/
structure Consistent (net : Network K) : Prop where
  find?_iff : ∀ {p j}, net.owners.find? p = some j ↔ ∃ ps, net.joints.points j = .ok ps ∧ p ∈ ps
  nodup : ∀ {j ps}, net.joints.points j = .ok ps → ps.Nodup
  valid : ∀ {p j}, net.owners.find? p = some j → net.hasPoint p = true

theorem lt_count_of_points (h : net.joints.points j = .ok ps) : j < net.joints.count := by
  rw [JointTable.points_eq_ok] at h
  exact (Array.getElem?_eq_some_iff.mp h).1

theorem exists_points (h : j < net.joints.count) : ∃ ps, net.joints.points j = .ok ps :=
  ⟨_, JointTable.points_eq_ok.mpr (Array.getElem?_eq_getElem h)⟩

theorem Consistent.lt_count (h : net.Consistent) (hp : net.owners.find? p = some j) :
    j < net.joints.count := by
  obtain ⟨ps, hps, -⟩ := h.find?_iff.mp hp
  exact lt_count_of_points hps

theorem Consistent.mem_points_iff (h : net.Consistent) (hps : net.joints.points j = .ok ps) :
    p ∈ ps ↔ net.owners.find? p = some j := by
  rw [h.find?_iff]
  constructor
  · exact fun hp => ⟨ps, hps, hp⟩
  · rintro ⟨ps', hps', hp⟩
    rw [hps] at hps'
    cases hps'
    exact hp

/-! ## Attaching road points -/

theorem attach_eq_ok_iff : attach roads j owners p = .ok owners' ↔
    (∃ road, roads[p.road]? = some road ∧ p.offset < road.points.size) ∧
      owners.find? p = none ∧ owners' = owners.set p (some j) := by
  unfold attach
  cases hroad : roads[p.road]? with
  | none => simp
  | some road =>
    simp only [Option.some.injEq, exists_eq_left']
    split
    case isTrue h => simp [Nat.not_lt.mpr h]
    case isFalse h =>
      cases hp : owners.find? p with
      | none => simp [Nat.not_le.mp h, eq_comm]
      | some first => simp

/-- Attaching distinct points that nobody had gives exactly these to the joint. -/
theorem foldlM_attach (h : ps.foldlM (attach roads j) owners = .ok owners') :
    ps.Nodup ∧ (∀ p ∈ ps, (∃ road, roads[p.road]? = some road ∧ p.offset < road.points.size) ∧
      owners.find? p = none) ∧
      ∀ q, owners'.find? q = if q ∈ ps then some j else owners.find? q := by
  induction ps generalizing owners with
  | nil =>
    cases h
    simp
  | cons p ps ih =>
    rw [List.foldlM_cons, bind_eq_ok_iff] at h
    obtain ⟨owners₁, hp, h⟩ := h
    obtain ⟨hroad, hfree, rfl⟩ := attach_eq_ok_iff.mp hp
    obtain ⟨hnodup, hvalid, hfind⟩ := ih h
    have hother : ∀ q ∈ ps, p ≠ q ∧ owners.find? q = none := by
      intro q hq
      have hnone := (hvalid q hq).2
      rw [JointMap.find?_set] at hnone
      split at hnone
      case isTrue => cases hnone
      case isFalse hne => exact ⟨hne, hnone⟩
    refine ⟨List.nodup_cons.mpr ⟨fun hmem => (hother p hmem).1 rfl, hnodup⟩, ?_, ?_⟩
    · intro q hq
      rcases List.mem_cons.mp hq with rfl | hq
      · exact ⟨hroad, hfree⟩
      · exact ⟨(hvalid q hq).1, (hother q hq).2⟩
    · intro q
      rw [hfind, JointMap.find?_set]
      by_cases hq : q ∈ ps
      · simp [hq]
      · by_cases hpq : p = q
        · simp [hpq]
        · simp [hq, hpq, Ne.symm hpq]

/-! ## Adding joints -/

theorem addJoint_eq_ok (h : net.addJoint ps = .ok net') : ps ≠ [] ∧ ∃ owners,
    ps.foldlM (attach net.roads net.joints.count) net.owners = .ok owners ∧
      net' = { net with joints := net.joints.add ps, owners } := by
  unfold addJoint at h
  split at h
  case isTrue => cases h
  case isFalse hne =>
    obtain ⟨owners, hfold, h⟩ := bind_eq_ok_iff.mp h
    cases h
    exact ⟨fun hnil => hne (List.isEmpty_iff.mpr hnil), owners, hfold, rfl⟩

theorem points_add {t : JointTable} {ps' : List RoadPoint} : (t.add ps).points j = .ok ps' ↔
    if j = t.count then ps = ps' else t.points j = .ok ps' := by
  rw [JointTable.points_eq_ok, JointTable.points_eq_ok, JointTable.add, JointTable.count,
    Array.getElem?_push]
  split <;> simp

theorem Consistent.addJoint (hnet : net.Consistent) (h : net.addJoint ps = .ok net') :
    net'.Consistent := by
  obtain ⟨-, owners, hfold, rfl⟩ := addJoint_eq_ok h
  obtain ⟨hnodup, hvalid, hfind⟩ := foldlM_attach hfold
  constructor
  case find?_iff =>
    intro p j
    simp only [hfind, points_add]
    by_cases hj : j = net.joints.count
    · -- before this step no point belonged to the new number
      have hnew : net.owners.find? p ≠ some j := fun hp =>
        Nat.ne_of_lt (hnet.lt_count hp) hj
      by_cases hp : p ∈ ps
      · simp [hp, hj]
      · simp [hp, hj]
        rwa [← hj]
    · by_cases hp : p ∈ ps
      · have hfree : ∀ ps', net.joints.points j = .ok ps' → p ∉ ps' := by
          intro ps' hps' hmem
          have := (hnet.mem_points_iff hps').mp hmem
          rw [(hvalid p hp).2] at this
          cases this
        simp only [if_pos hp, if_neg hj, Option.some.injEq]
        constructor
        · intro heq
          exact absurd heq.symm hj
        · rintro ⟨ps', hps', hmem⟩
          exact absurd hmem (hfree ps' hps')
      · simp only [if_neg hp, if_neg hj]
        exact hnet.find?_iff
  case nodup =>
    intro j ps' hps'
    rw [points_add] at hps'
    split at hps'
    · rw [← hps']
      exact hnodup
    · exact hnet.nodup hps'
  case valid =>
    intro p j hp
    simp only [hfind] at hp
    split at hp
    case isTrue hmem => exact hasPoint_iff.mpr (hvalid p hmem).1
    case isFalse => exact hasPoint_iff.mpr (hasPoint_iff.mp (hnet.valid hp))

theorem consistent_ofRoads (roads : Array (Road K)) : (ofRoads roads).Consistent where
  find?_iff := by
    intro p j
    have : (JointTable.empty).points j = .error (.joint j) := rfl
    simp [ofRoads, JointMap.find?_empty, this]
  nodup := by
    intro j ps hps
    cases hps
  valid := by
    intro p j hp
    rw [ofRoads, JointMap.find?_empty] at hp
    cases hp

/-- Every network that is built is consistent. -/
theorem consistent_of_build {joints : List (List RoadPoint)}
    (h : build roads joints = .ok net) : net.Consistent :=
  foldlM_induct h (consistent_ofRoads roads) fun _ _ _ _ hnet hstep => hnet.addJoint hstep

/-- No joint is empty. -/
def Filled (net : Network K) : Prop :=
  ∀ j ps, net.joints.points j = .ok ps → ps ≠ []

theorem Filled.addJoint (hnet : net.Filled) (h : net.addJoint ps = .ok net') : net'.Filled := by
  obtain ⟨hne, owners, -, rfl⟩ := addJoint_eq_ok h
  intro j ps' hps'
  rw [points_add] at hps'
  split at hps'
  · rwa [← hps']
  · exact hnet j ps' hps'

/-- No joint of a network that is built is empty. -/
theorem filled_of_build {joints : List (List RoadPoint)} (h : build roads joints = .ok net) :
    net.Filled := by
  have hempty : (ofRoads roads).Filled := by
    intro j ps hps
    cases hps
  exact foldlM_induct (M := Filled) h hempty fun _ _ _ _ hnet hstep => hnet.addJoint hstep

/-! ## A small network -/

/-- The differences of both coordinates. -/
def gridDistance (x y : GeoPoint Nat) : Nat :=
  Nat.dist x.lat y.lat + Nat.dist x.lng y.lng

/-- A two-way road and a one-way road. -/
def sampleRoads : Array (Road Nat) :=
  #[.drivable #[⟨0, 0⟩, ⟨0, 1⟩, ⟨0, 2⟩, ⟨0, 3⟩] false 50, .drivable #[⟨0, 1⟩, ⟨1, 2⟩, ⟨0, 3⟩] true 30]

/-- The roads meet at two joints. -/
def sampleJoints : List (List RoadPoint) := [[⟨0, 1⟩, ⟨1, 0⟩], [⟨0, 3⟩, ⟨1, 2⟩]]

theorem build_sample : ∃ net, build sampleRoads sampleJoints = .ok net ∧
    net.roads = sampleRoads ∧ net.joints.count = 2 ∧ net.hasPoint ⟨0, 0⟩ = true ∧
      net.hasPoint ⟨0, 2⟩ = true :=
  ⟨_, rfl, rfl, rfl, rfl, rfl⟩

end RoadRouting.Network
