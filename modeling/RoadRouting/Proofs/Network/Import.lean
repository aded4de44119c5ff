import RoadRouting.Proofs.Network.Build

/-!
# What is imported

Joints are imported exactly if they fit the roads: none of them is empty, their road points exist, and
no road point occurs twice, in one joint or in two. A network that is imported has the joints as they
were listed, and finds the joint of a road point exactly where the road point is listed. If joints do
not fit, the error tells the first place at which they do not, in the order of the joints and of the
points in them.

* `Network.Importable`: joints that fit the roads.
* `Network.Reflects`: a network that has these joints.
* `Network.FirstFault`: the first thing wrong with some joints.
* `Network.build_imports_what_fits`: which joints are imported, as what, and what is said of others.
-/

namespace RoadRouting.Network

variable {K : Type} {net : Network K} {roads : Array (Road K)} {p : RoadPoint}
  {ps seen rest : List RoadPoint} {joints before after : List (List RoadPoint)} {i j : Nat}
  {owners : JointMap} {x : ImportError}

/-! ## Joints that fit the roads -/

/-- The road point is one of the points of an existing road. -/
def PointOf (roads : Array (Road K)) (p : RoadPoint) : Prop :=
  ∃ road, roads[p.road]? = some road ∧ p.offset < road.points.size

/-- The points of all joints exist, and none of them occurs twice. -/
structure Fits (roads : Array (Road K)) (joints : List (List RoadPoint)) : Prop where
  exist : ∀ p ∈ joints.flatten, PointOf roads p
  nodup : joints.flatten.Nodup

/-- Besides, no joint is empty. -/
structure Importable (roads : Array (Road K)) (joints : List (List RoadPoint)) : Prop
    extends Fits roads joints where
  filled : ∀ ps ∈ joints, ps ≠ []

/-- What is wrong with a road point of a joint, when the joints before it and the points before it in
    its own joint are `earlier`. -/
inductive PointFault (roads : Array (Road K)) (earlier : List (List RoadPoint)) (joint : Nat)
    (p : RoadPoint) : ImportError → Prop
  | unknownRoad : roads[p.road]? = none →
      PointFault roads earlier joint p (.unknownRoad joint p.road)
  | outsideRoad {road : Road K} : roads[p.road]? = some road → road.points.size ≤ p.offset →
      PointFault roads earlier joint p (.outsideRoad joint p)
  | sharedPoint {first : Nat} {ps : List RoadPoint} : PointOf roads p →
      earlier[first]? = some ps → p ∈ ps →
      PointFault roads earlier joint p (.sharedPoint p first joint)

/-- The first thing wrong with some joints: an empty joint, or a road point, after joints and points
    with which nothing is wrong. -/
inductive FirstFault (roads : Array (Road K)) (joints : List (List RoadPoint)) : ImportError → Prop
  | emptyJoint {before after : List (List RoadPoint)} : joints = before ++ [] :: after →
      Importable roads before → FirstFault roads joints (.emptyJoint before.length)
  | point {before after : List (List RoadPoint)} {seen rest : List RoadPoint} {p : RoadPoint}
      {x : ImportError} : joints = before ++ (seen ++ p :: rest) :: after →
      Importable roads before → Fits roads (before ++ [seen]) →
      PointFault roads (before ++ [seen]) before.length p x → FirstFault roads joints x

theorem Fits.of_append (h : Fits roads (before ++ after)) : Fits roads before := by
  have hflatten : (before ++ after).flatten = before.flatten ++ after.flatten := List.flatten_append
  refine ⟨fun p hp => h.exist p ?_, ?_⟩
  · rw [hflatten]
    exact List.mem_append_left _ hp
  · have hnodup := h.nodup
    rw [hflatten] at hnodup
    exact hnodup.of_append_left

/-- Nothing is wrong with a point of joints that fit. -/
theorem Fits.not_pointFault (h : Fits roads (before ++ [seen ++ p :: rest])) :
    ¬ PointFault roads (before ++ [seen]) j p x := by
  have hflatten : (before ++ [seen ++ p :: rest]).flatten =
      (before ++ [seen]).flatten ++ p :: rest := by simp
  obtain ⟨road, hroad, hlt⟩ := h.exist p (by rw [hflatten]; simp)
  intro hfault
  cases hfault with
  | unknownRoad hnone =>
    rw [hroad] at hnone
    cases hnone
  | outsideRoad hroad' hle =>
    obtain rfl := Option.some.inj (hroad.symm.trans hroad')
    exact absurd hlt (Nat.not_lt.mpr hle)
  | sharedPoint _ hfirst hmem =>
    have hnodup := h.nodup
    rw [hflatten] at hnodup
    exact List.disjoint_of_nodup_append hnodup
      (List.mem_flatten_of_mem (List.mem_of_getElem? hfirst) hmem) List.mem_cons_self

theorem FirstFault.not_importable (h : FirstFault roads joints x) : ¬ Importable roads joints := by
  intro himportable
  cases h with
  | emptyJoint hjoints _ =>
    subst hjoints
    exact himportable.filled [] (by simp) rfl
  | @point before after seen rest p _ hjoints _ _ hfault =>
    subst hjoints
    rw [List.append_cons] at himportable
    exact himportable.toFits.of_append.not_pointFault hfault

/-! ## Networks of joints -/

/-- The network has these roads and joints, and its map of joints agrees with them. -/
structure Reflects (roads : Array (Road K)) (joints : List (List RoadPoint)) (net : Network K) :
    Prop where
  roads_eq : net.roads = roads
  entries_eq : net.joints.entries.toList = joints
  consistent : net.Consistent

namespace Reflects

theorem count_eq (h : Reflects roads joints net) : net.joints.count = joints.length := by
  rw [← h.entries_eq, Array.length_toList, JointTable.count]

theorem points_iff (h : Reflects roads joints net) :
    net.joints.points i = .ok ps ↔ joints[i]? = some ps := by
  rw [JointTable.points_eq_ok, ← h.entries_eq, Array.getElem?_toList]

theorem find?_iff (h : Reflects roads joints net) :
    net.owners.find? p = some i ↔ ∃ ps, joints[i]? = some ps ∧ p ∈ ps := by
  simp only [h.consistent.find?_iff, h.points_iff]

theorem fits (h : Reflects roads joints net) : Fits roads joints where
  exist p hp := by
    obtain ⟨ps, hps, hmem⟩ := List.mem_flatten.mp hp
    obtain ⟨i, hi⟩ := List.mem_iff_getElem?.mp hps
    have hvalid := h.consistent.valid (h.find?_iff.mpr ⟨ps, hi, hmem⟩)
    rw [hasPoint_iff, h.roads_eq] at hvalid
    exact hvalid
  nodup := by
    rw [List.nodup_flatten, List.pairwise_iff_getElem]
    constructor
    · intro ps hps
      obtain ⟨i, hi⟩ := List.mem_iff_getElem?.mp hps
      exact h.consistent.nodup (h.points_iff.mpr hi)
    · -- the map of joints finds one joint of a point only
      intro i j hi hj hij p hpi hpj
      have hfirst := h.find?_iff.mpr ⟨_, List.getElem?_eq_getElem hi, hpi⟩
      have hsecond := h.find?_iff.mpr ⟨_, List.getElem?_eq_getElem hj, hpj⟩
      exact Nat.ne_of_lt hij (Option.some.inj (hfirst.symm.trans hsecond))

end Reflects

theorem roads_and_entries_of_foldlM {net' : Network K}
    (h : joints.foldlM addJoint net = .ok net') : net'.roads = net.roads ∧
      net'.joints.entries.toList = net.joints.entries.toList ++ joints := by
  induction joints generalizing net with
  | nil =>
    cases h
    simp
  | cons ps joints ih =>
    rw [List.foldlM_cons, bind_eq_ok_iff] at h
    obtain ⟨net₁, hadd, h⟩ := h
    obtain ⟨-, owners, -, rfl⟩ := addJoint_eq_ok hadd
    obtain ⟨hroads, hentries⟩ := ih h
    refine ⟨hroads, ?_⟩
    rw [hentries]
    simp [JointTable.add]

/-- A network that is built has the joints that were listed. -/
theorem reflects_of_build (h : build roads joints = .ok net) : Reflects roads joints net := by
  obtain ⟨hroads, hentries⟩ := roads_and_entries_of_foldlM h
  exact ⟨hroads, hentries, consistent_of_build h⟩

theorem importable_of_build (h : build roads joints = .ok net) : Importable roads joints := by
  have hreflects := reflects_of_build h
  refine ⟨hreflects.fits, fun ps hps => ?_⟩
  obtain ⟨i, hi⟩ := List.mem_iff_getElem?.mp hps
  exact filled_of_build h i ps (hreflects.points_iff.mpr hi)

/-! ## Points that are attached -/

theorem attach_eq_error_iff {earlier : List (List RoadPoint)}
    (hfind : ∀ first, owners.find? p = some first ↔ ∃ ps, earlier[first]? = some ps ∧ p ∈ ps) :
    attach roads j owners p = .error x ↔ PointFault roads earlier j p x := by
  constructor
  · intro h
    unfold attach at h
    split at h
    case h_1 hroad =>
      cases h
      exact .unknownRoad hroad
    case h_2 road hroad =>
      split at h
      case isTrue hle =>
        cases h
        exact .outsideRoad hroad hle
      case isFalse hlt =>
        split at h
        case h_1 first hfirst =>
          cases h
          obtain ⟨ps, hps, hmem⟩ := (hfind first).mp hfirst
          exact .sharedPoint ⟨road, hroad, Nat.not_le.mp hlt⟩ hps hmem
        case h_2 => cases h
  · intro h
    cases h with
    | unknownRoad hroad => simp [attach, hroad]
    | outsideRoad hroad hle => simp [attach, hroad, hle]
    | @sharedPoint first ps hpoint hps hmem =>
      obtain ⟨road, hroad, hlt⟩ := hpoint
      have hfirst := (hfind first).mpr ⟨ps, hps, hmem⟩
      simp [attach, hroad, Nat.not_le.mpr hlt, hfirst]

/-- A point of the joints before and of the one that is added. -/
theorem exists_concat_iff : (∃ ps, (before ++ [seen])[i]? = some ps ∧ p ∈ ps) ↔
    (∃ ps, before[i]? = some ps ∧ p ∈ ps) ∨ (i = before.length ∧ p ∈ seen) := by
  rcases Nat.lt_trichotomy i before.length with hlt | rfl | hgt
  · simp [List.getElem?_append_left hlt, Nat.ne_of_lt hlt]
  · simp
  · have hlength : (before ++ [seen]).length ≤ i := by
      rw [List.length_append, List.length_singleton]
      exact hgt
    have hend : (before ++ [seen])[i]? = none := List.getElem?_eq_none hlength
    have hend' : before[i]? = none := List.getElem?_eq_none (Nat.le_of_lt hgt)
    simp [hend, hend', Nat.ne_of_gt hgt]

namespace Reflects

/-- While a joint is added, the map of joints finds the joints before it, and the points of the new one
    that were attached. -/
theorem find?_attached (h : Reflects roads before net)
    (hfold : seen.foldlM (attach roads before.length) net.owners = .ok owners) (p : RoadPoint)
    (i : Nat) : owners.find? p = some i ↔ ∃ ps, (before ++ [seen])[i]? = some ps ∧ p ∈ ps := by
  obtain ⟨-, hfree, hfind⟩ := foldlM_attach hfold
  rw [hfind, exists_concat_iff, ← h.find?_iff]
  by_cases hp : p ∈ seen
  · simp [hp, (hfree p hp).2, eq_comm]
  · simp [hp]

theorem fits_of_attached (h : Reflects roads before net)
    (hfold : seen.foldlM (attach roads before.length) net.owners = .ok owners) :
    Fits roads (before ++ [seen]) := by
  obtain ⟨hnodup, hfree, -⟩ := foldlM_attach hfold
  have hflatten : (before ++ [seen]).flatten = before.flatten ++ seen := by simp
  constructor
  case exist =>
    intro p hp
    rw [hflatten, List.mem_append] at hp
    exact hp.elim (h.fits.exist p) fun hp => (hfree p hp).1
  case nodup =>
    rw [hflatten]
    refine h.fits.nodup.append hnodup fun p hbefore hseen => ?_
    obtain ⟨ps, hps, hmem⟩ := List.mem_flatten.mp hbefore
    obtain ⟨i, hi⟩ := List.mem_iff_getElem?.mp hps
    exact nomatch (h.find?_iff.mpr ⟨ps, hi, hmem⟩).symm.trans (hfree p hseen).2

theorem exists_attached (h : Reflects roads before net) (hfits : Fits roads (before ++ [seen])) :
    ∃ owners, seen.foldlM (attach roads before.length) net.owners = .ok owners := by
  cases hfold : seen.foldlM (attach roads before.length) net.owners with
  | ok owners => exact ⟨owners, rfl⟩
  | error x =>
    obtain ⟨seen', p, rest, owners, rfl, hseen', hattach⟩ := foldlM_eq_error_iff.mp hfold
    rw [attach_eq_error_iff (h.find?_attached hseen' p)] at hattach
    exact absurd hattach hfits.not_pointFault

/-- A joint is refused because it is empty, or because of the first of its points with which something
    is wrong. -/
theorem addJoint_eq_error_iff (h : Reflects roads before net) : net.addJoint ps = .error x ↔
    (ps = [] ∧ x = .emptyJoint before.length) ∨
      ∃ seen p rest, ps = seen ++ p :: rest ∧ Fits roads (before ++ [seen]) ∧
        PointFault roads (before ++ [seen]) before.length p x := by
  unfold addJoint
  rw [h.count_eq, h.roads_eq]
  cases ps with
  | nil => simp [eq_comm]
  | cons q qs =>
    simp only [List.isEmpty_cons, Bool.false_eq_true, if_false, reduceCtorEq, false_and, false_or]
    rw [bind_ok_eq_error_iff, foldlM_eq_error_iff]
    constructor
    · rintro ⟨seen, p, rest, owners, hps, hseen, hattach⟩
      rw [attach_eq_error_iff (h.find?_attached hseen p)] at hattach
      exact ⟨seen, p, rest, hps, h.fits_of_attached hseen, hattach⟩
    · rintro ⟨seen, p, rest, hps, hfits, hfault⟩
      obtain ⟨owners, hseen⟩ := h.exists_attached hfits
      rw [← attach_eq_error_iff (h.find?_attached hseen p)] at hfault
      exact ⟨seen, p, rest, owners, hps, hseen, hfault⟩

end Reflects

/-! ## Networks that are built -/

theorem firstFault_of_build (h : build roads joints = .error x) : FirstFault roads joints x := by
  obtain ⟨before, ps, after, net, hjoints, hbefore, hadd⟩ := foldlM_eq_error_iff.mp h
  have himportable := importable_of_build hbefore
  rcases (reflects_of_build hbefore).addJoint_eq_error_iff.mp hadd with
    ⟨rfl, rfl⟩ | ⟨seen, p, rest, rfl, hfits, hfault⟩
  · exact .emptyJoint hjoints himportable
  · exact .point hjoints himportable hfits hfault

theorem exists_build_iff : (∃ net, build roads joints = .ok net) ↔ Importable roads joints := by
  constructor
  · rintro ⟨net, hnet⟩
    exact importable_of_build hnet
  · intro himportable
    cases h : build roads joints with
    | ok net => exact ⟨net, rfl⟩
    | error x => exact absurd himportable (firstFault_of_build h).not_importable

theorem build_eq_error_iff : build roads joints = .error x ↔ FirstFault roads joints x := by
  refine ⟨firstFault_of_build, fun h => ?_⟩
  have hturn : ∀ {before ps after}, joints = before ++ ps :: after → Importable roads before →
      (∀ {net}, Reflects roads before net → net.addJoint ps = .error x) →
      build roads joints = .error x := by
    intro before ps after hjoints himportable hadd
    obtain ⟨net, hnet⟩ := exists_build_iff.mpr himportable
    exact foldlM_eq_error_iff.mpr
      ⟨before, ps, after, net, hjoints, hnet, hadd (reflects_of_build hnet)⟩
  cases h with
  | emptyJoint hjoints himportable =>
    exact hturn hjoints himportable fun hreflects =>
      hreflects.addJoint_eq_error_iff.mpr (.inl ⟨rfl, rfl⟩)
  | point hjoints himportable hfits hfault =>
    exact hturn hjoints himportable fun hreflects =>
      hreflects.addJoint_eq_error_iff.mpr (.inr ⟨_, _, _, rfl, hfits, hfault⟩)

/-- Joints are imported exactly if they fit the roads. A network that is imported has the roads and the
    joints in the order of their list, and finds joint `i` of a road point exactly if the list of joint
    `i` has the point. An import fails exactly with the first thing wrong with the joints. -/
theorem build_imports_what_fits (roads : Array (Road K)) (joints : List (List RoadPoint)) :
    ((∃ net, build roads joints = .ok net) ↔ Importable roads joints) ∧
    (∀ net, build roads joints = .ok net → net.roads = roads ∧
      net.joints.count = joints.length ∧
      (∀ i ps, net.joints.points i = .ok ps ↔ joints[i]? = some ps) ∧
      ∀ p i, net.owners.find? p = some i ↔ ∃ ps, joints[i]? = some ps ∧ p ∈ ps) ∧
    ∀ x, build roads joints = .error x ↔ FirstFault roads joints x := by
  refine ⟨exists_build_iff, fun net hnet => ?_, fun x => build_eq_error_iff⟩
  have h := reflects_of_build hnet
  exact ⟨h.roads_eq, h.count_eq, fun i ps => h.points_iff, fun p i => h.find?_iff⟩

/-- The sample network is imported. With a point of the first joint once more in the second, and a road
    that does not exist after it, the import fails for the shared point. -/
theorem build_imports_what_fits_sample :
    Importable sampleRoads sampleJoints ∧
    (∃ net, build sampleRoads sampleJoints = .ok net ∧ net.owners.find? ⟨1, 2⟩ = some 1) ∧
    FirstFault sampleRoads [[⟨0, 1⟩, ⟨1, 0⟩], [⟨0, 3⟩, ⟨0, 1⟩, ⟨7, 0⟩]]
      (.sharedPoint ⟨0, 1⟩ 0 1) := by
  have himport := build_imports_what_fits sampleRoads sampleJoints
  obtain ⟨net, hnet, -⟩ := build_sample
  obtain ⟨-, -, -, hfind⟩ := himport.2.1 net hnet
  exact ⟨himport.1.mp ⟨net, hnet⟩, ⟨net, hnet, (hfind _ _).mpr ⟨[⟨0, 3⟩, ⟨1, 2⟩], rfl, by decide⟩⟩,
    ((build_imports_what_fits sampleRoads _).2.2 _).mp rfl⟩

end RoadRouting.Network
