import RoadRouting.Network.RoadIndex
import RoadRouting.Proofs.Network.History
import RoadRouting.Proofs.Result

/-!
# Joints in vectors and joints in a map

An index of vectors tells the same of every road point as a map of joints does after the same writes:
gaps, ends and points that were taken away all read as no joint, and a road that was never written reads
as one without joints. The nearest joints are told by the look-ups alone, so they agree as well.

* `RoadIndex.Represents`: an index and a map tell the same of every road point.
* `RoadIndex.Represents.addJoint`: they still do after a write, and tell the same joint before it.
* `RoadIndex.written_knows_last`: an index answers every query by the last writes.
* `RoadIndex.ofJoints_alongside`: joints are imported into an index as into a network.
-/

namespace RoadRouting

/-! ## The vector of a road -/

namespace RoadJointIds

variable {r : RoadJointIds} {o a j joint : Nat} {x : Milestone}

theorem jointId?_eq_some_iff : r.jointId? o = some j ↔ r.ids[o]? = some j ∧ j ≠ noJoint := by
  rw [jointId?, Option.bind_eq_some_iff]
  constructor
  · rintro ⟨i, hi, hj⟩
    obtain rfl := eq_of_named? hj
    refine ⟨hi, ?_⟩
    rintro rfl
    cases hj
  · rintro ⟨hi, hj⟩
    exact ⟨j, hi, named?_of_ne hj⟩

/-- Filling a vector up gives no joint to any offset. -/
theorem jointId?_upTo : (r.upTo o)[a]?.bind named? = r.jointId? a := by
  unfold upTo
  split
  case isFalse => rfl
  case isTrue =>
    rw [jointId?, Array.getElem?_append]
    split
    case isTrue => rfl
    case isFalse hend =>
      rw [Array.getElem?_eq_none (Nat.le_of_not_lt hend), Array.getElem?_replicate]
      split <;> rfl

/-- A write tells the joint that the offset had. -/
theorem addJoint_snd (r : RoadJointIds) (o joint : Nat) :
    (r.addJoint o joint).2 = r.jointId? o := by
  rw [← jointId?_upTo (o := o), Array.getElem?_eq_getElem (r.lt_size_upTo o)]
  rfl

theorem jointId?_addJoint :
    (r.addJoint o joint).1.jointId? a = if o = a then named? joint else r.jointId? a := by
  show ((r.upTo o).set o joint (r.lt_size_upTo o))[a]?.bind named? = _
  rw [Array.getElem?_set, ← jointId?_upTo (o := o)]
  split <;> rfl

/-! ## The scans along a road -/

/-- A mark stands at its own offset. -/
theorem getElem?_marks_iff {i : Nat} :
    r.marks[i]? = some x ↔ x.offset = i ∧ r.ids[x.offset]? = some x.joint := by
  simp only [marks, List.getElem?_mapIdx, Array.getElem?_toList, Option.map_eq_some_iff]
  constructor
  · rintro ⟨j, hj, rfl⟩
    exact ⟨rfl, hj⟩
  · rintro ⟨rfl, hx⟩
    exact ⟨x.joint, hx, rfl⟩

theorem sorted_marks : r.marks.Pairwise (·.offset < ·.offset) := by
  rw [List.pairwise_iff_getElem]
  intro i k hi hk hik
  simpa [marks] using hik

theorem jointId?_iff_isJoint : r.jointId? x.offset = some x.joint ↔
    r.ids[x.offset]? = some x.joint ∧ isJoint x = true := by
  rw [jointId?_eq_some_iff, isJoint, bne_iff_ne]

/-- The joints that the scan onwards comes to. -/
theorem mem_onwards : x ∈ (r.marks.drop (o + 1)).filter isJoint ↔
    r.jointId? x.offset = some x.joint ∧ o < x.offset := by
  have hdrop : x ∈ r.marks.drop (o + 1) ↔ r.ids[x.offset]? = some x.joint ∧ o < x.offset := by
    simp only [List.mem_iff_getElem?, List.getElem?_drop, getElem?_marks_iff]
    constructor
    · rintro ⟨i, hi, hx⟩
      exact ⟨hx, by omega⟩
    · rintro ⟨hx, hlt⟩
      exact ⟨x.offset - (o + 1), by omega, hx⟩
  rw [List.mem_filter, hdrop, jointId?_iff_isJoint, and_right_comm]

/-- The joints that the scan back comes to, which begins at the end of the vector if the offset lies
    past it. -/
theorem mem_back : x ∈ (r.marks.take (min o r.ids.size)).filter isJoint ↔
    r.jointId? x.offset = some x.joint ∧ x.offset < o := by
  have hlength : r.ids.size = r.marks.length := by simp [marks]
  have htake : x ∈ r.marks.take o ↔ r.ids[x.offset]? = some x.joint ∧ x.offset < o := by
    simp only [List.mem_iff_getElem?, List.getElem?_take, Option.ite_none_right_eq_some,
      getElem?_marks_iff]
    constructor
    · rintro ⟨i, hlt, rfl, hx⟩
      exact ⟨hx, hlt⟩
    · rintro ⟨hx, hlt⟩
      exact ⟨x.offset, hlt, rfl, hx⟩
  rw [hlength, ← List.take_eq_take_min, List.mem_filter, htake, jointId?_iff_isJoint, and_right_comm]

/-- An extreme one of the joints that a scan comes to lies at the extreme offset that has a joint. -/
theorem extreme_iff {l : List Milestone} {P : Nat → Prop} {R : Nat → Nat → Prop}
    (hl : ∀ {y : Milestone}, y ∈ l ↔ r.jointId? y.offset = some y.joint ∧ P y.offset) :
    (x ∈ l ∧ ∀ y ∈ l, R x.offset y.offset) ↔ r.jointId? x.offset = some x.joint ∧
      (P x.offset ∧ (r.jointId? x.offset).isSome = true) ∧
        ∀ a, P a ∧ (r.jointId? a).isSome = true → R x.offset a := by
  rw [hl, and_assoc]
  refine and_congr_right fun hx => ?_
  constructor
  · rintro ⟨hP, hall⟩
    refine ⟨⟨hP, Option.isSome_of_mem hx⟩, fun a ⟨ha, hjoint⟩ => ?_⟩
    obtain ⟨j, hj⟩ := Option.isSome_iff_exists.mp hjoint
    exact hall ⟨a, j⟩ (hl.mpr ⟨hj, ha⟩)
  · rintro ⟨⟨hP, -⟩, hall⟩
    refine ⟨hP, fun y hy => ?_⟩
    obtain ⟨hjoint, hy⟩ := hl.mp hy
    exact hall _ ⟨hy, Option.isSome_of_mem hjoint⟩

/-- The scan onwards ends at the first offset beyond that has a joint. -/
theorem neighbour?_onwards_iff : r.neighbour? o true = some x ↔
    r.jointId? x.offset = some x.joint ∧
      IsLeast {a | o < a ∧ (r.jointId? a).isSome = true} x.offset := by
  rw [neighbour?, if_pos rfl, ← List.head?_filter,
    head?_eq_some_iff_of_pairwise ((sorted_marks.drop).filter _)]
  simp only [Nat.not_lt]
  exact extreme_iff (P := (o < ·)) (R := (· ≤ ·)) mem_onwards

/-- The scan back ends at the last offset before that has a joint. -/
theorem neighbour?_back_iff : r.neighbour? o false = some x ↔
    r.jointId? x.offset = some x.joint ∧
      IsGreatest {a | a < o ∧ (r.jointId? a).isSome = true} x.offset := by
  rw [neighbour?, if_neg Bool.false_ne_true, ← List.getLast?_filter,
    getLast?_eq_some_iff_of_pairwise ((sorted_marks.take).filter _)]
  simp only [Nat.not_lt]
  exact extreme_iff (P := (· < o)) (R := (· ≥ ·)) mem_back

end RoadJointIds

/-! ## The index of all roads -/

namespace RoadIndex

variable {index : RoadIndex} {m : JointMap} {p q : RoadPoint} {joint : Nat} {x : Milestone}

/-- The vector of a road, an empty one if the road was never written. -/
def along (index : RoadIndex) (road : Nat) : RoadJointIds := index.roads.getD road .empty

theorem jointId?_eq : index.jointId? p = (index.along p.road).jointId? p.offset := by
  rw [jointId?, along, Std.TreeMap.getD_eq_getD_getElem?]
  cases index.roads[p.road]? <;> rfl

theorem neighbour?_eq (forward : Bool) :
    index.neighbour? p forward = (index.along p.road).neighbour? p.offset forward := by
  rw [neighbour?, along, Std.TreeMap.getD_eq_getD_getElem?]
  cases index.roads[p.road]? with
  | some ids => rfl
  | none =>
    rw [Option.bind_none, Option.getD_none]
    cases forward <;> simp [RoadJointIds.neighbour?, RoadJointIds.marks, RoadJointIds.empty]

theorem addJoint_snd : (index.addJoint p joint).2 = index.jointId? p := by
  rw [jointId?_eq]
  exact (index.along p.road).addJoint_snd p.offset joint

theorem jointId?_addJoint : (index.addJoint p joint).1.jointId? q =
    if p = q then named? joint else index.jointId? q := by
  obtain ⟨pr, po⟩ := p
  obtain ⟨qr, qo⟩ := q
  have halong : (index.addJoint ⟨pr, po⟩ joint).1.along qr =
      if pr = qr then ((index.along pr).addJoint po joint).1 else index.along qr := by
    simp [addJoint, along, Std.TreeMap.getD_insert]
  rw [jointId?_eq, jointId?_eq, halong]
  by_cases hr : pr = qr
  · subst hr
    simp [RoadJointIds.jointId?_addJoint]
  · simp [hr]

/-! ## What an index represents -/

/-- The index and the map know the same joint of every road point. -/
def Represents (index : RoadIndex) (m : JointMap) : Prop := ∀ p, index.jointId? p = m.find? p

theorem represents_empty : empty.Represents .empty := by
  intro p
  rw [JointMap.find?_empty, jointId?, empty, Std.TreeMap.getElem?_emptyc]
  rfl

namespace Represents

theorem addJoint_snd (h : index.Represents m) :
    (index.addJoint p joint).2 = (m.assign p joint).2 :=
  RoadIndex.addJoint_snd.trans (h p)

theorem addJoint (h : index.Represents m) :
    (index.addJoint p joint).1.Represents (m.assign p joint).1 := by
  intro q
  rw [jointId?_addJoint, JointMap.assign, JointMap.find?_set, h q]

theorem neighbour?_onwards (h : index.Represents m) : index.neighbour? p true = m.after? p := by
  ext x
  rw [neighbour?_eq, RoadJointIds.neighbour?_onwards_iff, JointMap.after?_eq_some_iff_isLeast]
  simp only [← h _, jointId?_eq]

theorem neighbour?_back (h : index.Represents m) : index.neighbour? p false = m.before? p := by
  ext x
  rw [neighbour?_eq, RoadJointIds.neighbour?_back_iff, JointMap.before?_eq_some_iff_isGreatest]
  simp only [← h _, jointId?_eq]

end Represents

/-! ## Any history of writes -/

/-- The index after some writes, the first one first. -/
def written (history : List (RoadPoint × Nat)) : RoadIndex :=
  history.foldl (fun index a => (index.addJoint a.1 a.2).1) empty

theorem represents_written (history : List (RoadPoint × Nat)) :
    (written history).Represents (.assigned history) := by
  induction history using List.reverseRecOn with
  | nil => exact represents_empty
  | append_singleton history a ih =>
    rw [written, JointMap.assigned, List.foldl_append, List.foldl_append]
    exact ih.addJoint

/-- After any history, a further write tells the joint that the point had last, a look-up finds the last
    joint, and the scans find the nearest points whose last write is of a joint. Points past the end of
    a vector, and roads that were never written, are no exception. -/
theorem written_knows_last (history : List (RoadPoint × Nat)) :
    let index := written history
    let last := JointMap.lastAssigned history
    (∀ p joint, (index.addJoint p joint).2 = last p) ∧
    (∀ p, index.jointId? p = last p) ∧
    (∀ p x, index.neighbour? p true = some x ↔ last ⟨p.road, x.offset⟩ = some x.joint ∧
      IsLeast {o | p.offset < o ∧ (last ⟨p.road, o⟩).isSome = true} x.offset) ∧
    (∀ p, index.neighbour? p true = none ↔ ∀ o, p.offset < o → last ⟨p.road, o⟩ = none) ∧
    (∀ p x, index.neighbour? p false = some x ↔ last ⟨p.road, x.offset⟩ = some x.joint ∧
      IsGreatest {o | o < p.offset ∧ (last ⟨p.road, o⟩).isSome = true} x.offset) ∧
    ∀ p, index.neighbour? p false = none ↔ ∀ o, o < p.offset → last ⟨p.road, o⟩ = none := by
  intro index last
  have h : index.Represents (.assigned history) := represents_written history
  obtain ⟨hassign, hfind, hafter, hafter', hbefore, hbefore'⟩ := JointMap.assigned_knows_last history
  refine ⟨fun p joint => h.addJoint_snd.trans (hassign p joint), fun p => (h p).trans (hfind p),
    fun p x => ?_, fun p => ?_, fun p x => ?_, fun p => ?_⟩
  · rw [h.neighbour?_onwards, hafter]
  · rw [h.neighbour?_onwards, hafter']
  · rw [h.neighbour?_back, hbefore]
  · rw [h.neighbour?_back, hbefore']

/-- The vector of the road grows over a gap, is written again in its middle, and ends with a point that
    lost its joint. -/
example :
    let index := written [(⟨0, 3⟩, 11), (⟨0, 6⟩, 12), (⟨0, 3⟩, 20), (⟨0, 6⟩, noJoint)]
    index.neighbour? ⟨0, 0⟩ true = some ⟨3, 20⟩ ∧ index.neighbour? ⟨0, 3⟩ true = none ∧
      index.neighbour? ⟨0, 40⟩ false = some ⟨3, 20⟩ ∧ (index.addJoint ⟨0, 6⟩ 5).2 = none := by
  decide

/-! ## The index of a network -/

section Import

variable {K : Type} {roads : Array (Road K)}

/-- Writing a road point before it is checked comes to the same as checking it before. -/
theorem attach_alongside (h : index.Represents m) (hjoint : joint ≠ noJoint) (p : RoadPoint) :
    Alongside (fun owners index => Represents index owners) (Network.attach roads joint m p)
      (attach roads joint index p) := by
  have hsnd : (index.addJoint p joint).2 = m.find? p := h.addJoint_snd
  have hfst : (index.addJoint p joint).1.Represents (m.set p (some joint)) := by
    rw [← named?_of_ne hjoint]
    exact h.addJoint
  unfold Network.attach attach
  cases roads[p.road]? with
  | none => exact .error _
  | some road =>
    dsimp only
    split
    case isTrue => exact .error _
    case isFalse =>
      rcases hwrite : index.addJoint p joint with ⟨written, previous⟩
      rw [hwrite] at hsnd hfst
      rw [← hsnd]
      cases previous with
      | some first => exact .error _
      | none => exact .ok hfst

/-- A joint is registered alongside, and nothing but the map and the table of joints changes. -/
theorem addJoint_alongside {net : Network K} (h : index.Represents net.owners)
    (hcount : net.joints.count ≠ noJoint) (ps : List RoadPoint) :
    Alongside (fun net' index' => Represents index' net'.owners ∧ net'.roads = net.roads ∧
        net'.joints.count = net.joints.count + 1)
      (net.addJoint ps) (attachAll net.roads index (ps, net.joints.count)) := by
  have hfold : Alongside (fun owners index => Represents index owners)
      (ps.foldlM (Network.attach net.roads net.joints.count) net.owners)
      (ps.foldlM (attach net.roads net.joints.count) index) :=
    .foldlM h fun p _ _ h => attach_alongside h hcount p
  unfold Network.addJoint attachAll
  split
  case isTrue => exact .error _
  case isFalse =>
    rw [← bind_pure (ps.foldlM _ index)]
    exact hfold.bind fun owners index' h' => .ok ⟨h', rfl, JointTable.count_add _ _⟩

theorem addJoints_alongside {net : Network K} (h : index.Represents net.owners)
    {joints : List (List RoadPoint)} (hcount : net.joints.count + joints.length ≤ noJoint) :
    Alongside (fun net' index' => Represents index' net'.owners)
      (joints.foldlM Network.addJoint net)
      ((joints.zipIdx net.joints.count).foldlM (attachAll net.roads) index) := by
  induction joints generalizing net index with
  | nil => exact .ok h
  | cons ps joints ih =>
    rw [List.length_cons] at hcount
    rw [List.zipIdx_cons, List.foldlM_cons, List.foldlM_cons]
    refine (addJoint_alongside h (by omega) ps).bind fun net' index' h' => ?_
    obtain ⟨h', hroads, hcount'⟩ := h'
    rw [← hroads, ← hcount']
    exact ih h' (by omega)

/-- Joints are imported into an index of vectors as into a network, unless there are so many that one
    gets the number that stands for none: the first error is the same, and if there is none, every
    look-up and every scan has the same result. -/
theorem ofJoints_alongside {joints : List (List RoadPoint)} (hcount : joints.length ≤ noJoint) :
    Alongside (fun net index => ∀ p, index.jointId? p = net.owners.find? p ∧
        index.neighbour? p true = net.owners.after? p ∧
        index.neighbour? p false = net.owners.before? p)
      (Network.build roads joints) (ofJoints roads joints) := by
  have hempty : empty.Represents (Network.ofRoads roads).owners := represents_empty
  have hfold : Alongside (fun net index => Represents index net.owners) (Network.build roads joints)
      (ofJoints roads joints) := by
    refine addJoints_alongside hempty ?_
    show 0 + joints.length ≤ noJoint
    omega
  exact hfold.mono fun _ _ h p => ⟨h p, h.neighbour?_onwards, h.neighbour?_back⟩

end Import

end RoadIndex

end RoadRouting
