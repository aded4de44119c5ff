import Mathlib.Data.List.Induction
import Mathlib.Order.Bounds.Defs
import RoadRouting.Proofs.Network.Milestones

/-!
# Any history of assignments

Whatever the order in which road points are given to joints, and however often a point changes its
joint or loses it again, the map knows the joint of the last assignment of each point and nothing else.
The nearest joints along a road are those of the nearest points that have one.

* `JointMap.assigned`: the map after a history of assignments.
* `JointMap.lastAssigned`: the last joint of a point in a history.
* `JointMap.after?_eq_some_iff_isLeast`, `JointMap.before?_eq_some_iff_isGreatest`: the nearest joints.
* `JointMap.assigned_knows_last`: a map answers every query by the last assignments.
-/

namespace RoadRouting

/-! ## The nearest joints -/

namespace Milestones

variable {m : Milestones} {o : Nat}

theorem after?_eq_none_iff : m.after? o = none ↔ ∀ x ∈ m.marks, ¬ o < x.offset := by
  rw [after?, List.head?_eq_none_iff, above, List.filter_eq_nil_iff]
  simp only [decide_eq_true_eq]

theorem before?_eq_none_iff : m.before? o = none ↔ ∀ x ∈ m.marks, ¬ x.offset < o := by
  rw [before?, List.getLast?_eq_none_iff, below, List.filter_eq_nil_iff]
  simp only [decide_eq_true_eq]

end Milestones

namespace JointMap

variable {m : JointMap} {p : RoadPoint} {x : Milestone}

theorem after?_eq_some_iff_isLeast : m.after? p = some x ↔
    m.find? ⟨p.road, x.offset⟩ = some x.joint ∧
      IsLeast {o | p.offset < o ∧ (m.find? ⟨p.road, o⟩).isSome = true} x.offset := by
  rw [after?_eq_some_iff]
  refine and_congr_right fun hx => ⟨?_, ?_⟩
  · rintro ⟨hlt, hclear⟩
    refine ⟨⟨hlt, by rw [hx, Option.isSome_some]⟩, fun o ⟨ho, hsome⟩ => ?_⟩
    by_contra hnot
    rw [hclear o (.inl ⟨ho, Nat.lt_of_not_le hnot⟩)] at hsome
    cases hsome
  · rintro ⟨⟨hlt, -⟩, hleast⟩
    refine ⟨hlt, fun o ho => ?_⟩
    by_contra hne
    have hle : x.offset ≤ o := hleast ⟨by omega, Option.isSome_iff_ne_none.mpr hne⟩
    omega

theorem before?_eq_some_iff_isGreatest : m.before? p = some x ↔
    m.find? ⟨p.road, x.offset⟩ = some x.joint ∧
      IsGreatest {o | o < p.offset ∧ (m.find? ⟨p.road, o⟩).isSome = true} x.offset := by
  rw [before?_eq_some_iff]
  refine and_congr_right fun hx => ⟨?_, ?_⟩
  · rintro ⟨hlt, hclear⟩
    refine ⟨⟨hlt, by rw [hx, Option.isSome_some]⟩, fun o ⟨ho, hsome⟩ => ?_⟩
    by_contra hnot
    rw [hclear o (.inr ⟨Nat.lt_of_not_le hnot, ho⟩)] at hsome
    cases hsome
  · rintro ⟨⟨hlt, -⟩, hgreatest⟩
    refine ⟨hlt, fun o ho => ?_⟩
    by_contra hne
    have hle : o ≤ x.offset := hgreatest ⟨by omega, Option.isSome_iff_ne_none.mpr hne⟩
    omega

theorem after?_eq_none_iff :
    m.after? p = none ↔ ∀ o, p.offset < o → m.find? ⟨p.road, o⟩ = none := by
  rw [after?, Milestones.after?_eq_none_iff]
  constructor
  · intro hnone o ho
    by_contra hne
    obtain ⟨j, hj⟩ := Option.ne_none_iff_exists'.mp hne
    exact hnone ⟨o, j⟩ (mem_along.mpr hj) ho
  · intro hnone x hx hlt
    rw [mem_along, hnone x.offset hlt] at hx
    cases hx

theorem before?_eq_none_iff :
    m.before? p = none ↔ ∀ o, o < p.offset → m.find? ⟨p.road, o⟩ = none := by
  rw [before?, Milestones.before?_eq_none_iff]
  constructor
  · intro hnone o ho
    by_contra hne
    obtain ⟨j, hj⟩ := Option.ne_none_iff_exists'.mp hne
    exact hnone ⟨o, j⟩ (mem_along.mpr hj) ho
  · intro hnone x hx hlt
    rw [mem_along, hnone x.offset hlt] at hx
    cases hx

/-! ## Histories -/

/-- The map after some assignments, the first one first, to joints that are given by their numbers. -/
def assigned (history : List (RoadPoint × Nat)) : JointMap :=
  history.foldl (fun m a => (m.assign a.1 a.2).1) empty

/-- The joint of the last assignment of a road point. There is none if the point was never assigned,
    or was taken away last. -/
def lastAssigned (history : List (RoadPoint × Nat)) (p : RoadPoint) : Option Nat :=
  (history.reverse.find? (·.1 == p)).bind fun a => named? a.2

theorem assigned_concat (history : List (RoadPoint × Nat)) (a : RoadPoint × Nat) :
    assigned (history ++ [a]) = (assigned history).set a.1 (named? a.2) := by
  rw [assigned, List.foldl_append]
  rfl

theorem lastAssigned_concat (history : List (RoadPoint × Nat)) (a : RoadPoint × Nat)
    (p : RoadPoint) : lastAssigned (history ++ [a]) p =
      if a.1 = p then named? a.2 else lastAssigned history p := by
  rw [lastAssigned, List.reverse_concat, List.find?_cons]
  split
  case h_1 h => rw [if_pos (eq_of_beq h), Option.bind_some]
  case h_2 h => rw [if_neg (ne_of_beq_false h), lastAssigned]

theorem find?_assigned (history : List (RoadPoint × Nat)) (p : RoadPoint) :
    (assigned history).find? p = lastAssigned history p := by
  induction history using List.reverseRecOn with
  | nil => exact find?_empty
  | append_singleton history a ih => rw [assigned_concat, find?_set, lastAssigned_concat, ih]

/-- After any history, a further assignment tells the joint that the point had last, a look-up finds the
    last joint, and the nearest joints are those of the nearest points whose last assignment is to a
    joint. -/
theorem assigned_knows_last (history : List (RoadPoint × Nat)) :
    (∀ p joint, ((assigned history).assign p joint).2 = lastAssigned history p) ∧
    (∀ p, (assigned history).find? p = lastAssigned history p) ∧
    (∀ p x, (assigned history).after? p = some x ↔
      lastAssigned history ⟨p.road, x.offset⟩ = some x.joint ∧
        IsLeast {o | p.offset < o ∧ (lastAssigned history ⟨p.road, o⟩).isSome = true} x.offset) ∧
    (∀ p, (assigned history).after? p = none ↔
      ∀ o, p.offset < o → lastAssigned history ⟨p.road, o⟩ = none) ∧
    (∀ p x, (assigned history).before? p = some x ↔
      lastAssigned history ⟨p.road, x.offset⟩ = some x.joint ∧
        IsGreatest {o | o < p.offset ∧ (lastAssigned history ⟨p.road, o⟩).isSome = true} x.offset) ∧
    ∀ p, (assigned history).before? p = none ↔
      ∀ o, o < p.offset → lastAssigned history ⟨p.road, o⟩ = none := by
  refine ⟨fun p _ => find?_assigned history p, find?_assigned history, fun p x => ?_, fun p => ?_,
    fun p x => ?_, fun p => ?_⟩
  · simp only [after?_eq_some_iff_isLeast, find?_assigned]
  · simp only [after?_eq_none_iff, find?_assigned]
  · simp only [before?_eq_some_iff_isGreatest, find?_assigned]
  · simp only [before?_eq_none_iff, find?_assigned]

end JointMap

end RoadRouting
