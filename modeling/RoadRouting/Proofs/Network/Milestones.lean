import Mathlib.Data.List.Nodup
import RoadRouting.Network.JointMap

/-!
# Looking up the joints of a road

The marks of a road are sorted by offset, so each offset has at most one joint. The nearest joints
around an offset are told by the look-up alone: a joint is the next one if it is found beyond the
offset and nothing is found in between.

* `JointMap.find?_set`: a road point that is set is found, and the others stay as they were.
* `JointMap.Clear`: no joint strictly between two offsets of a road.
* `JointMap.after?_eq_some_iff`, `JointMap.before?_eq_some_iff`: the nearest joints.
-/

namespace RoadRouting

deriving instance ReflBEq, LawfulBEq for RoadPoint

/-! ## First and last of a sorted list -/

theorem head?_eq_some_iff_of_pairwise {α : Type} {r : α → α → Prop} [Std.Asymm r] {l : List α}
    (h : l.Pairwise r) {x : α} : l.head? = some x ↔ x ∈ l ∧ ∀ y ∈ l, ¬ r y x := by
  cases l with
  | nil => simp
  | cons a l =>
    obtain ⟨ha, -⟩ := List.pairwise_cons.mp h
    rw [List.head?_cons, Option.some_inj]
    constructor
    · rintro rfl
      refine ⟨List.mem_cons_self, fun y hy hya => ?_⟩
      rcases List.mem_cons.mp hy with rfl | hy
      · exact Std.Asymm.asymm _ _ hya hya
      · exact Std.Asymm.asymm _ _ hya (ha y hy)
    · rintro ⟨hx, hmin⟩
      rcases List.mem_cons.mp hx with rfl | hx
      · rfl
      · exact absurd (ha x hx) (hmin a List.mem_cons_self)

theorem getLast?_eq_some_iff_of_pairwise {α : Type} {r : α → α → Prop} [Std.Asymm r] {l : List α}
    (h : l.Pairwise r) {x : α} : l.getLast? = some x ↔ x ∈ l ∧ ∀ y ∈ l, ¬ r x y := by
  have : Std.Asymm (fun a b => r b a) := ⟨fun a b hab hba => Std.Asymm.asymm _ _ hab hba⟩
  rw [← List.head?_reverse, head?_eq_some_iff_of_pairwise (List.pairwise_reverse.mpr h)]
  simp only [List.mem_reverse]

/-! ## The marks of one road -/

namespace Milestones

variable {m : Milestones} {o j : Nat} {x y : Milestone}

instance asymm_offset : Std.Asymm fun a b : Milestone => a.offset < b.offset :=
  ⟨fun _ _ => Nat.lt_asymm⟩

theorem offset_inj (hx : x ∈ m.marks) (hy : y ∈ m.marks) (h : x.offset = y.offset) : x = y := by
  have hnodup : (m.marks.map (·.offset)).Nodup :=
    List.pairwise_map.mpr (m.sorted.imp fun hlt => Nat.ne_of_lt hlt)
  exact List.inj_on_of_nodup_map hnodup hx hy h

theorem find?_eq_some_iff : m.find? o = some j ↔ ⟨o, j⟩ ∈ m.marks := by
  rw [find?, Option.map_eq_some_iff]
  constructor
  · rintro ⟨x, hx, rfl⟩
    obtain rfl : x.offset = o := by simpa using List.find?_some hx
    exact List.mem_of_find?_eq_some hx
  · intro hmem
    cases hx : m.marks.find? (·.offset == o) with
    | none =>
      have := List.find?_eq_none.mp hx _ hmem
      simp at this
    | some x =>
      have ho : x.offset = o := by simpa using List.find?_some hx
      have := offset_inj (List.mem_of_find?_eq_some hx) hmem ho
      exact ⟨x, rfl, by rw [this]⟩

theorem mem_put {joint : Option Nat} : x ∈ (m.put o joint).marks ↔
    (x ∈ m.marks ∧ x.offset ≠ o) ∨ (joint = some x.joint ∧ x.offset = o) := by
  obtain ⟨xo, xj⟩ := x
  have hsplit : xo ≠ o ↔ xo < o ∨ o < xo := by omega
  simp only [put, below, above, List.mem_append, List.mem_filter, decide_eq_true_eq,
    Option.mem_toList, Option.map_eq_some_iff, Milestone.mk.injEq, hsplit, and_or_left]
  constructor
  · rintro ((h | ⟨j, rfl, rfl, rfl⟩) | h)
    · exact .inl (.inl h)
    · exact .inr ⟨rfl, rfl⟩
    · exact .inl (.inr h)
  · rintro ((h | h) | ⟨rfl, rfl⟩)
    · exact .inl (.inl h)
    · exact .inr h
    · exact .inl (.inr ⟨xj, rfl, rfl, rfl⟩)

theorem find?_put {joint : Option Nat} {a : Nat} :
    (m.put o joint).find? a = if o = a then joint else m.find? a := by
  ext b
  rw [find?_eq_some_iff, mem_put]
  split
  case isTrue h => simp [h]
  case isFalse h => simp [find?_eq_some_iff, Ne.symm h]

theorem after?_eq_some_iff : m.after? o = some x ↔
    x ∈ m.marks ∧ o < x.offset ∧ ∀ y ∈ m.marks, o < y.offset → x.offset ≤ y.offset := by
  rw [after?, above, head?_eq_some_iff_of_pairwise (m.sorted.filter _)]
  simp only [List.mem_filter, decide_eq_true_eq, Nat.not_lt, and_assoc, and_imp]

theorem before?_eq_some_iff : m.before? o = some x ↔
    x ∈ m.marks ∧ x.offset < o ∧ ∀ y ∈ m.marks, y.offset < o → y.offset ≤ x.offset := by
  rw [before?, below, getLast?_eq_some_iff_of_pairwise (m.sorted.filter _)]
  simp only [List.mem_filter, decide_eq_true_eq, Nat.not_lt, and_assoc, and_imp]

end Milestones

/-! ## The joints of all roads -/

namespace JointMap

variable {m : JointMap} {p q : RoadPoint} {x : Milestone}

theorem find?_empty : empty.find? p = none := by
  rw [find?, along, empty, Std.TreeMap.getD_emptyc]
  rfl

theorem find?_set {joint : Option Nat} :
    (m.set p joint).find? q = if p = q then joint else m.find? q := by
  obtain ⟨pr, po⟩ := p
  obtain ⟨qr, qo⟩ := q
  simp only [find?, along_set, RoadPoint.mk.injEq]
  by_cases hr : pr = qr
  · subst hr
    simp only [if_true, Milestones.find?_put, true_and]
  · simp only [hr, if_false, false_and]

/-- No joint lies strictly between two offsets of a road, whichever of them is larger. -/
def Clear (m : JointMap) (road a b : Nat) : Prop :=
  ∀ o, (a < o ∧ o < b) ∨ (b < o ∧ o < a) → m.find? ⟨road, o⟩ = none

theorem Clear.symm {road a b : Nat} (h : m.Clear road a b) : m.Clear road b a :=
  fun o ho => h o ho.symm

theorem mem_along : x ∈ (m.along p.road).marks ↔ m.find? ⟨p.road, x.offset⟩ = some x.joint :=
  Milestones.find?_eq_some_iff.symm

theorem after?_eq_some_iff : m.after? p = some x ↔ m.find? ⟨p.road, x.offset⟩ = some x.joint ∧
    p.offset < x.offset ∧ m.Clear p.road p.offset x.offset := by
  rw [after?, Milestones.after?_eq_some_iff, mem_along]
  refine and_congr_right fun _ => and_congr_right fun hlt => ?_
  constructor
  · intro hmin o ho
    by_contra hne
    obtain ⟨j, hj⟩ := Option.ne_none_iff_exists'.mp hne
    have := hmin ⟨o, j⟩ (mem_along.mpr hj)
    simp only at this
    omega
  · intro hclear y hy hlt'
    by_contra hnot
    rw [mem_along, hclear y.offset (by omega)] at hy
    cases hy

theorem before?_eq_some_iff : m.before? p = some x ↔
    m.find? ⟨p.road, x.offset⟩ = some x.joint ∧ x.offset < p.offset ∧
      m.Clear p.road p.offset x.offset := by
  rw [before?, Milestones.before?_eq_some_iff, mem_along]
  refine and_congr_right fun _ => and_congr_right fun hlt => ?_
  constructor
  · intro hmax o ho
    by_contra hne
    obtain ⟨j, hj⟩ := Option.ne_none_iff_exists'.mp hne
    have := hmax ⟨o, j⟩ (mem_along.mpr hj)
    simp only at this
    omega
  · intro hclear y hy hlt'
    by_contra hnot
    rw [mem_along, hclear y.offset (by omega)] at hy
    cases hy

end JointMap

end RoadRouting
