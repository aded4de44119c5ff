import RoadRouting.Road

/-!
# The road points of joints

A joint is a place where roads meet, given by the list of road points that it glues together.
Joints are numbered from zero in the order in which they are added.
-/

namespace RoadRouting

/-- The road points of every joint. -/
structure JointTable where
  entries : Array (List RoadPoint)
deriving Repr

namespace JointTable

/-- A table without joints. -/
def empty : JointTable := ⟨#[]⟩

/-- The number of joints, which is also the number of the next one. -/
def count (t : JointTable) : Nat := t.entries.size

/-- Adds a joint under the next number. -/
def add (t : JointTable) (points : List RoadPoint) : JointTable := ⟨t.entries.push points⟩

/-- The road points of a joint. -/
def points (t : JointTable) (joint : Nat) : Except Missing (List RoadPoint) :=
  match t.entries[joint]? with
  | some ps => .ok ps
  | none => .error (.joint joint)

@[simp] theorem count_add (t : JointTable) (ps : List RoadPoint) :
    (t.add ps).count = t.count + 1 := by
  simp [count, add]

theorem points_eq_ok {t : JointTable} {j : Nat} {ps : List RoadPoint} :
    t.points j = .ok ps ↔ t.entries[j]? = some ps := by
  unfold points
  split <;> simp_all

end JointTable

end RoadRouting
