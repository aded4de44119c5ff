import RoadRouting.Geo.Point

/-!
# Roads and road points

A road is a polyline with the attributes that decide whether, in which direction and how fast it
is driven. Roads are numbered from zero, and the points of a road by their offset along it, which
grows in the forward direction.

* `Road.forbids`: a one-way road leads from smaller to larger offsets only.
* `Missing`: the one way in which a lookup in a network goes wrong.
-/

namespace RoadRouting

/-- In a text, the numbers of roads and offsets are below this bound: they have 32 bits. -/
def idLimit : Nat := 4294967296

/-- A point of a road: the number of the road and the offset of the point along it. -/
structure RoadPoint where
  road : Nat
  offset : Nat
deriving Repr, BEq, DecidableEq

namespace RoadPoint

/-- The written form `road:offset`. -/
def text (p : RoadPoint) : String := s!"{p.road}:{p.offset}"

/-- The point of road zero at offset zero. -/
def origin : RoadPoint := ⟨0, 0⟩

end RoadPoint

/-- A lookup named something that the network does not hold. -/
inductive Missing where
  /-- There is no road of this number. -/
  | road (number : Nat)
  /-- The road has no point at this offset. -/
  | offset (offset : Nat)
  /-- There is no joint of this number. -/
  | joint (number : Nat)
deriving Repr, DecidableEq

/-- The geometry of a road and the attributes that decide how it is driven. -/
structure Road (K : Type) where
  points : Array (GeoPoint K)
  /-- Driven from smaller to larger offsets only. -/
  oneWay : Bool
  /-- Driven at all: other features share the geometry, but no route uses them. -/
  routable : Bool
  /-- Speed in km/h. -/
  speed : K
deriving Repr

namespace Road

variable {K : Type}

/-- A road that can be driven, at the given speed. -/
def drivable (points : Array (GeoPoint K)) (oneWay : Bool) (speed : K) : Road K :=
  ⟨points, oneWay, true, speed⟩

/-- A feature that is part of the geometry but never driven. -/
def undrivable [Zero K] (points : Array (GeoPoint K)) : Road K :=
  ⟨points, false, false, 0⟩

/-- The coordinates at an offset. -/
def pointAt (r : Road K) (offset : Nat) : Except Missing (GeoPoint K) :=
  match r.points[offset]? with
  | some p => .ok p
  | none => .error (.offset offset)

/-- The direction of the road rules out going from offset `a` to offset `b`. -/
def forbids (r : Road K) (a b : Nat) : Bool := r.oneWay && decide (b < a)

theorem pointAt_eq_ok {r : Road K} {o : Nat} {p : GeoPoint K} :
    r.pointAt o = .ok p ↔ r.points[o]? = some p := by
  unfold pointAt
  split <;> simp_all

theorem exists_pointAt_iff {r : Road K} {o : Nat} :
    (∃ p, r.pointAt o = .ok p) ↔ o < r.points.size := by
  simp only [pointAt_eq_ok, Array.getElem?_eq_some_iff]
  exact ⟨fun ⟨_, h, _⟩ => h, fun h => ⟨_, h, rfl⟩⟩

end Road

end RoadRouting
