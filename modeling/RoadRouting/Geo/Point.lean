/-!
# Coordinates

A `GeoPoint` is a latitude and a longitude in degrees. The type of the two numbers is a
parameter: the program computes with floating point, a statement about geometry may use an exact
field instead.

* `GeoPoint.planarSquare`: the squared distance in the plane of degrees, which orders the points
  around a query.
-/

namespace RoadRouting

/-- A place on the globe, in degrees. -/
structure GeoPoint (K : Type) where
  lat : K
  lng : K
deriving Repr, BEq, DecidableEq

namespace GeoPoint

variable {K : Type}

/-- The place as `(x, y)` in the plane: the longitude grows to the right and the latitude
    upwards. -/
def toPlane (p : GeoPoint K) : K × K := (p.lng, p.lat)

/-- The place at `(x, y)` of the plane. -/
def ofPlane (xy : K × K) : GeoPoint K := ⟨xy.2, xy.1⟩

@[simp] theorem ofPlane_toPlane (p : GeoPoint K) : ofPlane p.toPlane = p := rfl

@[simp] theorem toPlane_ofPlane (xy : K × K) : (ofPlane xy).toPlane = xy := rfl

/-- The squared distance of two places in the plane of degrees, the longitudes' share first. -/
def planarSquare [Sub K] [Mul K] [Add K] (p q : GeoPoint K) : K :=
  (p.lng - q.lng) * (p.lng - q.lng) + (p.lat - q.lat) * (p.lat - q.lat)

end GeoPoint

end RoadRouting
