import RoadRouting.Geo.GreatCircle
import RoadRouting.Network.Basic

/-!
# The nearest road point

A place is matched to the network by the nearest point of any road that can be driven, near being
measured in the plane of degrees.

* `Network.places`: the points of all drivable roads.
* `nearest?`: the first of those with the least squared distance.
* `snap?`: the nearest place with its distance in metres.
* `Network.snapBy`: the same with any index of the places, which finds the nearest in its own way.
* `Lookup.scan`: the index that compares all places.
-/

namespace RoadRouting

variable {K : Type}

/-- A road point and where it lies. -/
structure Place (K : Type) where
  point : RoadPoint
  coordinates : GeoPoint K
deriving Repr

namespace Network

/-- The points of a road that can be driven, none of another. -/
def placesOf (number : Nat) (road : Road K) : List (Place K) :=
  if road.routable then road.points.toList.mapIdx fun offset p => ⟨⟨number, offset⟩, p⟩ else []

/-- The points of all roads that can be driven, by road and offset. -/
def places (net : Network K) : List (Place K) := (net.roads.toList.mapIdx placesOf).flatten

end Network

section Nearest

variable [Sub K] [Mul K] [Add K] [LT K] [DecidableLT K]

/-- The nearer of two places, the first if they are equally near. -/
def nearer (query : GeoPoint K) (p q : Place K) : Place K :=
  if q.coordinates.planarSquare query < p.coordinates.planarSquare query then q else p

/-- The place nearest to a query, absent when there are none. -/
def nearest? (query : GeoPoint K) : List (Place K) → Option (Place K)
  | [] => none
  | p :: rest => some (rest.foldl (nearer query) p)

end Nearest

/-- A place matched to the network. -/
structure Snapped (K : Type) where
  point : RoadPoint
  coordinates : GeoPoint K
  /-- Between the query and the matched point. -/
  distance : K

/-- A match on the globe, with its distance in metres. -/
abbrev Snap := Snapped Float

/-- Matches a query to the nearest of some places. -/
def snap? (places : List (Place Float)) (query : GeoPoint Float) : Option Snap :=
  (nearest? query places).map fun p => ⟨p.point, p.coordinates, query.distance p.coordinates⟩

/-! ## Indexes of places -/

/-- A road point at its position `(x, y)` in the plane, as an index holds it. -/
structure Pin (K : Type) where
  position : K × K
  point : RoadPoint
deriving Repr

/-- The pin of a place. -/
def Place.pin (p : Place K) : Pin K := ⟨p.coordinates.toPlane, p.point⟩

/-- The place of a pin. -/
def Pin.place (p : Pin K) : Place K := ⟨p.point, .ofPlane p.position⟩

@[simp] theorem Place.place_pin (p : Place K) : p.pin.place = p := rfl

/-- How an index finds the pin nearest to a position. -/
abbrev Lookup (K : Type) := (position : K × K) → List (Pin K) → Option (Pin K)

/-- The look-up that compares all pins, the first of equally near ones winning. -/
def Lookup.scan [Sub K] [Mul K] [Add K] [LT K] [DecidableLT K] : Lookup K := fun position pins =>
  (nearest? (.ofPlane position) (pins.map Pin.place)).map Place.pin

namespace Network

/-- The points of all roads that can be driven, at their positions. -/
def pins (net : Network K) : List (Pin K) := net.places.map Place.pin

/-- Matches a query to the pin that an index finds. The index only tells the road point. Its
    coordinates are those that the network has for it. -/
def snapBy (net : Network K) (find : Lookup K) (distance : GeoPoint K → GeoPoint K → K)
    (query : GeoPoint K) : Except Missing (Option (Snapped K)) :=
  match find query.toPlane net.pins with
  | none => .ok none
  | some pin => do
    let coordinates ← net.geometry pin.point
    .ok (some ⟨pin.point, coordinates, distance query coordinates⟩)

end Network

end RoadRouting
