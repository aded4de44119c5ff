import RoadRouting.Codec.Network
import RoadRouting.Edge
import RoadRouting.Request

/-!
# Requests and options in JSON

Values that are one of several cases are written as a string, the name of the case, or as an object
whose one field has the name of the case.
-/

namespace RoadRouting

open Json (NumberFormat)

variable {K : Type}

/-- The name of a case that holds nothing: a string, or an object whose one field is null. -/
def Json.caseName? : Json → Option String
  | .string name => name
  | .object [(name, .null)] => name
  | _ => none

namespace Direction

/-- A direction by its name. -/
def ofJson? (v : Json) : Option Direction :=
  match v.caseName? with
  | some "Outgoing" => some .outgoing
  | some "Incoming" => some .incoming
  | _ => none

/-- The name of a direction. -/
def toJson : Direction → Json
  | outgoing => .ofText "Outgoing"
  | incoming => .ofText "Incoming"

end Direction

namespace Algorithm

/-- A search by its name. -/
def ofJson? (v : Json) : Option Algorithm := v.caseName?.bind named?

/-- The name of a search. -/
def toJson (a : Algorithm) : Json := .ofText a.name

/-- A search, or null for none. -/
def ofNullableJson? : Json → Option (Option Algorithm)
  | .null => some none
  | v => (ofJson? v).map some

end Algorithm

namespace Location

/-- A location: the one field tells whether it is a road point or a place. -/
def ofJson? (f : NumberFormat K) : Json → Option (Location K)
  | .object [(some "road_point", v)] => (RoadPoint.ofJson? v).map .roadPoint
  | .object [(some "coordinates", v)] => (GeoPoint.ofJson? f v).map .coordinates
  | _ => none

/-- A location under the name of its kind. -/
def toJson (f : NumberFormat K) : Location K → Json
  | roadPoint p => .ofFields [("road_point", p.toJson)]
  | coordinates p => .ofFields [("coordinates", p.toJson f)]

end Location

namespace Request

/-- A request. The search may be missing or null. -/
def ofJson? (f : NumberFormat K) (v : Json) : Option (Request K) :=
  match v.record? ["start", "finish", "algorithm"] with
  | some [some start, some finish, algorithm] => do
    let start ← Location.ofJson? f start
    let finish ← Location.ofJson? f finish
    let algorithm ← algorithm.elim (some none) Algorithm.ofNullableJson?
    some ⟨start, finish, algorithm⟩
  | _ => none

/-- A request with all its fields. -/
def toJson (f : NumberFormat K) (r : Request K) : Json :=
  .ofFields [
    ("start", r.start.toJson f),
    ("finish", r.finish.toJson f),
    ("algorithm", r.algorithm.elim .null Algorithm.toJson)]

end Request

namespace Options

/-- Options. Both may be missing. -/
def ofJson? (f : NumberFormat K) (v : Json) : Option (Options K) :=
  match v.record? ["algorithm", "max_speed_kmh"] with
  | some [algorithm, maxSpeed] => do
    let algorithm ← algorithm.elim (some .default) Algorithm.ofJson?
    let maxSpeed ← maxSpeed.elim (some (f.ofNat defaultMaxSpeed)) f.ofJson?
    some ⟨algorithm, maxSpeed⟩
  | _ => none

/-- Options with both fields. -/
def toJson (f : NumberFormat K) (o : Options K) : Json :=
  .ofFields [("algorithm", o.algorithm.toJson), ("max_speed_kmh", f.write o.maxSpeed)]

end Options

end RoadRouting
