import RoadRouting.Json.Number
import RoadRouting.Json.Parser
import RoadRouting.Network.Basic

/-!
# Road networks in JSON

The file of a network is an object with its roads and its joints. Decoding fills in the defaults of
missing fields. Encoding writes every field.

* `NetworkFile.ofJson?`, `NetworkFile.toJson`: the two directions for a whole file.
* `Network.ofText`: the network of a text, or why it cannot be imported.
-/

namespace RoadRouting

open Json (NumberFormat)

variable {K : Type}

namespace GeoPoint

/-- A place from the fields `lat` and `lng`. -/
def ofJson? (f : NumberFormat K) (v : Json) : Option (GeoPoint K) :=
  match v.record? ["lat", "lng"] with
  | some [some lat, some lng] => do
    let lat ← f.ofJson? lat
    let lng ← f.ofJson? lng
    some ⟨lat, lng⟩
  | _ => none

/-- A place with the fields `lat` and `lng`. -/
def toJson (f : NumberFormat K) (p : GeoPoint K) : Json :=
  .ofFields [("lat", f.write p.lat), ("lng", f.write p.lng)]

end GeoPoint

namespace RoadPoint

/-- A road point from the fields `feature_id` and `point_id`. -/
def ofJson? (v : Json) : Option RoadPoint :=
  match v.record? ["feature_id", "point_id"] with
  | some [some road, some offset] => do
    let road ← road.natBelow? idLimit
    let offset ← offset.natBelow? idLimit
    some ⟨road, offset⟩
  | _ => none

/-- A road point with the fields `feature_id` and `point_id`. -/
def toJson (p : RoadPoint) : Json :=
  .ofFields [("feature_id", .ofNat p.road), ("point_id", .ofNat p.offset)]

end RoadPoint

/-- The speed of a road that gives none, in km/h. -/
def defaultSpeed : Nat := 50

namespace Road

/-- A road from its points and its attributes. Without attributes it is a two-way road that is
    driven at the default speed. -/
def ofJson? (f : NumberFormat K) (v : Json) : Option (Road K) :=
  match v.record? ["points", "one_way", "is_road", "speed_kmh"] with
  | some [some points, oneWay, routable, speed] => do
    let points ← points.listOf? (GeoPoint.ofJson? f)
    let oneWay ← oneWay.elim (some false) Json.bool?
    let routable ← routable.elim (some true) Json.bool?
    let speed ← speed.elim (some (f.ofNat defaultSpeed)) f.ofJson?
    some ⟨points.toArray, oneWay, routable, speed⟩
  | _ => none

/-- A road with all its fields. -/
def toJson (f : NumberFormat K) (r : Road K) : Json :=
  .ofFields [
    ("points", .array (r.points.toList.map (·.toJson f))),
    ("one_way", .bool r.oneWay),
    ("is_road", .bool r.routable),
    ("speed_kmh", f.write r.speed)]

end Road

/-- The contents of a network file: roads, and for every joint the road points that it glues
    together. -/
structure NetworkFile (K : Type) where
  roads : List (Road K)
  joints : List (List RoadPoint)

namespace NetworkFile

/-- A file without roads and joints. -/
def empty : NetworkFile K := ⟨[], []⟩

/-- A file from its roads and its joints. The joints may be missing. -/
def ofJson? (f : NumberFormat K) (v : Json) : Option (NetworkFile K) :=
  match v.record? ["roads", "joints"] with
  | some [some roads, joints] => do
    let roads ← roads.listOf? (Road.ofJson? f)
    let joints ← joints.elim (some []) (Json.listOf? (Json.listOf? RoadPoint.ofJson?))
    some ⟨roads, joints⟩
  | _ => none

/-- A file with its roads and its joints. -/
def toJson (f : NumberFormat K) (file : NetworkFile K) : Json :=
  .ofFields [
    ("roads", .array (file.roads.map (·.toJson f))),
    ("joints", .array (file.joints.map fun ps => .array (ps.map RoadPoint.toJson)))]

/-- The network of a file. -/
def network (file : NetworkFile K) : Except ImportError (Network K) :=
  Network.build file.roads.toArray file.joints

end NetworkFile

/-- The network of a JSON text. -/
def Network.ofText (text : String) : Except ImportError (Network Float) :=
  match (Json.parse? text).bind (NetworkFile.ofJson? .binary64) with
  | some file => file.network
  | none => .error .malformed

end RoadRouting
