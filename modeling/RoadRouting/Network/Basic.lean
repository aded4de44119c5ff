import RoadRouting.Network.JointMap
import RoadRouting.Network.JointTable

/-!
# Road networks

A network is a list of roads together with the joints that connect them. It is only built from
joints that fit the roads: no joint is empty, every road point of a joint exists, and no road
point occurs twice.

* `Network.build`: the network of roads and joints, or the first thing wrong with the joints.
* `ImportError.message`: what is said about it.
-/

namespace RoadRouting

/-- Why a network could not be imported. -/
inductive ImportError where
  /-- The file cannot be opened. -/
  | unreadable (path : String)
  /-- The text is not that of a network. -/
  | malformed
  | emptyJoint (joint : Nat)
  | unknownRoad (joint : Nat) (road : Nat)
  | outsideRoad (joint : Nat) (point : RoadPoint)
  /-- A road point occurs twice: in the joint `first` and, later, in the joint `second`. -/
  | sharedPoint (point : RoadPoint) (first second : Nat)
deriving Repr, DecidableEq

/-- The text of an import error. -/
def ImportError.message : ImportError → String
  | unreadable path => s!"failed to read graph file {path}"
  | malformed => "failed to parse graph file"
  | emptyJoint joint => s!"joint {joint} has no points"
  | unknownRoad joint road => s!"joint {joint} references unknown road {road}"
  | outsideRoad joint p => s!"joint {joint} references {p.text} outside of the road"
  | sharedPoint p first second => s!"{p.text} belongs to both joints {first} and {second}"

/-- Roads and the joints between them. -/
structure Network (K : Type) where
  roads : Array (Road K)
  /-- The road points of every joint. -/
  joints : JointTable
  /-- The joint of every road point that has one. -/
  owners : JointMap

namespace Network

variable {K : Type}

/-- Roads without joints. -/
def ofRoads (roads : Array (Road K)) : Network K := ⟨roads, .empty, .empty⟩

/-- Attaches a road point to a joint: the owners of road points with this point added. -/
def attach (roads : Array (Road K)) (joint : Nat) (owners : JointMap) (p : RoadPoint) :
    Except ImportError JointMap :=
  match roads[p.road]? with
  | none => .error (.unknownRoad joint p.road)
  | some road =>
    if road.points.size ≤ p.offset then .error (.outsideRoad joint p)
    else match owners.find? p with
      | some first => .error (.sharedPoint p first joint)
      | none => .ok (owners.set p (some joint))

/-- Adds a joint under the next number. -/
def addJoint (net : Network K) (points : List RoadPoint) : Except ImportError (Network K) :=
  if points.isEmpty then .error (.emptyJoint net.joints.count)
  else do
    let owners ← points.foldlM (attach net.roads net.joints.count) net.owners
    .ok { net with joints := net.joints.add points, owners }

/-- The network of some roads and joints. The joint at position `i` of the list gets the
    number `i`. -/
def build (roads : Array (Road K)) (joints : List (List RoadPoint)) :
    Except ImportError (Network K) :=
  joints.foldlM addJoint (ofRoads roads)

/-- The road of a number. -/
def road (net : Network K) (number : Nat) : Except Missing (Road K) :=
  match net.roads[number]? with
  | some r => .ok r
  | none => .error (.road number)

/-- The road point exists. -/
def hasPoint (net : Network K) (p : RoadPoint) : Bool :=
  match net.roads[p.road]? with
  | some r => decide (p.offset < r.points.size)
  | none => false

/-- The coordinates of a road point. -/
def geometry (net : Network K) (p : RoadPoint) : Except Missing (GeoPoint K) := do
  let road ← net.road p.road
  road.pointAt p.offset

/-- The coordinates of a joint are those of its first road point. -/
def jointGeometry (net : Network K) (joint : Nat) : Except Missing (GeoPoint K) := do
  match ← net.joints.points joint with
  | p :: _ => net.geometry p
  | [] => .error (.joint joint)

/-- Some road point of the joint lies on the road. -/
def liesOn (net : Network K) (joint road : Nat) : Except Missing Bool := do
  let points ← net.joints.points joint
  .ok (points.any fun p => p.road == road)

end Network

end RoadRouting
