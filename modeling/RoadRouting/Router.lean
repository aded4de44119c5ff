import RoadRouting.Decimal.Layout
import RoadRouting.Nearest
import RoadRouting.Request
import RoadRouting.Search.BestFirst
import RoadRouting.Search.TwoSided
import RoadRouting.Trip.Legs

/-!
# Routes

A router answers requests on a network: it resolves both endpoints to road points, searches the
trip between them, and turns the nodes found into road points and coordinates.

* `Router.snap`: the match of a place, by the index of the router.
* `Router.resolve`: the road point of an endpoint.
* `Trip.search`: the search of a trip by a given algorithm.
* `Router.route`: the route of a request, or why there is none.
-/

namespace RoadRouting

variable {K W : Type}

/-- A route along the roads. -/
structure Route (K W : Type) where
  /-- The nodes of the search. An endpoint that is no joint has a number past those of the
      joints. -/
  joints : List Nat
  roadPoints : List RoadPoint
  points : List (GeoPoint K)
  weight : W

/-- Why a request has no route. -/
inductive RouteError (K : Type) where
  | snapFailed (place : GeoPoint K)
  | invalidRoadPoint (point : RoadPoint)
  | routeNotFound (start finish : RoadPoint)
  /-- The nodes of the search could not be turned into road points. -/
  | brokenLegs (cause : LegError)
  | missing (what : Missing)
deriving Repr

/-- The text of a route error. -/
def RouteError.message : RouteError Float → String
  | snapFailed p => s!"no road found near {p.description}"
  | invalidRoadPoint p => s!"{p.text} is not a point of a known road"
  | routeNotFound p q => s!"no route found between {p.text} and {q.text}"
  | brokenLegs _ => "route reconstruction failed"
  | missing _ => "lookup out of range"

/-- The route error of a leg error: a failed lookup stays one. -/
def RouteError.ofLegs : LegError → RouteError K
  | .missing what => .missing what
  | cause => .brokenLegs cause

/-- The search of a trip from one node to another. -/
def Trip.search [Cost W] (t : Trip K) (est : Estimator K W) (start goal : Nat) :
    Algorithm → Except Missing (Option (Search.Path W))
  | .dijkstra => Search.dijkstra (t.graph est) start goal
  | .aStar => Search.BestFirst.search (t.graph est) (t.bound est goal) start goal
  | .bidirectionalDijkstra => Search.TwoSided.search (t.graph est) start goal

/-- A network prepared for requests. -/
structure Router (K W : Type) where
  network : Network K
  /-- How the index of the road points finds the one nearest to a place. -/
  find : Lookup K
  /-- The distance that is told of a match. -/
  distance : GeoPoint K → GeoPoint K → K
  estimator : Estimator K W
  options : Options K

namespace Router

/-- Prepares a network on the globe for requests. Its index compares all road points. -/
def of (network : Network Float) (estimator : Estimator Float W) (options : Options Float) :
    Router Float W :=
  ⟨network, .scan, GeoPoint.distance, estimator, options⟩

/-- The points to which places are matched. -/
def places (r : Router K W) : List (Place K) := r.network.places

/-- The match of a place. -/
def snap (r : Router K W) (place : GeoPoint K) : Except Missing (Option (Snapped K)) :=
  r.network.snapBy r.find r.distance place

/-- The road point of an endpoint: the point itself if the network has it, or the one that a place is
    matched to. -/
def resolve (r : Router K W) : Location K → Except (RouteError K) RoadPoint
  | .roadPoint p => if r.network.hasPoint p then .ok p else .error (.invalidRoadPoint p)
  | .coordinates place => do
    match ← (r.snap place).mapError .missing with
    | some s => .ok s.point
    | none => .error (.snapFailed place)

/-- The route of a request. -/
def route [Cost W] (r : Router K W) (q : Request K) : Except (RouteError K) (Route K W) := do
  let start ← r.resolve q.start
  let finish ← r.resolve q.finish
  let t := Trip.between r.network start finish
  let found ← (t.search r.estimator t.start.node t.finish.node
    (q.algorithm.getD r.options.algorithm)).mapError .missing
  match found with
  | none => .error (.routeNotFound start finish)
  | some path =>
    let roadPoints ← (t.roadPoints r.estimator path.joints).mapError .ofLegs
    let points ← (roadPoints.mapM r.network.geometry).mapError .missing
    .ok ⟨path.joints, roadPoints, points, path.weight⟩

end Router

end RoadRouting
