import RoadRouting.Estimator
import RoadRouting.Road

/-!
# Requests

What is asked of a router: two endpoints, each a road point or a place, and the search to use.
-/

namespace RoadRouting

/-- The searches to choose from. -/
inductive Algorithm where
  | dijkstra
  | aStar
  | bidirectionalDijkstra
deriving Repr, DecidableEq

namespace Algorithm

/-- The search used when none is asked for. -/
def default : Algorithm := dijkstra

/-- The name of a search. -/
def name : Algorithm → String
  | dijkstra => "dijkstra"
  | aStar => "a_star"
  | bidirectionalDijkstra => "bidirectional_dijkstra"

/-- All searches. -/
def all : List Algorithm := [dijkstra, aStar, bidirectionalDijkstra]

/-- The search of a name. -/
def named? (name : String) : Option Algorithm := all.find? (·.name == name)

theorem named?_name (a : Algorithm) : named? a.name = some a := by
  cases a <;> decide

end Algorithm

/-- Where a route starts or ends. -/
inductive Location (K : Type) where
  | roadPoint (point : RoadPoint)
  /-- A place, to be matched to the nearest road point. -/
  | coordinates (place : GeoPoint K)
deriving Repr, DecidableEq

/-- A route to be found. Without a search of its own it uses that of the router. -/
structure Request (K : Type) where
  start : Location K
  finish : Location K
  algorithm : Option Algorithm
deriving Repr, DecidableEq

/-- The request for a route between two road points. -/
def Request.betweenPoints {K : Type} (p q : RoadPoint) : Request K :=
  ⟨.roadPoint p, .roadPoint q, none⟩

/-- The request with a search of its own. -/
def Request.using {K : Type} (r : Request K) (a : Algorithm) : Request K :=
  { r with algorithm := some a }

/-- The settings of a router. -/
structure Options (K : Type) where
  /-- The search of requests that name none. -/
  algorithm : Algorithm
  /-- The speed cap in km/h. -/
  maxSpeed : K
deriving Repr, DecidableEq

/-- The settings used where none are given. -/
def Options.default {K : Type} (ofNat : Nat → K) : Options K := ⟨.default, ofNat defaultMaxSpeed⟩

end RoadRouting
