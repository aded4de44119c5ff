import RoadRouting.Cost
import RoadRouting.Geo.GreatCircle
import RoadRouting.Road

/-!
# Estimators of travel costs

An estimator gives the cost of driving between two offsets of a road, and a lower bound of the
cost between two places. Whether a road may be driven in a direction is not its concern.

* `SpeedCap`: the greatest speed, if it is known.
* `Car`: seconds at the speed of the road, but never faster than the cap.
* `Car.estimator`: the estimator of a car over any metric and any numbers.
* `carEstimator`: the one over the globe.
-/

namespace RoadRouting

/-- How travel costs are estimated. -/
structure Estimator (K : Type) (W : Type) where
  /-- The cost of driving along the road between two offsets, in either direction. -/
  weight : Road K → (a b : Nat) → Except Missing W
  /-- A lower bound of the cost between two places. -/
  bound : GeoPoint K → GeoPoint K → W

/-- The default speed cap of a car in km/h. -/
def defaultMaxSpeed : Nat := 130

/-- The greatest speed of a car. -/
inductive SpeedCap (K : Type) where
  /-- No faster than so many km/h. -/
  | upTo (speed : K)
  /-- Nothing is known of it. -/
  | unknown
deriving Repr, DecidableEq

/-- The cap in km/h. -/
def SpeedCap.kmh? {K : Type} : SpeedCap K → Option K
  | upTo speed => some speed
  | unknown => none

namespace Car

variable {K : Type}

section Length

variable [Zero K] [Add K]

/-- The length of a polyline, its segments added up from the first on. -/
def polyline (distance : GeoPoint K → GeoPoint K → K) : (sum : K) → List (GeoPoint K) → K
  | sum, p :: q :: rest => polyline distance (sum + distance p q) (q :: rest)
  | sum, _ => sum

/-- The length of a road between the offsets `a` and `b`, where `a ≤ b`. -/
def length (distance : GeoPoint K → GeoPoint K → K) (road : Road K) (a b : Nat) :
    Except Missing K :=
  if a < b ∧ road.points.size ≤ b then .error (.offset b)
  else .ok (polyline distance 0 (road.points.extract a (b + 1)).toList)

end Length

variable [LE K] [DecidableLE K]

/-- The lesser of two numbers. If one of the values is no number, it is the other one. -/
def lesser (x y : K) : K :=
  if x ≤ y then x
  else if y ≤ x then y
  else if x ≤ x then x
  else y

/-- The speed driven on a road: its own, or the cap if that is less. -/
def speed (cap : SpeedCap K) (road : Road K) : K :=
  match cap with
  | .upTo v => lesser road.speed v
  | .unknown => road.speed

variable [Zero K] [Add K] [Mul K] [Div K]

/-- Seconds between the offsets `a` and `b`, absent when the road cannot be driven. The factor
    `unit` turns km/h into metres per second. -/
def seconds? (distance : GeoPoint K → GeoPoint K → K) (unit : K) (cap : SpeedCap K)
    (road : Road K) (a b : Nat) : Except Missing (Option K) :=
  let pace := speed cap road * unit
  if pace ≤ 0 then .ok none
  else do
    let metres ← length distance road (min a b) (max a b)
    .ok (some (metres / pace))

/-- The estimator of a car. A road that cannot be driven costs infinity, and no place is reached
    faster than straight at the speed of the cap. When nothing is known of the cap, the bound tells
    no two places apart: it is infinite, or not a number where the distance is not. -/
def estimator {W : Type} [Cost W] (distance : GeoPoint K → GeoPoint K → K) (unit : K)
    (cost : K → W) (cap : SpeedCap K) : Estimator K W where
  weight road a b := do
    match ← seconds? distance unit cap road a b with
    | some s => .ok (cost s)
    | none => .ok Cost.infinity
  bound p q :=
    match cap with
    | .upTo v => cost (distance p q / (v * unit))
    | .unknown => cost (distance p q) + Cost.infinity

end Car

/-- One km/h in metres per second. -/
def metresPerSecond : Float := 1000.0 / 3600.0

/-- The car on the globe with the given speed cap in km/h. -/
def carEstimator (cap : SpeedCap Float) : Estimator Float Float :=
  Car.estimator GeoPoint.distance metresPerSecond id cap

end RoadRouting
