import RoadRouting.Decimal.Numeral

/-!
# Stopwatches

The time spent on some named work, added up over any number of laps.
-/

namespace RoadRouting

open Decimal (pow10)

/-- The time spent on some work so far. -/
structure Stopwatch where
  name : String
  nanoseconds : Nat
deriving Repr, DecidableEq

namespace Stopwatch

/-- A stopwatch that has not run. -/
def fresh (name : String) : Stopwatch := ⟨name, 0⟩

/-- Adds a lap. -/
def lap (s : Stopwatch) (nanoseconds : Nat) : Stopwatch :=
  { s with nanoseconds := s.nanoseconds + nanoseconds }

/-- A number of nanoseconds in a unit of `10 ^ places` nanoseconds, without zeros at the end. -/
def inUnit (nanoseconds places : Nat) : String :=
  let fraction := (Decimal.digitsOf places (nanoseconds % pow10 places)).reverse.dropWhile (· == 0)
  (Decimal.Numeral.mk false (nanoseconds / pow10 places) fraction.reverse none).text false

/-- A duration in the largest unit that it fills. -/
def duration (nanoseconds : Nat) : String :=
  if 1000000000 ≤ nanoseconds then inUnit nanoseconds 9 ++ "s"
  else if 1000000 ≤ nanoseconds then inUnit nanoseconds 6 ++ "ms"
  else if 1000 ≤ nanoseconds then inUnit nanoseconds 3 ++ "µs"
  else inUnit nanoseconds 0 ++ "ns"

/-- The name and the time. -/
def text (s : Stopwatch) : String := "[" ++ s.name ++ "]: " ++ duration s.nanoseconds

end Stopwatch

end RoadRouting
