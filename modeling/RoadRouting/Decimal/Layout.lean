import RoadRouting.Decimal.Numeral
import RoadRouting.Decimal.Shortest
import RoadRouting.Geo.Point

/-!
# Texts of binary64 numbers

Every text shows the shortest digits of a number. A `Layout` decides the rest: which numbers are
written with an exponent and whether a whole number shows a digit after the point.

* `Layout.numeral`: the digits arranged by a layout.
* `described`, `plain`, `jsonNumber`: the three layouts in use.
* `fixedText`: a text with a given number of places instead.
-/

namespace RoadRouting.Decimal

/-- How digits are written. -/
structure Layout where
  /-- The least exponent of the first digit that is written without an exponent. -/
  least : Option Int
  /-- The least exponent above that range. -/
  beyond : Option Int
  /-- Whole numbers end in a point and a zero. -/
  markWhole : Bool
  /-- A positive exponent has a plus. -/
  plus : Bool
  tie : Tie

/-- The layout of numbers in descriptions: `1.0`, `0.0001`, `1e16`, `1e-5`. -/
def described : Layout := ⟨some (-4), some 16, true, false, .up⟩

/-- The layout without exponents: `1`, `0.00001`. -/
def plain : Layout := ⟨none, none, false, false, .up⟩

/-- The layout of numbers in JSON: `1.0`, `0.00001`, `1e+16`, `1e-6`. -/
def jsonNumber : Layout := ⟨some (-5), some 16, true, true, .toEven⟩

namespace Layout

/-- Digits written without an exponent. -/
def positional (l : Layout) (negative : Bool) (d : Digits) : Numeral :=
  if 0 ≤ d.power then
    ⟨negative, d.digits * pow10 d.power.toNat, if l.markWhole then [0] else [], none⟩
  else
    let places := (-d.power).toNat
    ⟨negative, d.digits / pow10 places, digitsOf places (d.digits % pow10 places), none⟩

/-- Digits written with an exponent: one digit before the point and the others after it. -/
def exponential (negative : Bool) (d : Digits) : Numeral :=
  let places := digitCount d.digits - 1
  ⟨negative, d.digits / pow10 places, digitsOf places (d.digits % pow10 places),
    some (d.power + places)⟩

/-- The exponent of the first digit is in the range that is written without one. -/
def isPositional (l : Layout) (lead : Int) : Bool :=
  l.least.all (· ≤ lead) && l.beyond.all (lead < ·)

/-- The numeral of a finite number. Zero has no exponent. -/
def numeral (l : Layout) (negative : Bool) (value : Dyadic) : Numeral :=
  let d := shortest l.tie value
  if d.digits = 0 ∨ l.isPositional (d.power + digitCount d.digits - 1) then
    l.positional negative d
  else exponential negative d

/-- The text of a number. -/
def text (l : Layout) (x : Float) : String :=
  match magnitude x with
  | .finite value => (l.numeral (isNegative x) value).text l.plus
  | .infinite => if isNegative x then "-inf" else "inf"
  | .notANumber => "NaN"

end Layout

/-- The text of a number with a given number of places. -/
def fixedText (places : Nat) (x : Float) : String :=
  match magnitude x with
  | .finite value => (fixed (isNegative x) places value).text false
  | .infinite => if isNegative x then "-inf" else "inf"
  | .notANumber => "NaN"

end RoadRouting.Decimal

namespace RoadRouting

/-- The description of a place in messages. -/
def GeoPoint.description (p : GeoPoint Float) : String :=
  "GeoPoint \x7b lat: " ++ Decimal.described.text p.lat ++
    ", lng: " ++ Decimal.described.text p.lng ++ " \x7d"

end RoadRouting
