import RoadRouting.Decimal.Binary

/-!
# The shortest digits of a binary64 number

The numbers that round to a binary64 number form an interval around it. Among the decimal numbers
in that interval, the shortest are those with the fewest significant digits, and of these the one
nearest to the binary64 number is chosen.

* `Interval.around`: the interval of a magnitude.
* `shortest`: the digits chosen.
-/

namespace RoadRouting.Decimal

/-- The number `digits * 10 ^ power`. -/
structure Digits where
  digits : Nat
  power : Int
deriving Repr, DecidableEq

/-- Drops zeros at the end of the digits. -/
def Digits.trim (d : Digits) : Digits :=
  if d.digits ≠ 0 ∧ d.digits % 10 = 0 then trim ⟨d.digits / 10, d.power + 1⟩ else d
termination_by d.digits
decreasing_by omega

/-- The numbers between two ratios, with or without the ends. -/
structure Interval where
  low : Ratio
  high : Ratio
  closed : Bool

/-- The number lies in the interval. -/
def Interval.holds (i : Interval) (r : Ratio) : Bool :=
  if i.closed then i.low.le r && r.le i.high
  else !(r.le i.low) && !(i.high.le r)

/-- The numbers that round to a positive magnitude: up to half way to either neighbour. The
    neighbour below the first magnitude of a binade is nearer. The ends round to an even
    mantissa. -/
def Interval.around (d : Dyadic) : Interval where
  low :=
    if d.mantissa = pow2 storedBits ∧ leastExponent < d.exponent then
      Dyadic.toRatio ⟨4 * d.mantissa - 1, d.exponent - 2⟩
    else Dyadic.toRatio ⟨2 * d.mantissa - 1, d.exponent - 1⟩
  high := Dyadic.toRatio ⟨2 * d.mantissa + 1, d.exponent - 1⟩
  closed := d.mantissa % 2 == 0

/-- Which of two equally near decimal numbers is chosen. -/
inductive Tie where
  | up
  | toEven
deriving Repr, DecidableEq

/-- The decimal number on the grid of multiples of `10 ^ power` that lies in the interval and is
    nearest to `x`, if one of the two neighbours of `x` on the grid lies in it. -/
def onGrid (tie : Tie) (i : Interval) (x : Ratio) (power : Int) : Option Digits :=
  let scaled := x.scale (-power)
  let q := scaled.floor
  let twice := 2 * (scaled.num % scaled.den)
  let below := i.holds (Ratio.scale ⟨q, 1⟩ power)
  let above := i.holds (Ratio.scale ⟨q + 1, 1⟩ power)
  let preferAbove :=
    decide (scaled.den < twice) ||
      (decide (scaled.den = twice) && (tie == .up || q % 2 == 1))
  if below && !(above && preferAbove) then some ⟨q, power⟩
  else if above then some ⟨q + 1, power⟩
  else none

/-- The fewest digits that are read back as the magnitude, nearest to it. Seventeen digits are
    always enough. -/
def shortest (tie : Tie) (d : Dyadic) : Digits :=
  if d.mantissa = 0 then ⟨0, 0⟩
  else
    let x := d.toRatio
    let i := Interval.around d
    let lead := x.leadingPower
    let found := (List.range 17).findSome? fun n : Nat => onGrid tie i x (lead - n)
    (found.getD ⟨(x.scale (16 - lead)).roundToEven, lead - 16⟩).trim

end RoadRouting.Decimal
