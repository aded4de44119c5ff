/-!
# Binary64 numbers as integers and powers of two

A finite binary64 number is a sign and a magnitude `mantissa * 2 ^ exponent`. Its decimal forms
are computed from these integers, exactly.
-/

namespace RoadRouting.Decimal

/-- The powers of two. -/
def pow2 (n : Nat) : Nat := Nat.pow 2 n

/-- The powers of ten. -/
def pow10 (n : Nat) : Nat := Nat.pow 10 n

theorem pow10_succ (n : Nat) : pow10 (n + 1) = 10 * pow10 n := Nat.mul_comm _ _

/-- The magnitude `mantissa * 2 ^ exponent`. -/
structure Dyadic where
  mantissa : Nat
  exponent : Int
deriving Repr, DecidableEq

/-- What a binary64 number is apart from its sign. -/
inductive Magnitude where
  | finite (value : Dyadic)
  | infinite
  | notANumber
deriving Repr, DecidableEq

/-- The bits of the significand that are stored. -/
def storedBits : Nat := 52

/-- The bits of the exponent. -/
def fieldBits : Nat := 11

/-- The exponent of the smallest positive number. -/
def leastExponent : Int := -1074

/-- The sign bit. -/
def isNegative (x : Float) : Bool := x.toBits.toNat / pow2 (storedBits + fieldBits) == 1

/-- The magnitude. Numbers below the normal range have no hidden leading bit. -/
def magnitude (x : Float) : Magnitude :=
  let bits := x.toBits.toNat
  let fraction : Nat := bits % pow2 storedBits
  let field : Nat := bits / pow2 storedBits % pow2 fieldBits
  if field = pow2 fieldBits - 1 then
    if fraction = 0 then .infinite else .notANumber
  else if field = 0 then .finite ⟨fraction, leastExponent⟩
  else .finite ⟨pow2 storedBits + fraction, leastExponent + ((field : Int) - 1)⟩

/-- The number of decimal digits. -/
def digitCount (n : Nat) : Nat := (Nat.toDigits 10 n).length

/-- A ratio of natural numbers. -/
structure Ratio where
  num : Nat
  den : Nat
deriving Repr, DecidableEq

namespace Ratio

/-- The ratio times a power of ten, which may be negative. -/
def scale (r : Ratio) (power : Int) : Ratio :=
  if 0 ≤ power then ⟨r.num * pow10 power.toNat, r.den⟩ else ⟨r.num, r.den * pow10 (-power).toNat⟩

/-- The largest integer that is not above the ratio. -/
def floor (r : Ratio) : Nat := r.num / r.den

/-- `r.le s` says that `r ≤ s`. -/
def le (r s : Ratio) : Bool := decide (r.num * s.den ≤ s.num * r.den)

/-- The integer nearest to the ratio, an even one if two are equally near. -/
def roundToEven (r : Ratio) : Nat :=
  let q := r.num / r.den
  let twice := 2 * (r.num % r.den)
  if twice < r.den then q
  else if r.den < twice then q + 1
  else if q % 2 = 0 then q
  else q + 1

/-- The exponent of the first decimal digit: the largest `e` with `10 ^ e ≤ r`. It is the
    difference of the numbers of digits, or one less. -/
def leadingPower (r : Ratio) : Int :=
  let e := (digitCount r.num : Int) - digitCount r.den
  if 0 < (r.scale (-e)).floor then e else e - 1

end Ratio

/-- A magnitude as a ratio. -/
def Dyadic.toRatio (d : Dyadic) : Ratio :=
  if 0 ≤ d.exponent then ⟨d.mantissa * pow2 d.exponent.toNat, 1⟩
  else ⟨d.mantissa, pow2 (-d.exponent).toNat⟩

end RoadRouting.Decimal
