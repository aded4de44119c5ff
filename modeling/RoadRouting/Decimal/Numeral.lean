import RoadRouting.Decimal.Binary

/-!
# Written numbers

A `Numeral` is a decimal number as it is written: a sign, the digits before and after the point,
and an exponent. Formats produce numerals, and readers take texts apart into them.

* `Numeral.text`: the characters of a numeral.
* `Numeral.nearest`: the binary64 number nearest to its value.
* `fixed`, `scientific`: numerals with a given number of digits, rounded once from the exact value.
-/

namespace RoadRouting.Decimal

/-- A decimal number as it is written. -/
structure Numeral where
  negative : Bool
  /-- The value of the digits before the point. -/
  whole : Nat
  /-- The digits after the point. -/
  fraction : List Nat
  exponent : Option Int
deriving Repr, DecidableEq

/-- The last `count` decimal digits of a number, leading zeros included. -/
def digitsOf : (count : Nat) → (n : Nat) → List Nat
  | 0, _ => []
  | count + 1, n => digitsOf count (n / 10) ++ [n % 10]

/-- The value of decimal digits. -/
def valueOf (digits : List Nat) : Nat := digits.foldl (fun n d => 10 * n + d) 0

@[simp] theorem length_digitsOf (count n : Nat) : (digitsOf count n).length = count := by
  induction count generalizing n with
  | zero => rfl
  | succ count ih => simp [digitsOf, ih]

theorem valueOf_append_singleton (digits : List Nat) (d : Nat) :
    valueOf (digits ++ [d]) = 10 * valueOf digits + d := by
  simp [valueOf, List.foldl_append]

/-- Digits written to a fixed count are read back modulo a power of ten. -/
theorem valueOf_digitsOf (count n : Nat) : valueOf (digitsOf count n) = n % pow10 count := by
  induction count generalizing n with
  | zero => simp [digitsOf, valueOf, pow10, Nat.mod_one]
  | succ count ih =>
    rw [digitsOf, valueOf_append_singleton, ih, pow10_succ, Nat.mod_mul]
    omega

namespace Numeral

/-- The natural number `n`. -/
def ofNat (n : Nat) : Numeral := ⟨false, n, [], none⟩

/-- The numeral has neither point nor exponent. -/
def isInteger (n : Numeral) : Bool := n.fraction.isEmpty && n.exponent.isNone

/-- The sign and digits of an exponent. Some formats put a plus before positive ones. -/
def exponentText (plus : Bool) (e : Int) : String :=
  (if e < 0 then "-" else if plus then "+" else "") ++ toString e.natAbs

/-- The characters of a numeral. -/
def text (plus : Bool) (n : Numeral) : String :=
  (if n.negative then "-" else "") ++ toString n.whole ++
    (if n.fraction.isEmpty then "" else "." ++ String.join (n.fraction.map toString)) ++
    (match n.exponent with
      | some e => "e" ++ exponentText plus e
      | none => "")

/-- The binary64 number nearest to the value of the numeral, an infinity beyond the range. Far
    outside of the range of binary64, the powers of ten are not computed. -/
def nearest (n : Numeral) : Float :=
  let digits := n.whole * pow10 n.fraction.length + valueOf n.fraction
  let power := n.exponent.getD 0 - n.fraction.length
  let size : Int := digitCount digits + power
  let x : Float :=
    if digits = 0 ∨ size < -330 then 0.0
    else if 330 < size then 1.0 / 0.0
    else Float.ofScientific digits (decide (power < 0)) power.natAbs
  if n.negative then -x else x

end Numeral

/-- A magnitude with `places` digits after the point. -/
def fixed (negative : Bool) (places : Nat) (d : Dyadic) : Numeral :=
  let r := (d.toRatio.scale places).roundToEven
  ⟨negative, r / pow10 places, digitsOf places (r % pow10 places), none⟩

/-- A magnitude with one digit before the point and `places` digits after it. -/
def scientific (negative : Bool) (places : Nat) (d : Dyadic) : Numeral :=
  if d.mantissa = 0 then ⟨negative, 0, digitsOf places 0, some 0⟩
  else
    let lead := d.toRatio.leadingPower
    let r := (d.toRatio.scale (places - lead)).roundToEven
    -- rounding up may reach the next power of ten
    if r < pow10 (places + 1) then
      ⟨negative, r / pow10 places, digitsOf places (r % pow10 places), some lead⟩
    else ⟨negative, 1, digitsOf places 0, some (lead + 1)⟩

end RoadRouting.Decimal
