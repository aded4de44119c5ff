import RoadRouting.Decimal.Layout
import RoadRouting.Json.Basic

/-!
# Numbers in JSON

A number is read as binary64 in two roundings: its leading digits, as many as fit into 64 bits,
make an integer, and the integer is multiplied or divided by a power of ten. A number that leaves
the range of binary64 is not read. A number is written with its shortest digits, and what is not
finite is written as null.

* `significand`: the integer and the power of ten.
* `readNumber?`, `writeNumber`: the two directions.
* `NumberFormat`: both, as needed to read and write what holds numbers.
-/

namespace RoadRouting.Json

open Decimal (Numeral)

/-- The bound of the integers that a significand may be: those of 64 bits. -/
def significandLimit : Nat := 18446744073709551616

/-- The leading digits of an integer that stay below the limit, and the number of those left
    out. -/
def leadingDigits (n : Nat) : Nat × Nat :=
  if n < significandLimit then (n, 0)
  else
    let (kept, dropped) := leadingDigits (n / 10)
    (kept, dropped + 1)
termination_by n
decreasing_by simp only [significandLimit] at *; omega

/-- Appends digits to an integer as long as it stays below the limit, and lowers the power of ten
    with each of them. -/
def appendDigits (n : Nat) (power : Int) : List Nat → Nat × Int
  | [] => (n, power)
  | d :: rest =>
    if 10 * n + d < significandLimit then appendDigits (10 * n + d) (power - 1) rest
    else (n, power)

/-- The leading digits of a numeral without its exponent, and their power of ten. -/
def significand (n : Numeral) : Nat × Int :=
  let (kept, dropped) := leadingDigits n.whole
  appendDigits kept dropped n.fraction

/-- The power of ten, for exponents that binary64 reaches. -/
def powerOfTen (n : Nat) : Float := Float.ofScientific 1 false n

/-- The greatest power of ten in the range of binary64. -/
def greatestPower : Nat := 308

/-- A number divided by a power of ten, in steps of the greatest one. -/
def divideByPower (x : Float) (power : Nat) : Float :=
  if power ≤ greatestPower then x / powerOfTen power
  else if x == 0.0 then x
  else divideByPower (x / powerOfTen greatestPower) (power - greatestPower)
termination_by power
decreasing_by simp only [greatestPower] at *; omega

/-- A number times a power of ten, unless it leaves the range. -/
def multiplyByPower? (x : Float) (power : Nat) : Option Float :=
  if power ≤ greatestPower then
    let y := x * powerOfTen power
    if y.isInf then none else some y
  else if x == 0.0 then some x
  else none

/-- The binary64 number that a numeral is read as. -/
def readNumber? (n : Numeral) : Option Float :=
  let (digits, power) := significand n
  let power := power + n.exponent.getD 0
  let x := Float.ofNat digits
  let magnitude :=
    if 0 ≤ power then multiplyByPower? x power.toNat
    else some (divideByPower x power.natAbs)
  magnitude.map fun y => if n.negative then -y else y

/-- A binary64 number with its shortest digits. -/
def writeNumber (x : Float) : Json :=
  match Decimal.magnitude x with
  | .finite value => number (Decimal.jsonNumber.numeral (Decimal.isNegative x) value)
  | _ => null

/-- How the numbers of a type are read and written. -/
structure NumberFormat (K : Type) where
  read? : Numeral → Option K
  write : K → Json
  /-- Natural numbers, for default values. -/
  ofNat : Nat → K

/-- Binary64 numbers. -/
def NumberFormat.binary64 : NumberFormat Float := ⟨readNumber?, writeNumber, Float.ofNat⟩

/-- A number read in a format. -/
def NumberFormat.ofJson? {K : Type} (f : NumberFormat K) : Json → Option K
  | number n => f.read? n
  | _ => none

end RoadRouting.Json
