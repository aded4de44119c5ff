import RoadRouting.Decimal.Numeral

/-!
# JSON values

A JSON value as it is written: numbers keep their digits, and objects keep their fields in order,
repeated ones included. What a repeated field or a number out of range means is decided by whoever
reads the value as something else.

* `Json.record?`: a value read as a record with named fields.
-/

namespace RoadRouting

open Decimal (Numeral)

/-- A JSON value. A string whose escapes name half of a surrogate pair has no text: it is a value,
    but not one of any characters. -/
inductive Json where
  | null
  | bool (value : Bool)
  | number (value : Numeral)
  | string (text : Option String)
  | array (items : List Json)
  | object (fields : List (Option String × Json))
deriving Repr

namespace Json

/-- A string with a text. -/
def ofText (text : String) : Json := string (some text)

/-- A natural number. -/
def ofNat (n : Nat) : Json := number (.ofNat n)

/-- An object with the given fields. -/
def ofFields (fields : List (String × Json)) : Json :=
  object (fields.map fun (name, value) => (some name, value))

/-- The truth value. -/
def bool? : Json → Option Bool
  | bool b => some b
  | _ => none

/-- The text of a string. -/
def text? : Json → Option String
  | string s => s
  | _ => none

/-- A natural number below `limit`, written without sign, point or exponent. -/
def natBelow? (limit : Nat) : Json → Option Nat
  | number n =>
    if n.isInteger && !n.negative && decide (n.whole < limit) then some n.whole else none
  | _ => none

/-- The items of an array, each read by `read`. -/
def listOf? {α : Type} (read : Json → Option α) : Json → Option (List α)
  | array items => items.mapM read
  | _ => none

/-- The number of fields of a name. -/
def occurrences (name : String) (fields : List (Option String × Json)) : Nat :=
  fields.countP (·.1 == some name)

/-- The first field of a name. -/
def field? (name : String) (fields : List (Option String × Json)) : Option Json :=
  (fields.find? (·.1 == some name)).map (·.2)

/-- The values of the named fields of a record, each absent if it is missing. A record is written
    as an object, whose other fields are ignored and in which no named field is repeated, or as the
    array of its fields in order, which may leave out the last ones. -/
def record? (names : List String) : Json → Option (List (Option Json))
  | object fields =>
    if fields.all (·.1.isSome) && names.all (occurrences · fields ≤ 1) then
      some (names.map (field? · fields))
    else none
  | array items =>
    if items.length ≤ names.length then
      some (items.map some ++ List.replicate (names.length - items.length) none)
    else none
  | _ => none

@[simp] theorem natBelow?_ofNat {limit n : Nat} (h : n < limit) :
    natBelow? limit (ofNat n) = some n := by
  simp [natBelow?, ofNat, Numeral.ofNat, Numeral.isInteger, h]

@[simp] theorem text?_ofText (s : String) : text? (ofText s) = some s := rfl

end Json

end RoadRouting
