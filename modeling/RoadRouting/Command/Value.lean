import RoadRouting.Decimal.Numeral
import RoadRouting.Request
import RoadRouting.Text.Blank
import RoadRouting.Text.Quoted

/-!
# Values on the command line

An endpoint is given as `road:offset` or as `lat,lng`. A text with a colon is always a road point,
never a place.

* `readEndpoint`, `readCoordinates`, `readAlgorithm`: the values of arguments.
* `readNat?`, `readFloat?`: the numbers in them.
* `ValueError.message`: what is said about a text that is no such value.
-/

namespace RoadRouting.Command

open Decimal (Numeral valueOf)

/-- Why a text is not the value asked for. Each names the whole text. -/
inductive ValueError where
  | featureId (input : String)
  | pointId (input : String)
  | endpoint (input : String)
  | latitude (input : String)
  | longitude (input : String)
  | outOfRange (input : String)
  | algorithm (input : String)
deriving Repr, DecidableEq

/-- The text of a value error. -/
def ValueError.message : ValueError → String
  | featureId s => "Invalid feature id in " ++ Text.quoted s
  | pointId s => "Invalid point id in " ++ Text.quoted s
  | endpoint s => "Invalid endpoint " ++ Text.quoted s ++ ", expected feature:point or lat,lng"
  | latitude s => "Invalid latitude in " ++ Text.quoted s
  | longitude s => "Invalid longitude in " ++ Text.quoted s
  | outOfRange s => "Coordinates out of range: " ++ Text.quoted s
  | algorithm s => "Unknown algorithm " ++ Text.quoted s

/-! ## Numbers -/

/-- The values of decimal digits. Any other character spoils them. -/
def digits? (cs : List Char) : Option (List Nat) :=
  cs.mapM fun c => if c.isDigit then some (c.toNat - '0'.toNat) else none

/-- A natural number below `limit`: digits, with or without a plus before them. -/
def readNat? (limit : Nat) (cs : List Char) : Option Nat := do
  let cs := match cs with
    | '+' :: rest => rest
    | cs => cs
  if cs.isEmpty then none
  else
    let ds ← digits? cs
    if valueOf ds < limit then some (valueOf ds) else none

/-- The exponent at the end of a number: nothing, or the letter, an optional sign and digits. -/
def readExponent? : List Char → Option (Option Int)
  | [] => some none
  | e :: rest => do
    if e ≠ 'e' ∧ e ≠ 'E' then none
    else
      let (negative, rest) := match rest with
        | '-' :: rest => (true, rest)
        | '+' :: rest => (false, rest)
        | rest => (false, rest)
      let ds ← digits? rest
      if ds.isEmpty then none
      else some (some (if negative then -(valueOf ds : Int) else valueOf ds))

/-- An unsigned decimal number: digits with a point before, between or after them, and an
    exponent. -/
def readDecimal? (negative : Bool) (cs : List Char) : Option Numeral := do
  let whole := cs.takeWhile Char.isDigit
  let rest := cs.dropWhile Char.isDigit
  let (fraction, rest) := match rest with
    | '.' :: rest => (rest.takeWhile Char.isDigit, rest.dropWhile Char.isDigit)
    | rest => ([], rest)
  if whole.isEmpty && fraction.isEmpty then none
  else
    let whole ← digits? whole
    let fraction ← digits? fraction
    let exponent ← readExponent? rest
    some ⟨negative, valueOf whole, fraction, exponent⟩

/-- A binary64 number: an optional sign, then a decimal number, rounded once, or the name of an
    infinity or of what is not a number. -/
def readFloat? (cs : List Char) : Option Float :=
  let (negative, cs) := match cs with
    | '-' :: rest => (true, rest)
    | '+' :: rest => (false, rest)
    | cs => (false, cs)
  let name := String.ofList (cs.map Char.toLower)
  if name = "inf" ∨ name = "infinity" then some (if negative then -1.0 / 0.0 else 1.0 / 0.0)
  else if name = "nan" then some (0.0 / 0.0)
  else (readDecimal? negative cs).map Numeral.nearest

/-! ## Values -/

/-- A place given as `lat,lng`, with blanks around either number. -/
def readCoordinates (input : String) : Except ValueError (GeoPoint Float) :=
  match Text.splitAt? ',' input.toList with
  | none => .error (.endpoint input)
  | some (lat, lng) =>
    match readFloat? (Text.trim lat), readFloat? (Text.trim lng) with
    | none, _ => .error (.latitude input)
    | some _, none => .error (.longitude input)
    | some lat, some lng =>
      if -90.0 ≤ lat ∧ lat ≤ 90.0 ∧ -180.0 ≤ lng ∧ lng ≤ 180.0 then .ok ⟨lat, lng⟩
      else .error (.outOfRange input)

/-- A road point given by the texts before and after a colon. -/
def readRoadPoint (input : String) (road offset : List Char) : Except ValueError RoadPoint :=
  match readNat? idLimit (Text.trim road), readNat? idLimit (Text.trim offset) with
  | none, _ => .error (.featureId input)
  | some _, none => .error (.pointId input)
  | some road, some offset => .ok ⟨road, offset⟩

/-- An endpoint: a road point if there is a colon, else a place. -/
def readEndpoint (input : String) : Except ValueError (Location Float) :=
  match Text.splitAt? ':' input.toList with
  | some (road, offset) => (readRoadPoint input road offset).map .roadPoint
  | none => (readCoordinates input).map .coordinates

/-- A search by its name or a short form of it, in any case and with hyphens or underscores. -/
def readAlgorithm (input : String) : Except ValueError Algorithm :=
  let name := String.ofList (input.toList.map fun c =>
    if c = '-' then '_' else c.toLower)
  if name = "astar" then .ok .aStar
  else if name = "bidir" then .ok .bidirectionalDijkstra
  else match Algorithm.named? name with
    | some a => .ok a
    | none => .error (.algorithm input)

end RoadRouting.Command
