import RoadRouting.Json.Lexer

/-!
# Reading JSON texts

The tokens of a text are taken one by one. The arrays and objects that are still open wait on a
stack, so that values nest to any depth.

* `Json.parse?`: the value of a text.
-/

namespace RoadRouting.Json

/-- An array or object that is still open. Its parts are in reverse. -/
inductive Frame where
  | array (items : List Json)
  | object (fields : List (Option String × Json))
  /-- An object that waits for the value of a field. -/
  | field (fields : List (Option String × Json)) (name : Option String)

/-- What may come next. -/
inductive Expected where
  | value
  /-- A value, or the end of an array that is still empty. -/
  | firstValue
  | name
  /-- A name, or the end of an object that is still empty. -/
  | firstName
  | colon
  /-- A comma or the end of what is open, after a value in it. -/
  | separator
  /-- Nothing: the value is complete. -/
  | finished (value : Json)

/-- The state of a reader. -/
structure Reader where
  opened : List Frame
  expected : Expected

namespace Reader

/-- Puts a complete value where it belongs. -/
def place (opened : List Frame) (v : Json) : Option Reader :=
  match opened with
  | [] => some ⟨[], .finished v⟩
  | .array items :: rest => some ⟨.array (v :: items) :: rest, .separator⟩
  | .field fields name :: rest => some ⟨.object ((name, v) :: fields) :: rest, .separator⟩
  | .object _ :: _ => none

/-- A token where a value is expected. -/
def value (opened : List Frame) : Token → Option Reader
  | .null => place opened .null
  | .bool b => place opened (.bool b)
  | .number n => place opened (.number n)
  | .string s => place opened (.string s)
  | .openArray => some ⟨.array [] :: opened, .firstValue⟩
  | .openObject => some ⟨.object [] :: opened, .firstName⟩
  | _ => none

/-- Closes the array or object on top of the stack. -/
def close (opened : List Frame) : Token → Option Reader
  | .closeArray =>
    match opened with
    | .array items :: rest => place rest (.array items.reverse)
    | _ => none
  | .closeObject =>
    match opened with
    | .object fields :: rest => place rest (.object fields.reverse)
    | _ => none
  | _ => none

/-- A token where the name of a field is expected. -/
def name (opened : List Frame) : Token → Option Reader
  | .string s =>
    match opened with
    | .object fields :: rest => some ⟨.field fields s :: rest, .colon⟩
    | _ => none
  | _ => none

/-- The next token. -/
def step (r : Reader) (t : Token) : Option Reader :=
  match r.expected with
  | .value => value r.opened t
  | .firstValue => if t = .closeArray then close r.opened t else value r.opened t
  | .name => name r.opened t
  | .firstName => if t = .closeObject then close r.opened t else name r.opened t
  | .colon => if t = .colon then some ⟨r.opened, .value⟩ else none
  | .separator =>
    if t = .comma then
      match r.opened with
      | .array _ :: _ => some ⟨r.opened, .value⟩
      | .object _ :: _ => some ⟨r.opened, .name⟩
      | _ => none
    else close r.opened t
  | .finished _ => none

end Reader

/-- The value that some tokens write. -/
def ofTokens? (ts : List Token) : Option Json := do
  let r ← ts.foldlM Reader.step ⟨[], .value⟩
  match r.expected with
  | .finished v => some v
  | _ => none

/-- The value of a JSON text. -/
def parse? (text : String) : Option Json := do
  let ts ← tokens? text
  ofTokens? ts

end RoadRouting.Json
