import RoadRouting.Json.Basic

/-!
# Writing JSON texts

* `Json.compact`: a text without blanks.
* `Json.pretty`: a text with one part a line, indented by two blanks for each level.
-/

namespace RoadRouting.Json

/-- A hexadecimal digit. -/
def hexDigit (n : Nat) : Char := Nat.digitChar n

/-- A character inside of a string. -/
def escapeChar (c : Char) : List Char :=
  if c = '"' then ['\\', '"']
  else if c = '\\' then ['\\', '\\']
  else if c = '\n' then ['\\', 'n']
  else if c = '\r' then ['\\', 'r']
  else if c = '\t' then ['\\', 't']
  else if c = '\x08' then ['\\', 'b']
  else if c = '\x0c' then ['\\', 'f']
  else if c.toNat < 0x20 then
    ['\\', 'u', '0', '0', hexDigit (c.toNat / 16), hexDigit (c.toNat % 16)]
  else [c]

/-- A string in quotes. -/
def quoted (s : String) : String :=
  "\"" ++ String.ofList (s.toList.flatMap escapeChar) ++ "\""

/-- A value that is neither array nor object. -/
def scalarText : Json → String
  | bool b => if b then "true" else "false"
  | number n => n.text true
  | string (some s) => quoted s
  | string none => quoted ""
  | _ => "null"

mutual

/-- The text of a value without blanks. -/
def compact : Json → String
  | array items => "[" ++ String.intercalate "," (compactItems items) ++ "]"
  | object fields => "\x7b" ++ String.intercalate "," (compactFields fields) ++ "\x7d"
  | scalar => scalarText scalar

/-- The texts of the items of an array. -/
def compactItems : List Json → List String
  | [] => []
  | v :: rest => compact v :: compactItems rest

/-- The texts of the fields of an object. -/
def compactFields : List (Option String × Json) → List String
  | [] => []
  | (name, v) :: rest => (quoted (name.getD "") ++ ":" ++ compact v) :: compactFields rest

end

/-- Parts in brackets, one a line. Without parts the brackets stay together. -/
def block (left right : String) (level : Nat) (parts : List String) : String :=
  if parts.isEmpty then left ++ right
  else
    let indent (n : Nat) := "\n" ++ String.ofList (List.replicate (2 * n) ' ')
    left ++ indent (level + 1) ++ String.intercalate ("," ++ indent (level + 1)) parts ++
      indent level ++ right

mutual

/-- The text of a value at a level of indentation. -/
def prettyAt (level : Nat) : Json → String
  | array items => block "[" "]" level (prettyItems (level + 1) items)
  | object fields => block "\x7b" "\x7d" level (prettyFields (level + 1) fields)
  | scalar => scalarText scalar

/-- The texts of the items of an array. -/
def prettyItems (level : Nat) : List Json → List String
  | [] => []
  | v :: rest => prettyAt level v :: prettyItems level rest

/-- The texts of the fields of an object. -/
def prettyFields (level : Nat) : List (Option String × Json) → List String
  | [] => []
  | (name, v) :: rest =>
    (quoted (name.getD "") ++ ": " ++ prettyAt level v) :: prettyFields level rest

end

/-- The text of a value with one part a line. -/
def pretty (v : Json) : String := prettyAt 0 v

end RoadRouting.Json
