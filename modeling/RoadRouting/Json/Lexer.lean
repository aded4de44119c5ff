import RoadRouting.Json.Basic

/-!
# Tokens of a JSON text

The characters of a text are taken one by one, each moving a small machine on. Words and numbers
are collected until a character ends them and are then looked at as a whole.

* `Token`: the tokens.
* `tokens?`: the tokens of a text, if it consists of tokens.
-/

namespace RoadRouting.Json

open Decimal (Numeral valueOf)

/-- A token of a JSON text. -/
inductive Token where
  | openArray
  | closeArray
  | openObject
  | closeObject
  | colon
  | comma
  | null
  | bool (value : Bool)
  | number (value : Numeral)
  | string (text : Option String)
deriving Repr, DecidableEq

/-! ## Numbers -/

/-- The value of a decimal digit. -/
def digitValue (c : Char) : Nat := c.toNat - '0'.toNat

/-- The digits at the front of a text and what follows them. -/
def digits (cs : List Char) : List Nat × List Char :=
  ((cs.takeWhile Char.isDigit).map digitValue, cs.dropWhile Char.isDigit)

/-- The exponent at the end of a number. An absent exponent is a success too. -/
def exponent? : List Char → Option (Option Int)
  | [] => some none
  | e :: rest =>
    if e == 'e' || e == 'E' then
      let (negative, rest) := match rest with
        | '-' :: rest => (true, rest)
        | '+' :: rest => (false, rest)
        | rest => (false, rest)
      match digits rest with
      | ([], _) => none
      | (ds, []) => some (some (if negative then -(valueOf ds : Int) else valueOf ds))
      | _ => none
    else none

/-- The fraction and the exponent of a number. A point needs a digit after it. -/
def fraction? : List Char → Option (List Nat × Option Int)
  | '.' :: rest =>
    match digits rest with
    | ([], _) => none
    | (ds, rest) => (exponent? rest).map fun e => (ds, e)
  | rest => (exponent? rest).map fun e => ([], e)

/-- A number: an optional minus, digits without a leading zero, then a fraction and an exponent if
    they are present. -/
def number? (cs : List Char) : Option Numeral :=
  let (negative, cs) := match cs with
    | '-' :: rest => (true, rest)
    | cs => (false, cs)
  match digits cs with
  | ([], _) => none
  | (0 :: _ :: _, _) => none
  | (ds, rest) => (fraction? rest).map fun (f, e) => ⟨negative, valueOf ds, f, e⟩

/-- A word or a number. -/
def bare? (cs : List Char) : Option Token :=
  if cs = "null".toList then some .null
  else if cs = "true".toList then some (.bool true)
  else if cs = "false".toList then some (.bool false)
  else (number? cs).map .number

/-! ## Strings -/

/-- The unit is the first half of a surrogate pair. -/
def isHighSurrogate (u : Nat) : Bool := decide (0xD800 ≤ u ∧ u < 0xDC00)

/-- The unit is the second half of a surrogate pair. -/
def isLowSurrogate (u : Nat) : Bool := decide (0xDC00 ≤ u ∧ u < 0xE000)

/-- A string up to some character. -/
structure Scanned where
  /-- The characters in reverse. -/
  chars : List Char
  /-- The first half of a surrogate pair, waiting for the second. -/
  high : Option Nat
  /-- Some half of a pair stands alone. -/
  broken : Bool

namespace Scanned

/-- Before the first character. -/
def empty : Scanned := ⟨[], none, false⟩

/-- A character as it stands or after a backslash. -/
def char (s : Scanned) (c : Char) : Scanned := ⟨c :: s.chars, none, s.broken || s.high.isSome⟩

/-- A 16-bit unit named by an escape. Two halves of a surrogate pair in a row are one
    character. -/
def unit (s : Scanned) (u : Nat) : Scanned :=
  match s.high with
  | some h =>
    if isLowSurrogate u then
      ⟨Char.ofNat (0x10000 + (h - 0xD800) * 0x400 + (u - 0xDC00)) :: s.chars, none, s.broken⟩
    else { s with broken := true }
  | none =>
    if isHighSurrogate u then { s with high := some u }
    else if isLowSurrogate u then { s with broken := true }
    else ⟨Char.ofNat u :: s.chars, none, s.broken⟩

/-- The text of the whole string. -/
def text? (s : Scanned) : Option String :=
  if s.broken || s.high.isSome then none else some (String.ofList s.chars.reverse)

end Scanned

/-- The character that a letter after a backslash stands for. -/
def escaped? : Char → Option Char
  | '"' => some '"'
  | '\\' => some '\\'
  | '/' => some '/'
  | 'b' => some '\x08'
  | 'f' => some '\x0c'
  | 'n' => some '\n'
  | 'r' => some '\r'
  | 't' => some '\t'
  | _ => none

/-- The value of a hexadecimal digit. -/
def hexValue? (c : Char) : Option Nat :=
  if c.isDigit then some (digitValue c)
  else if 'a' ≤ c ∧ c ≤ 'f' then some (c.toNat - 'a'.toNat + 10)
  else if 'A' ≤ c ∧ c ≤ 'F' then some (c.toNat - 'A'.toNat + 10)
  else none

/-! ## The machine -/

/-- What the machine is in the middle of. -/
inductive Mode where
  | between
  /-- In a word or a number, whose characters are in reverse. -/
  | bare (chars : List Char)
  | string (scanned : Scanned)
  /-- After a backslash. -/
  | escape (scanned : Scanned)
  /-- In the hexadecimal digits of an escape: `left` are to come. -/
  | hex (scanned : Scanned) (left : Nat) (value : Nat)

/-- The state of the machine: the tokens so far, in reverse, and its mode. -/
structure Lexer where
  found : List Token
  mode : Mode

namespace Lexer

/-- The blanks between tokens. -/
def isBlank (c : Char) : Bool := c == ' ' || c == '\t' || c == '\n' || c == '\r'

/-- The characters of words and numbers. -/
def isBare (c : Char) : Bool := c.isAlphanum || c == '-' || c == '+' || c == '.'

/-- The token of a single character. -/
def mark? : Char → Option Token
  | '[' => some .openArray
  | ']' => some .closeArray
  | '\x7b' => some .openObject
  | '\x7d' => some .closeObject
  | ':' => some .colon
  | ',' => some .comma
  | _ => none

/-- A character between tokens. -/
def start (found : List Token) (c : Char) : Option Lexer :=
  if isBlank c then some ⟨found, .between⟩
  else if c == '"' then some ⟨found, .string .empty⟩
  else if isBare c then some ⟨found, .bare [c]⟩
  else (mark? c).map fun t => ⟨t :: found, .between⟩

/-- The next character. Control characters must be escaped in a string. -/
def step (l : Lexer) (c : Char) : Option Lexer :=
  match l.mode with
  | .between => start l.found c
  | .bare cs =>
    if isBare c then some ⟨l.found, .bare (c :: cs)⟩
    else do
      let t ← bare? cs.reverse
      start (t :: l.found) c
  | .string s =>
    if c == '"' then some ⟨.string s.text? :: l.found, .between⟩
    else if c == '\\' then some ⟨l.found, .escape s⟩
    else if c.toNat < 0x20 then none
    else some ⟨l.found, .string (s.char c)⟩
  | .escape s =>
    if c == 'u' then some ⟨l.found, .hex s 3 0⟩
    else (escaped? c).map fun c => ⟨l.found, .string (s.char c)⟩
  | .hex s left value => do
    let d ← hexValue? c
    match left with
    | 0 => some ⟨l.found, .string (s.unit (16 * value + d))⟩
    | left + 1 => some ⟨l.found, .hex s left (16 * value + d)⟩

/-- The tokens at the end of the text, which must not be inside of a string. -/
def finish (l : Lexer) : Option (List Token) :=
  match l.mode with
  | .between => some l.found.reverse
  | .bare cs => (bare? cs.reverse).map fun t => (t :: l.found).reverse
  | _ => none

end Lexer

/-- The tokens of a text. -/
def tokens? (text : String) : Option (List Token) := do
  let l ← text.toList.foldlM Lexer.step ⟨[], .between⟩
  l.finish

end RoadRouting.Json
