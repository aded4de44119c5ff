import RoadRouting.Text.Alphanumeric
import RoadRouting.Text.Blank
import RoadRouting.Text.Quoted

/-!
# Files of variables

A file of variables has a definition `NAME=value` on each line, with optional blanks, comments
after `#` and the word `export` in front. Values may be quoted: in single quotes every character
stands for itself, in double quotes and outside of quotes a backslash escapes, and `$NAME` or
`${NAME}` stands for the value of a variable. The name after a dollar sign alone is as long as
there are letters and digits, of any script. A quoted value may run over several lines. Reading
stops at the first line that is no definition.

* `Variables.referent?`: what a name after a dollar sign stands for. Without an equals sign in it,
  that is the value of the variable of that name (`referent?_eq_get?`).
* `definitionLines`: the lines, with those of a quoted value joined.
* `lineContent`: the definition on a line.
* `Variables.load`: the variables after reading a file, unless one of them cannot be set. One that
  is already set keeps its value.
-/

namespace RoadRouting.Command

/-- The names of variables with their values. -/
abbrev Variables := List (String × String)

namespace Variables

/-- The value of a variable. -/
def get? (vars : Variables) (name : String) : Option String := vars.lookup name

/-- What a name that is not empty refers to: of the first variable whose text `NAME=VALUE` begins
    with that name and an equals sign, all that follows them. A name that holds an equals sign
    itself thus reaches into a value: where `A` has the value `B=c`, the name `A=B` refers to
    `c`. -/
def referent? (vars : Variables) (name : List Char) : Option (List Char) :=
  if name.isEmpty then none
  else vars.findSome? fun (known, value) =>
    (name ++ ['=']).isPrefixOf? (known.toList ++ '=' :: value.toList)

/-- A name without an equals sign goes up to the first one. -/
theorem isPrefixOf?_equals {a b : List Char} (ha : '=' ∉ a) (hb : '=' ∉ b) (rest : List Char) :
    (a ++ ['=']).isPrefixOf? (b ++ '=' :: rest) = if a = b then some rest else none := by
  have step (x y : Char) (l m : List Char) :
      (x :: l).isPrefixOf? (y :: m) = if x == y then l.isPrefixOf? m else none := rfl
  induction a generalizing b with
  | nil =>
    cases b with
    | nil => rfl
    | cons y b => simp_all
  | cons x a ih =>
    simp only [List.mem_cons, not_or] at ha
    cases b with
    | nil => simp [step, Ne.symm ha.1]
    | cons y b =>
      simp only [List.mem_cons, not_or] at hb
      by_cases h : x = y <;> simp [step, h, ih ha.2 hb.2]

/-- A name without an equals sign refers to the variable of that name. -/
theorem referent?_eq_get? {vars : Variables} {name : List Char} (ne : name ≠ [])
    (plain : '=' ∉ name) (known : ∀ v ∈ vars, '=' ∉ v.1.toList) :
    vars.referent? name = (vars.get? (String.ofList name)).map String.toList := by
  simp only [referent?, List.isEmpty_iff, ne, if_false, get?]
  induction vars with
  | nil => rfl
  | cons v vars ih =>
    have rest := ih fun v hv => known v (by simp [hv])
    have first := isPrefixOf?_equals plain (known v (by simp)) v.2.toList
    rw [List.findSome?_cons, first, List.lookup_cons]
    by_cases h : name = v.1.toList
    · simp [h]
    · have : (String.ofList name == v.1) = false :=
        beq_eq_false_iff_ne.2 fun e => h (by simp [← e])
      simp [h, this, rest]

end Variables

/-! ## Lines -/

/-- The characters of a text line by line, each with the line break that ends it. -/
def splitLines (cs : List Char) : List (List Char) :=
  cs.foldr (fun c lines =>
    if c = '\n' then ['\n'] :: lines
    else match lines with
      | [] => [[c]]
      | line :: rest => (c :: line) :: rest) []

/-- Where in a definition a character stands. -/
inductive Quoting where
  | plain
  /-- After a blank outside of quotes. -/
  | blank
  | escaped
  | single
  | singleEscaped
  | double
  | doubleEscaped
deriving Repr, DecidableEq

/-- The place after a character, absent at the start of a comment. -/
def Quoting.next? (q : Quoting) (c : Char) : Option Quoting :=
  match q with
  | .plain | .blank =>
    if q = .blank ∧ c = '#' then none
    else if q = .plain ∧ Text.isBlank c = true ∧ c ≠ '\n' ∧ c ≠ '\r' then some .blank
    else if c = '\\' then some .escaped
    else if c = '"' then some .double
    else if c = '\x27' then some .single
    else some .plain
  | .escaped => some .plain
  | .single => some (if c = '\\' then .singleEscaped else if c = '\x27' then .plain else .single)
  | .singleEscaped => some .single
  | .double => some (if c = '\\' then .doubleEscaped else if c = '"' then .plain else .double)
  | .doubleEscaped => some .double

/-- What is left of a line before a comment, and the place after it, absent if there is a
    comment. -/
def uncommented (q : Quoting) : List Char → List Char × Option Quoting
  | [] => ([], some q)
  | c :: rest =>
    match q.next? c with
    | none => ([], none)
    | some q =>
      let (kept, last) := uncommented q rest
      (c :: kept, last)

/-- A line without the line break that ends it. -/
def withoutBreak (cs : List Char) : List Char :=
  match cs.reverse with
  | '\n' :: '\r' :: rest => rest.reverse
  | '\n' :: rest => rest.reverse
  | _ => cs

/-- The definitions that lines hold, where `open` is the start of a definition whose quotes are not
    closed yet. An open definition at the end is dropped. -/
def joinLines (start : List Char) (q : Quoting) : List (List Char) → List (List Char)
  | [] => []
  | line :: rest =>
    if (Text.trimStart (start ++ line)).head? = some '#' then joinLines [] .plain rest
    else
      let (kept, last) := uncommented q line
      match last with
      | none => (start ++ kept) :: joinLines [] .plain rest
      | some .plain => withoutBreak (start ++ kept) :: joinLines [] .plain rest
      | some q => joinLines (start ++ kept) q rest

/-- The lines of a file, with those of a quoted value joined. -/
def definitionLines (text : String) : List (List Char) :=
  let cs := match text.toList with
    | '\ufeff' :: rest => rest
    | cs => cs
  joinLines [] .plain (splitLines cs)

/-! ## Values -/

/-- Where in a value a character stands, apart from the quotes around it. -/
inductive Reference where
  | none
  /-- After a dollar sign. The name so far is in reverse. -/
  | name (chars : List Char)
  /-- After a dollar sign and a brace. -/
  | braced (chars : List Char)
deriving Repr, DecidableEq

/-- A value up to some character. -/
structure ValueState where
  /-- The characters of the value in reverse. -/
  output : List Char
  single : Bool
  double : Bool
  escaped : Bool
  /-- A blank has ended the value. -/
  ended : Bool
  reference : Reference

namespace ValueState

/-- Before the first character. -/
def start : ValueState := ⟨[], false, false, false, false, .none⟩

/-- Adds a character to the value. -/
def push (s : ValueState) (c : Char) : ValueState := { s with output := c :: s.output }

/-- Adds the value of a variable, whose name is in reverse. -/
def refer (vars : Variables) (s : ValueState) (name : List Char) : ValueState :=
  let value := (vars.referent? name.reverse).getD []
  { s with output := value.reverse ++ s.output, reference := .none }

/-- A character after a backslash. -/
def escape? (s : ValueState) (c : Char) : Option ValueState :=
  let s := { s with escaped := false }
  if c = '\\' ∨ c = '\x27' ∨ c = '"' ∨ c = '$' ∨ c = ' ' then some (s.push c)
  else if c = 'n' then some (s.push '\n')
  else none

/-- A character outside of references to variables. -/
def ordinary (s : ValueState) (c : Char) : ValueState :=
  if c = '$' then { s with reference := .name [] }
  else if s.double then
    if c = '"' then { s with double := false }
    else if c = '\\' then { s with escaped := true }
    else s.push c
  else if c = '\x27' then { s with single := true }
  else if c = '"' then { s with double := true }
  else if c = '\\' then { s with escaped := true }
  else if c = ' ' ∨ c = '\t' then { s with ended := true }
  else s.push c

/-- The next character. After the end of the value only blanks and a comment may come. -/
def step? (vars : Variables) (s : ValueState) (c : Char) : Option ValueState :=
  if s.ended then if c = ' ' ∨ c = '\t' then some s else none
  else if s.escaped then s.escape? c
  else if s.single then some (if c = '\x27' then { s with single := false } else s.push c)
  else match s.reference with
    | .none => some (s.ordinary c)
    | .name name =>
      if Text.isAlphanumeric c then some { s with reference := .name (c :: name) }
      else if c = '\x7b' ∧ name = [] then some { s with reference := .braced [] }
      else
        let s := s.refer vars name
        some (if c = '$' then { s with reference := .name [] } else s.push c)
    | .braced name =>
      if c = '\x7d' then some (s.refer vars name)
      else some { s with reference := .braced (c :: name) }

/-- The value at the end of the line, where no quote or brace is open. -/
def finish? (vars : Variables) (s : ValueState) : Option String :=
  let text (s : ValueState) : Option String :=
    if s.single || s.double then none else some (String.ofList s.output.reverse)
  match s.reference with
  | .none => text s
  | .name name => text (s.refer vars name)
  | .braced _ => none

end ValueState

/-- The characters of a value from `s` on, up to a comment after its end. -/
def valueFrom? (vars : Variables) (s : ValueState) : List Char → Option String
  | [] => s.finish? vars
  | c :: rest =>
    if s.ended ∧ c = '#' then s.finish? vars
    else (s.step? vars c).bind fun s => valueFrom? vars s rest

/-! ## Definitions -/

/-- The characters of the name in a definition: ASCII letters and digits, underscores and
    points. -/
def isNamePart (c : Char) : Bool := c.isAlphanum || c == '_' || c == '.'

/-- The name at the start of a text and what follows it. It begins with a letter or an
    underscore. -/
def name? (cs : List Char) : Option (String × List Char) :=
  match cs with
  | c :: _ =>
    if c.isAlpha || c == '_' then
      some (String.ofList (cs.takeWhile isNamePart), cs.dropWhile isNamePart)
    else none
  | [] => none

/-- The value after the name of a definition, blanks and an equals sign. -/
def assigned? (vars : Variables) (name : String) (cs : List Char) : Option (String × String) :=
  match Text.trimStart cs with
  | '=' :: rest =>
    match Text.trimStart rest with
    | [] => some (name, "")
    | '#' :: _ => some (name, "")
    | value => (valueFrom? vars .start value).map fun v => (name, v)
  | _ => none

/-- What is on a line: nothing, a definition, or neither of both. -/
inductive LineContent where
  | nothing
  | definition (name value : String)
  | malformed
deriving Repr, DecidableEq

/-- The content of a line. The word `export` is a name of its own if an equals sign follows. -/
def lineContent (vars : Variables) (line : List Char) : LineContent :=
  match Text.trim line with
  | [] => .nothing
  | '#' :: _ => .nothing
  | cs =>
    let found := do
      let (name, rest) ← name? cs
      if name = "export" ∧ (Text.trimStart rest).head? ≠ some '=' then
        let (name, rest) ← name? (Text.trimStart rest)
        assigned? vars name rest
      else assigned? vars name rest
    match found with
    | some (name, value) => .definition name value
    | none => .malformed

/-- A value that the variable cannot be given. -/
structure Unsettable where
  name : String
  value : String
deriving Repr, DecidableEq

namespace Unsettable

/-- The exit code of a program whose variables cannot be set. -/
def code : Nat := 101

/-- The text about a value that cannot be given. -/
def message (e : Unsettable) : String := s!"cannot set {e.name} to {Text.quoted e.value}"

end Unsettable

namespace Variables

/-- Sets a variable that has no value yet. A null character would end the value, so no value holds
    one. -/
def setNew (vars : Variables) (name value : String) : Except Unsettable Variables :=
  if (vars.get? name).isSome then .ok vars
  else if value.toList.contains '\x00' then .error ⟨name, value⟩
  else .ok ((name, value) :: vars)

/-- Reads definitions line by line, up to the first line that holds none. -/
def loadLines (vars : Variables) : List (List Char) → Except Unsettable Variables
  | [] => .ok vars
  | line :: rest =>
    match lineContent vars line with
    | .nothing => loadLines vars rest
    | .definition name value => do loadLines (← vars.setNew name value) rest
    | .malformed => .ok vars

/-- The variables after reading a file. Of `vars` only those that the file mentions matter. -/
def load (vars : Variables) (text : String) : Except Unsettable Variables :=
  vars.loadLines (definitionLines text)

end Variables

/-! ## Mentioned names -/

/-- What follows each dollar sign of a text. -/
def afterDollars : List Char → List (List Char)
  | [] => []
  | c :: rest => if c = '$' then rest :: afterDollars rest else afterDollars rest

/-- All names of variables that a file of variables defines or refers to, among other texts in
    it. -/
def mentioned (text : String) : List String :=
  let cs := text.toList
  let defined := cs.splitBy fun a b => isNamePart a == isNamePart b
  let referred := (afterDollars cs).map fun
    | '\x7b' :: rest => rest.takeWhile fun c => c != '\x7d' && c != '='
    | rest => rest.takeWhile Text.isAlphanumeric
  ((defined ++ referred).map String.ofList).eraseDups

end RoadRouting.Command
