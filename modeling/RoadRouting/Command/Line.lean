import RoadRouting.Command.Value

/-!
# The command line

A command line is options, the name of a command, and then its operands mixed with options. An
option that takes a value has it attached or as the next argument. Where an operand may still
come, an argument that starts with a hyphen but is made of letters that name no options is that
operand, so that negative coordinates need no marker.

Arguments are read one after another, and the first that cannot be read ends this. A request for an
explanation ends it, too, so what stands before one must be right and what stands after it is not
looked at. A value that is an argument of its own is read when the next option or operand begins.

* `Flag`, `Verb`: the options and the commands.
* `Collected.take`: one argument.
* `Invocation.read`: what is asked for, or `Refusal.usage`.
-/

namespace RoadRouting.Command

/-- The options. -/
inductive Flag where
  | graph
  | maxSpeed
  | debug
  | help
  | version
  | algorithm
  | requests
deriving Repr, DecidableEq

namespace Flag

/-- The name after two hyphens. -/
def long : Flag → String
  | graph => "graph"
  | maxSpeed => "max-speed"
  | debug => "debug"
  | help => "help"
  | version => "version"
  | algorithm => "algorithm"
  | requests => "requests"

/-- The letter after one hyphen. -/
def short? : Flag → Option Char
  | graph => some 'g'
  | maxSpeed => none
  | debug => some 'd'
  | help => some 'h'
  | version => some 'V'
  | algorithm => some 'a'
  | requests => some 'r'

/-- The option takes a value. -/
def takesValue : Flag → Bool
  | graph | maxSpeed | algorithm | requests => true
  | debug | help | version => false

end Flag

/-- The commands. -/
inductive Verb where
  /-- The route between two endpoints. -/
  | route
  /-- The routes of a file of requests. -/
  | batch
  /-- The road point nearest to a place. -/
  | snap
deriving Repr, DecidableEq

/-- Why nothing is carried out. -/
inductive Refusal where
  /-- The arguments are not those of any command. -/
  | usage
  /-- The arguments ask for an explanation. -/
  | help
deriving Repr, DecidableEq

/-! ## Values -/

/-- A value that must be readable where it is given. -/
def readValue {ε α : Type} (result : Except ε α) : Except Refusal α :=
  match result with
  | .ok a => .ok a
  | .error _ => .error .usage

/-- A path, which is not empty. -/
def readPath (text : String) : Except Refusal String :=
  if text.isEmpty then .error .usage else .ok text

/-- A speed cap in km/h. A text without a minus sign that is not a number gives an unknown cap.
    With the sign the cap is given, and it makes every estimate what is not a number. -/
def readSpeed (text : String) : Except Refusal (SpeedCap Float) :=
  match readFloat? text.toList with
  | some x => .ok (if x.isNaN && text.toList.head? != some '-' then .unknown else .upTo x)
  | none => .error .usage

/-- The values of the options given at one level. -/
structure Settings where
  /-- The path of the network file. -/
  graph : Option String
  maxSpeed : Option (SpeedCap Float)
  debug : Bool
  algorithm : Option Algorithm
  /-- The path of the file of requests. -/
  requests : Option String

namespace Settings

/-- No option is given. -/
def empty : Settings := ⟨none, none, false, none, none⟩

/-- A value for an option that has none yet. -/
def fresh {α : Type} (current : Option α) (value : Except Refusal α) :
    Except Refusal (Option α) :=
  if current.isSome then .error .usage else value.map some

/-- Gives an option with its value. None is given twice. -/
def give (s : Settings) (f : Flag) (value : String) : Except Refusal Settings :=
  match f with
  | .graph => (fresh s.graph (readPath value)).map fun x => { s with graph := x }
  | .maxSpeed => (fresh s.maxSpeed (readSpeed value)).map fun x => { s with maxSpeed := x }
  | .debug => if s.debug then .error .usage else .ok { s with debug := true }
  | .algorithm =>
    (fresh s.algorithm (readValue (readAlgorithm value))).map fun x => { s with algorithm := x }
  | .requests => (fresh s.requests (readPath value)).map fun x => { s with requests := x }
  | .help | .version => .error .help

end Settings

/-- The value of an operand. -/
inductive Operand where
  | endpoint (location : Location Float)
  | place (place : GeoPoint Float)

/-- An endpoint of a route. -/
def readEndpointOperand (text : String) : Except Refusal Operand :=
  (readValue (readEndpoint text)).map .endpoint

/-- A place. -/
def readPlaceOperand (text : String) : Except Refusal Operand :=
  (readValue (readCoordinates text)).map .place

/-! ## Arguments -/

/-- What may be given at one place of a command line: options, and operands, each as it is read. -/
structure Level where
  flags : List Flag
  operands : List (String → Except Refusal Operand)

/-- The options that may be given everywhere. -/
def sharedFlags : List Flag := [.graph, .maxSpeed, .debug, .help]

/-- Before the name of the command. -/
def rootLevel : Level := ⟨.version :: sharedFlags, []⟩

namespace Verb

/-- The command of a name. -/
def named? : String → Option Verb
  | "route" | "r" => some route
  | "batch" => some batch
  | "snap" => some snap
  | _ => none

/-- After the name of the command. -/
def level : Verb → Level
  | route => ⟨.algorithm :: sharedFlags, [readEndpointOperand, readEndpointOperand]⟩
  | batch => ⟨.requests :: sharedFlags, []⟩
  | snap => ⟨sharedFlags, [readPlaceOperand]⟩

end Verb

/-- An option whose value is not attached. -/
inductive Pending where
  /-- The value is the next argument. -/
  | awaited (flag : Flag)
  /-- The value is known, but not read yet. -/
  | unread (flag : Flag) (value : String)
deriving Repr, DecidableEq

/-- The arguments taken so far at one level. -/
structure Collected where
  settings : Settings
  operands : List Operand
  pending : Option Pending
  /-- Two hyphens have ended the options. -/
  ended : Bool

namespace Collected

/-- Before the first argument. -/
def empty : Collected := ⟨.empty, [], none, false⟩

/-- The next argument is the value of an option. -/
def awaitsValue (c : Collected) : Bool :=
  match c.pending with
  | some (.awaited _) => true
  | _ => false

/-- Reads the value of the last option. It must have one. -/
def settle (c : Collected) : Except Refusal Collected :=
  match c.pending with
  | none => .ok c
  | some (.awaited _) => .error .usage
  | some (.unread f value) => do
    let settings ← c.settings.give f value
    .ok { c with settings, pending := none }

/-- An option with its value, after all before it. -/
def give (c : Collected) (f : Flag) (value : String) : Except Refusal Collected := do
  let c ← c.settle
  let settings ← c.settings.give f value
  .ok { c with settings }

/-- An option without an attached value. -/
def mention (c : Collected) (f : Flag) : Except Refusal Collected :=
  if f.takesValue then do
    let c ← c.settle
    .ok { c with pending := some (.awaited f) }
  else c.give f ""

/-- An option by its name, with or without a value after an equals sign. -/
def long (c : Collected) (f : Flag) (value : Option String) : Except Refusal Collected :=
  match value with
  | none => c.mention f
  | some v => if f.takesValue then c.give f v else .error .usage

/-- Options by their letters. The rest after a letter that takes a value is that value, without an
    equals sign at its start. -/
def letters (flags : List Flag) (c : Collected) : List Char → Except Refusal Collected
  | [] => .ok c
  | l :: rest =>
    match flags.find? (·.short? == some l) with
    | none => .error .usage
    | some f =>
      if f.takesValue then
        match rest with
        | [] => c.mention f
        | '=' :: value => c.give f (String.ofList value)
        | value => c.give f (String.ofList value)
      else do
        let c ← c.give f ""
        letters flags c rest

/-- An argument that is no option: the value that is waited for, or an operand. -/
def plain (level : Level) (c : Collected) (arg : String) : Except Refusal Collected :=
  match c.pending, level.operands[c.operands.length]? with
  | some (.awaited f), _ =>
    if c.ended then .error .usage else .ok { c with pending := some (.unread f arg) }
  | _, some read => do
    let c ← c.settle
    .ok { c with operands := c.operands ++ [← read arg] }
  | _, none => .error .usage

/-- The next argument at a level. -/
def take (level : Level) (c : Collected) (arg : String) : Except Refusal Collected :=
  let mayBeOperand := decide (c.operands.length < level.operands.length)
  if c.ended then c.plain level arg
  else
    match arg.toList with
    | ['-', '-'] => .ok { c with ended := true }
    | '-' :: '-' :: cs =>
      let (name, value) := match Text.splitAt? '=' cs with
        | some (name, value) => (name, some (String.ofList value))
        | none => (cs, none)
      match level.flags.find? (·.long == String.ofList name) with
      | some f => c.long f value
      | none => if mayBeOperand then c.plain level arg else .error .usage
    | '-' :: c₁ :: cs =>
      let isLetter (l : Char) := level.flags.any (·.short? == some l)
      if mayBeOperand && !(c₁ :: cs).all isLetter then c.plain level arg
      else c.letters level.flags (c₁ :: cs)
    | _ => c.plain level arg

/-- All arguments at a level. -/
def takeAll (level : Level) (args : List String) : Except Refusal Collected := do
  let c ← args.foldlM (take level) .empty
  c.settle

/-- What the arguments after the word `help` ask for: an explanation of all commands, of one of
    them, or of the word itself. -/
def explanation : List String → Refusal
  | [] => .help
  | [name] => if name = "help" ∨ (Verb.named? name).isSome then .help else .usage
  | ["help", name] => if (Verb.named? name).isSome then .help else .usage
  | _ => .usage

/-- The arguments up to the name of the command, the command, and the arguments after it. The last
    value before the command is not read yet. -/
def upToVerb (c : Collected) : List String → Except Refusal (Collected × Verb × List String)
  | [] => .error .usage
  | arg :: rest =>
    if !c.awaitsValue && !c.ended then
      match Verb.named? arg with
      | some v => .ok (c, v, rest)
      | none =>
        if arg = "help" then .error (explanation rest)
        else do upToVerb (← c.take rootLevel arg) rest
    else do upToVerb (← c.take rootLevel arg) rest

end Collected

/-! ## What is asked for -/

/-- A command with its operands. -/
inductive Task where
  | route (request : Request Float)
  /-- The path of the file of requests. -/
  | batch (path : String)
  | snap (place : GeoPoint Float)

/-- What a command line asks for. -/
structure Invocation where
  /-- The path of the network file. -/
  graph : Option String
  /-- The speed cap in km/h. -/
  maxSpeed : SpeedCap Float
  /-- More is told about the work. -/
  debug : Bool
  task : Task

/-- The variable that names the network file when no option does. -/
def graphVariable : String := "INDEX_ROUTING_GRAPH"

/-- The path of the network file. An option counts more than the variable, and one after the
    command more than one before it. The variable is looked at wherever the option is not given. -/
def readGraph (fallback before after : Option String) : Except Refusal (Option String) :=
  if before.isSome && after.isSome then .ok after
  else do
    let path ← fallback.mapM readPath
    .ok ((after.or before).or path)

/-- The command with its operands. -/
def readTask (verb : Verb) (c : Collected) : Except Refusal Task :=
  match verb, c.operands with
  | .route, [.endpoint start, .endpoint finish] =>
    .ok (.route ⟨start, finish, c.settings.algorithm⟩)
  | .batch, [] =>
    match c.settings.requests with
    | some path => .ok (.batch path)
    | none => .error .usage
  | .snap, [.place place] => .ok (.snap place)
  | _, _ => .error .usage

/-- What the arguments ask for, with the value of the variable that names the network file. -/
def Invocation.read (fallback : Option String) (args : List String) :
    Except Refusal Invocation := do
  let (before, verb, rest) ← Collected.empty.upToVerb args
  let after ← Collected.takeAll verb.level rest
  let before ← before.settle
  let task ← readTask verb after
  let graph ← readGraph fallback before.settings.graph after.settings.graph
  let maxSpeed := after.settings.maxSpeed.or before.settings.maxSpeed
  .ok {
    graph, task
    maxSpeed := maxSpeed.getD (.upTo (Float.ofNat defaultMaxSpeed))
    debug := before.settings.debug || after.settings.debug }

end RoadRouting.Command
