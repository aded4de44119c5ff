import RoadRouting.Command.Run

/-!
# The program

Reads the variables, the arguments and the files, and prints what a command reports.
-/

namespace RoadRouting.Program

open RoadRouting.Command

/-- The explanation of the command line. -/
def help : String :=
  "Usage: index-routing [--graph FILE] [--max-speed KMH] [--debug] COMMAND\n\n" ++
  "Commands:\n" ++
  "  route START FINISH [--algorithm NAME]  the route between two endpoints as GeoJSON\n" ++
  "  batch --requests FILE                  the routes of a JSON file of requests as GeoJSON\n" ++
  "  snap LAT,LNG                           the road point nearest to a place\n\n" ++
  "An endpoint is FEATURE:POINT or LAT,LNG. The graph may also be named by the variable\n" ++
  graphVariable ++ "."

/-- A directory and those above it, the nearest first. -/
def ancestors (directory : String) : List String :=
  let parts := directory.splitOn "/"
  (List.range parts.length).map fun n => String.intercalate "/" (parts.take (parts.length - n))

/-- What is found at a path. -/
def readContent (path : String) : IO FileContent := do
  match ← (IO.FS.Handle.mk path .read).toBaseIO with
  | .error _ => return .absent
  | .ok _ =>
    match ← (IO.FS.readFile path).toBaseIO with
    | .ok text => return .text text
    | .error _ => return .unreadable

/-- The text of the first file of variables in a directory or above it. -/
def findVariables : List String → IO (Option String)
  | [] => return none
  | directory :: rest => do
    match ← readContent (directory ++ "/.env") with
    | .text text => return some text
    | _ => findVariables rest

/-- The variables of the given names that are set. -/
def setVariables (names : List String) : IO Variables :=
  names.filterMapM fun name => return (← IO.getEnv name).map (name, ·)

/-- The variables that matter: the one that is set, and those of the file of variables. -/
def readVariables : IO (Except Unsettable Variables) := do
  match ← findVariables (ancestors (toString (← IO.currentDir))) with
  | some text => return (← setVariables (graphVariable :: mentioned text)).load text
  | none => return .ok (← setVariables [graphVariable])

/-- Carries out a command line with the given variables and returns the exit code. -/
def runWith (vars : Variables) (args : List String) : IO UInt32 := do
  match Invocation.read (vars.get? graphVariable) args with
  | .error .usage =>
    IO.eprintln help
    return 2
  | .error .help =>
    IO.println help
    return 0
  | .ok invocation =>
    let contents ← invocation.paths.mapM fun path => return (path, ← readContent path)
    let report := invocation.report fun path => (contents.lookup path).getD .absent
    for line in report.log do IO.eprintln line.text
    IO.print report.output
    if let some message := report.error then IO.eprintln s!"Error: {message}"
    return report.code.toUInt32

/-- Carries out a command line and returns the exit code. -/
def run (args : List String) : IO UInt32 := do
  match ← readVariables with
  | .ok vars => runWith vars args
  | .error e =>
    IO.eprintln e.message
    return Unsettable.code.toUInt32

end RoadRouting.Program

def main (args : List String) : IO UInt32 := RoadRouting.Program.run args
