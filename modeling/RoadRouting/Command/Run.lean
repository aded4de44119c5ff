import RoadRouting.Codec.Request
import RoadRouting.Command.Environment
import RoadRouting.Command.Line
import RoadRouting.GeoJson
import RoadRouting.Text.Terminal

/-!
# Carrying out a command

A command reads the network, prepares a router, does its task and reports: what goes to the
standard output, the log, and the error that ended it.

* `Report`: the outcome of a command.
* `Invocation.report`: the outcome of what a command line asks for.
-/

namespace RoadRouting.Command

/-- What is found at a path. -/
inductive FileContent where
  /-- Nothing that can be opened. -/
  | absent
  /-- Something that can be opened but is no text, such as a directory. -/
  | unreadable
  | text (content : String)
deriving Repr, DecidableEq

/-- How weighty a line of the log is. -/
inductive Severity where
  | info
  | warn
deriving Repr, DecidableEq

/-- A line of the log. -/
structure LogLine where
  severity : Severity
  message : String
deriving Repr, DecidableEq

/-- The severity and the message, which a terminal shows as it is. -/
def LogLine.text (l : LogLine) : String :=
  (match l.severity with
    | .info => "INFO "
    | .warn => "WARN ") ++ Text.harmless l.message

/-- The outcome of a command. -/
structure Report where
  output : String
  error : Option String
  log : List LogLine
deriving Repr, DecidableEq

namespace Report

/-- The exit code. -/
def code (r : Report) : Nat := if r.error.isSome then 1 else 0

/-- A command that ended with an error. -/
def failed (message : String) : Report := ⟨"", some message, []⟩

/-- A command that printed a line. -/
def printed (line : String) : Report := ⟨line ++ "\n", none, []⟩

/-- The report after something was logged first. -/
def after (r : Report) (lines : List LogLine) : Report := { r with log := lines ++ r.log }

end Report

/-- A line of information. -/
def info (message : String) : LogLine := ⟨.info, message⟩

/-- A warning. -/
def warn (message : String) : LogLine := ⟨.warn, message⟩

/-- The network of a file. -/
def networkOf (path : String) : FileContent → Except ImportError (Network Float)
  | .absent => .error (.unreadable path)
  | .unreadable => .error .malformed
  | .text content => Network.ofText content

/-- The requests of a text. -/
def requestsOf? (text : String) : Option (List (Request Float)) :=
  (Json.parse? text).bind (Json.listOf? (Request.ofJson? .binary64))

/-- Prints the route of a request as a feature. -/
def reportRoute (router : Router Float Float) (q : Request Float) : Report :=
  match router.route q with
  | .error e => .failed e.message
  | .ok route =>
    (Report.printed route.feature.pretty).after
      [info (s!"Route of {route.roadPoints.length} road points, " ++
        s!"weight {Decimal.fixedText 1 route.weight}")]

/-- The warnings for the requests without a route, each with its position. -/
def warnings (results : List (Except (RouteError Float) (Route Float Float))) : List LogLine :=
  (results.mapIdx fun i result =>
    match result with
    | .ok _ => none
    | .error e => some (warn s!"Request {i} failed: {e.message}")).filterMap id

/-- Prints the routes of the requests of a file as a collection of features. -/
def reportBatch (router : Router Float Float) (path : String) (content : FileContent) : Report :=
  match content with
  | .absent => .failed s!"Cannot open {path}"
  | .unreadable => .failed s!"Invalid requests in {path}"
  | .text text =>
    match requestsOf? text with
    | none => .failed s!"Invalid requests in {path}"
    | some requests =>
      let results := requests.map router.route
      let routes := results.filterMap Except.toOption
      (Report.printed (Route.collection routes).compact).after
        ([info s!"Routing {requests.length} requests"] ++ warnings results ++
          [info s!"{routes.length} of {requests.length} requests routed"])

/-- Prints the road point nearest to a place. -/
def reportSnap (router : Router Float Float) (q : GeoPoint Float) : Report :=
  match router.snap q with
  | .error what => .failed (RouteError.missing what).message
  | .ok none => .failed s!"No road near {q.description}"
  | .ok (some s) =>
    let lat := Decimal.plain.text s.coordinates.lat
    let lng := Decimal.plain.text s.coordinates.lng
    .printed s!"{s.point.text} ({lat}, {lng}) at {Decimal.fixedText 1 s.distance} m"

/-- Does the task of a command. -/
def Task.report (router : Router Float Float) (files : String → FileContent) : Task → Report
  | route q => reportRoute router q
  | batch path => reportBatch router path (files path)
  | snap q => reportSnap router q

namespace Invocation

/-- The paths of the files that a command reads. -/
def paths (i : Invocation) : List String :=
  i.graph.toList ++ match i.task with
    | .batch path => [path]
    | _ => []

/-- The outcome of what a command line asks for. -/
def report (files : String → FileContent) (i : Invocation) : Report :=
  match i.graph with
  | none => .failed s!"no road graph given, use --graph or set {graphVariable}"
  | some path =>
    let reading := info s!"Reading road graph from {path}"
    match networkOf path (files path) with
    | .error e => (Report.failed e.message).after [reading]
    | .ok net =>
      let options : Options Float :=
        { Options.default Float.ofNat with maxSpeed := i.maxSpeed.kmh?.getD (0.0 / 0.0) }
      let router := Router.of net (carEstimator i.maxSpeed) options
      (i.task.report router files).after [
        reading,
        info s!"Router ready joints={net.joints.count} indexed_points={router.places.length}",
        info s!"Loaded {path}"]

end Invocation

end RoadRouting.Command
