import Mathlib.Data.ENat.Basic
import RoadRouting.Proofs.Nearest
import RoadRouting.Proofs.Trip.Drive
import RoadRouting.Proofs.Trip.Legs
import RoadRouting.Router

/-!
# Answers of a router

A router resolves both endpoints to road points of its network, so the trip between them is a proper
one. What it answers then depends on the search alone: the steps after the search do not fail.

* `Router.resolve_valid`: endpoints are resolved to existing road points, whatever the index finds.
* `Router.route_of_found`, `Router.route_of_not_found`: the answer, by that of the search.
* `Router.route_outcome`: all that a router can answer.
* `Trip.search_isChain`: every search answers with nodes that are connected.
* `Router.roadPoints_of_every_search`: no answer of a search fails to turn into road points.
-/

namespace RoadRouting

variable {K W : Type}

theorem Network.geometry_of_hasPoint {net : Network K} {p : RoadPoint}
    (h : net.hasPoint p = true) : ∃ x, net.geometry p = .ok x := by
  obtain ⟨road, hroad, hlt⟩ := hasPoint_iff.mp h
  obtain ⟨x, hx⟩ := Road.exists_pointAt_iff.mpr hlt
  refine ⟨x, ?_⟩
  rw [geometry, Network.road, hroad]
  exact hx

theorem Network.mapM_geometry {net : Network K} {ps : List RoadPoint}
    (h : ∀ p ∈ ps, net.hasPoint p = true) : ∃ xs, ps.mapM net.geometry = .ok xs := by
  induction ps with
  | nil => exact ⟨[], rfl⟩
  | cons p ps ih =>
    obtain ⟨x, hx⟩ := geometry_of_hasPoint (h p List.mem_cons_self)
    obtain ⟨xs, hxs⟩ := ih fun q hq => h q (List.mem_cons_of_mem p hq)
    refine ⟨x :: xs, ?_⟩
    rw [List.mapM_cons, hx, hxs]
    rfl

/-! ## Searching a trip -/

namespace Trip

variable [Cost W] {t : Trip K} {est : Estimator K W} {algorithm : Algorithm}
  {path : Search.Path W} {u v : Nat}

/-- Every search answers with nodes that are connected by legs, whatever the costs are. -/
theorem Proper.search_isChain (ht : t.Proper) (hest : t.network.Priced est) (hu : t.IsNode u)
    (hv : t.IsNode v) (h : t.search est u v algorithm = .ok (some path)) :
    path.joints.IsChain t.Connects := by
  have hbeside : path.joints.IsChain ((t.graph est).Beside t.IsNode) := by
    have hg := ht.domain hest
    cases algorithm with
    | dijkstra => exact Search.dijkstra_isChain hg hu h
    | aStar => exact Search.BestFirst.search_isChain hg hu h
    | bidirectionalDijkstra => exact Search.TwoSided.search_isChain hg hu hv h
  exact hbeside.imp fun _ _ => ht.connects_of_beside hest

theorem Proper.roadPoints_of_search (ht : t.Proper) (hest : t.network.Priced est)
    (h : t.search est t.start.node t.finish.node algorithm = .ok (some path)) :
    ∃ ps, t.roadPoints est path.joints = .ok ps ∧ ∀ p ∈ ps, t.network.hasPoint p = true :=
  ht.roadPoints_spec hest
    (ht.search_isChain hest isNode_start isNode_finish h)

end Trip

namespace Trip

variable [LinearOrderedAddCommMonoidWithTop W] {t : Trip K} {est : Estimator K W}
  {answer : Option (Search.Path W)} {path : Search.Path W}

theorem Proper.ne_noJoint (ht : t.Proper) (hids : t.network.joints.count + 1 < noJoint) :
    ∀ n, t.IsNode n → n ≠ noJoint := by
  intro n hn
  rcases ht.isNode_cases hn with hn | ⟨rfl, -⟩ | ⟨rfl, -⟩ <;> omega

/-- Both searches without an estimate answer with a cheapest walk. -/
theorem Proper.search_spec (ht : t.Proper) (hest : t.network.Metered est)
    (hids : t.network.joints.count + 1 < noJoint) {algorithm : Algorithm}
    (halgorithm : algorithm ≠ .aStar) :
    ∃ answer, t.search est t.start.node t.finish.node algorithm = .ok answer ∧
      (t.graph est).Cheapest t.start.node t.finish.node answer := by
  have hid := ht.ne_noJoint hids
  have hg := ht.domain hest.priced
  have hw := ht.nonNegative hest.priced hest.nonneg
  cases algorithm with
  | dijkstra => exact Search.dijkstra_spec hg hw hid isNode_start
  | aStar => exact absurd rfl halgorithm
  | bidirectionalDijkstra =>
    exact Search.TwoSided.search_spec hg (ht.mirrored hest.priced hest.symmetric) hw hid
      isNode_start isNode_finish

/-- A cheapest walk has the least cost of all drives between the endpoints. -/
theorem Proper.isLeast_of_cheapest (ht : t.Proper) (hest : t.network.Metered est)
    (h : (t.graph est).Cheapest t.start.node t.finish.node (some path)) :
    IsLeast {c | t.network.Drive est t.start.point t.finish.point c} path.weight := by
  cases h with
  | walk hwalk hleast _ =>
    refine ⟨ht.drive_of_walk hest ht.nodeOf?_start hwalk ht.nodeOf?_finish, fun c hc => ?_⟩
    obtain ⟨nodes, c', hwalk', hle⟩ := ht.walk_of_drive hest hc ht.nodeOf?_finish
    exact le_trans (hleast hwalk') hle

/-- An answer is found exactly if some drive has a finite cost. -/
theorem Proper.isSome_iff_of_cheapest [Nontrivial W] (ht : t.Proper)
    (hest : t.network.Metered est)
    (h : (t.graph est).Cheapest t.start.node t.finish.node answer) :
    answer.isSome = true ↔
      ∃ c < ⊤, t.network.Drive est t.start.point t.finish.point c := by
  have hzero : (0 : W) < ⊤ := Cost.zero_lt_top
  cases h with
  | @walk path hwalk hleast hfin =>
    have hfinite := (Graph.Cheapest.walk hwalk hleast hfin).lt_infinity hzero
    have hdrive := ht.drive_of_walk hest ht.nodeOf?_start hwalk ht.nodeOf?_finish
    exact ⟨fun _ => ⟨path.weight, hfinite, hdrive⟩, fun _ => rfl⟩
  | none hne hnone =>
    refine ⟨fun h => Bool.noConfusion h, ?_⟩
    rintro ⟨c, hc, hdrive⟩
    obtain ⟨nodes, c', hwalk, hle⟩ := ht.walk_of_drive hest hdrive ht.nodeOf?_finish
    exact absurd (lt_of_le_of_lt hle hc) (hnone hwalk)

/-- Some path is found wherever a drive has a finite cost. -/
theorem Proper.exists_path [Nontrivial W] (ht : t.Proper) (hest : t.network.Metered est)
    (hids : t.network.joints.count + 1 < noJoint) {algorithm : Algorithm}
    (halgorithm : algorithm ≠ .aStar) {c : W} (hc : c < ⊤)
    (hdrive : t.network.Drive est t.start.point t.finish.point c) :
    ∃ path, t.search est t.start.node t.finish.node algorithm = .ok (some path) := by
  obtain ⟨answer, hsearch, hcheapest⟩ := ht.search_spec hest hids halgorithm
  obtain ⟨path, rfl⟩ := Option.isSome_iff_exists.mp
    ((ht.isSome_iff_of_cheapest hest hcheapest).mpr ⟨c, hc, hdrive⟩)
  exact ⟨path, hsearch⟩

end Trip

/-! ## Routes -/

namespace Router

variable {r : Router K W} {request : Request K} {p q : RoadPoint}

/-- Endpoints are resolved to existing road points, whatever the index finds. -/
theorem resolve_valid {location : Location K} (h : r.resolve location = .ok p) :
    r.network.hasPoint p = true := by
  cases location with
  | roadPoint p' =>
    rw [resolve] at h
    split at h
    case isTrue hp =>
      cases h
      exact hp
    case isFalse => cases h
  | coordinates place =>
    rw [resolve] at h
    cases hsnap : r.snap place with
    | error what =>
      rw [hsnap] at h
      cases h
    | ok found =>
      rw [hsnap] at h
      cases found with
      | none => cases h
      | some s =>
        cases h
        exact Network.hasPoint_of_snapBy hsnap

/-- Why an endpoint is not resolved. A lookup only fails if the index finds points that it does not
    hold. -/
inductive Unresolved (r : Router K W) : RouteError K → Prop
  | snapFailed {place : GeoPoint K} : Unresolved r (.snapFailed place)
  | invalidRoadPoint {p : RoadPoint} : Unresolved r (.invalidRoadPoint p)
  | missing {what : Missing} : ¬ r.find.Stored → Unresolved r (.missing what)

theorem resolve_error {location : Location K} {x : RouteError K}
    (h : r.resolve location = .error x) : r.Unresolved x := by
  cases location with
  | roadPoint p =>
    rw [resolve] at h
    split at h
    case isTrue => cases h
    case isFalse =>
      cases h
      exact .invalidRoadPoint
  | coordinates place =>
    rw [resolve] at h
    cases hsnap : r.snap place with
    | error what =>
      rw [hsnap] at h
      cases h
      exact .missing fun hfind => Network.snapBy_ne_error hfind what hsnap
    | ok found =>
      rw [hsnap] at h
      cases found with
      | none =>
        cases h
        exact .snapFailed
      | some s => cases h

section Route

variable [Cost W] {path : Search.Path W}

/-- The search of a request whose endpoints are resolved. -/
def searchOf (r : Router K W) (request : Request K) (p q : RoadPoint) :
    Except Missing (Option (Search.Path W)) :=
  let t := Trip.between r.network p q
  t.search r.estimator t.start.node t.finish.node (request.algorithm.getD r.options.algorithm)

/-- The route along the nodes that a search has found. -/
def routeAlong (r : Router K W) (p q : RoadPoint) (path : Search.Path W) :
    Except (RouteError K) (Route K W) := do
  let roadPoints ← ((Trip.between r.network p q).roadPoints r.estimator path.joints).mapError .ofLegs
  let points ← (roadPoints.mapM r.network.geometry).mapError .missing
  .ok ⟨path.joints, roadPoints, points, path.weight⟩

theorem routeAlong_spec (hnet : r.network.Consistent) (hest : r.network.Priced r.estimator)
    (hp : r.network.hasPoint p = true) (hq : r.network.hasPoint q = true)
    (h : r.searchOf request p q = .ok (some path)) :
    ∃ ps xs, r.routeAlong p q path = .ok ⟨path.joints, ps, xs, path.weight⟩ ∧
      (∀ x ∈ ps, r.network.hasPoint x = true) ∧ ps.mapM r.network.geometry = .ok xs := by
  obtain ⟨ps, hps, hvalid⟩ := (Trip.proper_between hnet hp hq).roadPoints_of_search hest h
  obtain ⟨xs, hxs⟩ := Network.mapM_geometry hvalid
  have hxs' : ps.mapM r.network.geometry = .ok xs := hxs
  refine ⟨ps, xs, ?_, hvalid, hxs'⟩
  simp only [routeAlong, hps, hxs', mapError_ok, bind, Except.bind]

/-- The answer to a request whose endpoints are resolved, by the answer of the search. -/
theorem route_eq (hp : r.resolve request.start = .ok p) (hq : r.resolve request.finish = .ok q) :
    r.route request =
      match r.searchOf request p q with
      | .error what => .error (.missing what)
      | .ok none => .error (.routeNotFound p q)
      | .ok (some path) => r.routeAlong p q path := by
  unfold route
  rw [hp, hq]
  show (r.searchOf request p q).mapError RouteError.missing >>= _ = _
  cases r.searchOf request p q with
  | error what => rfl
  | ok found => cases found <;> rfl

theorem route_of_found (hnet : r.network.Consistent) (hest : r.network.Priced r.estimator)
    (hp : r.resolve request.start = .ok p) (hq : r.resolve request.finish = .ok q)
    (h : r.searchOf request p q = .ok (some path)) :
    ∃ route, r.route request = .ok route ∧ route.joints = path.joints ∧
      route.weight = path.weight := by
  obtain ⟨ps, xs, halong, -⟩ := routeAlong_spec hnet hest (resolve_valid hp) (resolve_valid hq) h
  refine ⟨⟨path.joints, ps, xs, path.weight⟩, ?_, rfl, rfl⟩
  rw [route_eq hp hq, h]
  exact halong

theorem route_of_not_found (hp : r.resolve request.start = .ok p)
    (hq : r.resolve request.finish = .ok q) (h : r.searchOf request p q = .ok none) :
    r.route request = .error (.routeNotFound p q) := by
  rw [route_eq hp hq, h]

/-- All that a router can answer to a request. -/
inductive Outcome (r : Router K W) (request : Request K) :
    Except (RouteError K) (Route K W) → Prop
  | unresolved {x : RouteError K} : r.Unresolved x → Outcome r request (.error x)
  | missing {p q : RoadPoint} {what : Missing} : r.network.hasPoint p = true →
      r.network.hasPoint q = true → r.searchOf request p q = .error what →
      Outcome r request (.error (.missing what))
  | notFound {p q : RoadPoint} : Outcome r request (.error (.routeNotFound p q))
  | found {p q : RoadPoint} {path : Search.Path W} {ps : List RoadPoint} {xs : List (GeoPoint K)} :
      r.network.hasPoint p = true → r.network.hasPoint q = true →
      r.searchOf request p q = .ok (some path) → (∀ x ∈ ps, r.network.hasPoint x = true) →
      ps.mapM r.network.geometry = .ok xs →
      Outcome r request (.ok ⟨path.joints, ps, xs, path.weight⟩)

theorem route_outcome (hnet : r.network.Consistent) (hest : r.network.Priced r.estimator) :
    r.Outcome request (r.route request) := by
  cases hp : r.resolve request.start with
  | error x =>
    have hx : r.route request = .error x := by
      rw [route, hp]
      rfl
    rw [hx]
    exact .unresolved (resolve_error hp)
  | ok p =>
    cases hq : r.resolve request.finish with
    | error x =>
      have hx : r.route request = .error x := by
        rw [route, hp, hq]
        rfl
      rw [hx]
      exact .unresolved (resolve_error hq)
    | ok q =>
      have hp' := resolve_valid hp
      have hq' := resolve_valid hq
      rw [route_eq hp hq]
      cases hfound : r.searchOf request p q with
      | error what => exact .missing hp' hq' hfound
      | ok found =>
        cases found with
        | none => exact .notFound
        | some path =>
          obtain ⟨ps, xs, halong, hvalid, hxs⟩ := routeAlong_spec hnet hest hp' hq' hfound
          simp only [halong]
          exact .found hp' hq' hfound hvalid hxs

/-- No request fails for nodes that do not turn into road points. -/
theorem route_ne_brokenLegs (hnet : r.network.Consistent) (hest : r.network.Priced r.estimator)
    (cause : LegError) : r.route request ≠ .error (.brokenLegs cause) := by
  intro hroute
  have hout : r.Outcome request _ := route_outcome hnet hest
  rw [hroute] at hout
  cases hout with
  | unresolved h => cases h

/-- A router of the small network, whose index compares all road points. -/
def sample (net : Network Nat) : Router Nat ℕ∞ where
  network := net
  find := .scan
  distance := Network.gridDistance
  estimator := Network.sampleEstimator
  options := ⟨.aStar, 130⟩

/-- The nodes of an answer always turn into road points: of any trip between existing road points,
    by any of the searches, and so for any request, whatever the index of the router finds. -/
theorem roadPoints_of_every_search {net : Network K} {est : Estimator K W} {roads : Array (Road K)}
    {joints : List (List RoadPoint)} (hnet : Network.build roads joints = .ok net)
    (hest : net.Priced est) :
    (∀ p q, net.hasPoint p = true → net.hasPoint q = true → ∀ algorithm path,
      (Trip.between net p q).search est (Trip.between net p q).start.node
        (Trip.between net p q).finish.node algorithm = .ok (some path) →
      ∃ ps, (Trip.between net p q).roadPoints est path.joints = .ok ps) ∧
    ∀ find distance options request cause,
      (⟨net, find, distance, est, options⟩ : Router K W).route request ≠
        .error (.brokenLegs cause) := by
  have hconsistent := Network.consistent_of_build hnet
  refine ⟨fun p q hp hq algorithm path h => ?_, fun find distance options request cause =>
    route_ne_brokenLegs hconsistent hest cause⟩
  obtain ⟨ps, hps, -⟩ := (Trip.proper_between hconsistent hp hq).roadPoints_of_search hest h
  exact ⟨ps, hps⟩

/-- Along a road of a small network, where the searches without an estimate find a way. -/
theorem roadPoints_of_every_search_sample :
    ∃ net, Network.build Network.sampleRoads Network.sampleJoints = .ok net ∧
      (∀ algorithm, algorithm ≠ .aStar →
        ∃ path ps, (Trip.between net ⟨0, 0⟩ ⟨0, 2⟩).search Network.sampleEstimator
            (Trip.between net ⟨0, 0⟩ ⟨0, 2⟩).start.node
            (Trip.between net ⟨0, 0⟩ ⟨0, 2⟩).finish.node algorithm = .ok (some path) ∧
          (Trip.between net ⟨0, 0⟩ ⟨0, 2⟩).roadPoints Network.sampleEstimator path.joints =
            .ok ps) ∧
      ∀ request cause, (sample net).route request ≠ .error (.brokenLegs cause) := by
  obtain ⟨net, hnet, hroads, hcount, hfirst, hsecond⟩ := Network.build_sample
  have hboth := roadPoints_of_every_search hnet (Network.priced_sample net)
  have ht := Trip.proper_between (Network.consistent_of_build hnet) hfirst hsecond
  refine ⟨net, hnet, fun algorithm halgorithm => ?_, hboth.2 _ _ _⟩
  have hids : net.joints.count + 1 < noJoint := by
    rw [hcount, noJoint]
    omega
  obtain ⟨path, hpath⟩ := ht.exists_path (Network.metered_sample net) hids halgorithm
    (ENat.natCast_lt_top 2) (Network.drive_sample hroads)
  obtain ⟨ps, hps⟩ := hboth.1 _ _ hfirst hsecond algorithm path hpath
  exact ⟨path, ps, hpath, hps⟩

end Route

/-! ## Cheapest routes -/

section Cheapest

variable [LinearOrderedAddCommMonoidWithTop W] [Nontrivial W]

/-- With exact costs, and without an estimate, the route between two existing road points is one of
    least cost among all drives between them, and it is missing exactly if no drive has a finite
    cost. The numbers of the joints and the two reserved ones are below the one that stands for no
    joint. -/
theorem route_is_cheapest_drive {net : Network K} {est : Estimator K W} {options : Options K}
    {roads : Array (Road K)} {joints : List (List RoadPoint)} {algorithm : Option Algorithm}
    (hnet : Network.build roads joints = .ok net) (hest : net.Metered est)
    (hids : net.joints.count + 1 < noJoint) (hp : net.hasPoint p = true)
    (hq : net.hasPoint q = true) (halgorithm : algorithm.getD options.algorithm ≠ .aStar)
    (find : Lookup K) (distance : GeoPoint K → GeoPoint K → K) :
    ((∃ c < ⊤, net.Drive est p q c) →
      ∃ route, (⟨net, find, distance, est, options⟩ : Router K W).route
          ⟨.roadPoint p, .roadPoint q, algorithm⟩ = .ok route ∧
        IsLeast {c | net.Drive est p q c} route.weight) ∧
    ((⟨net, find, distance, est, options⟩ : Router K W).route
        ⟨.roadPoint p, .roadPoint q, algorithm⟩ =
        .error (.routeNotFound p q) ↔ ¬∃ c < ⊤, net.Drive est p q c) := by
  let r : Router K W := ⟨net, find, distance, est, options⟩
  let request : Request K := ⟨.roadPoint p, .roadPoint q, algorithm⟩
  have hconsistent := Network.consistent_of_build hnet
  have ht := Trip.proper_between hconsistent hp hq
  have hp' : r.resolve request.start = .ok p := if_pos hp
  have hq' : r.resolve request.finish = .ok q := if_pos hq
  obtain ⟨answer, hsearch, hcheapest⟩ := ht.search_spec hest hids halgorithm
  have hfound : answer.isSome = true ↔ ∃ c < ⊤, net.Drive est p q c :=
    ht.isSome_iff_of_cheapest hest hcheapest
  cases answer with
  | none =>
    have hroute := route_of_not_found hp' hq' hsearch
    have hnone : ¬∃ c < ⊤, net.Drive est p q c := fun h => Bool.noConfusion (hfound.mpr h)
    exact ⟨fun h => absurd h hnone, fun _ => hnone, fun _ => hroute⟩
  | some path =>
    obtain ⟨route, hroute, -, hweight⟩ := route_of_found hconsistent hest.priced hp' hq' hsearch
    have hleast : IsLeast {c | net.Drive est p q c} route.weight := by
      rw [hweight]
      exact ht.isLeast_of_cheapest hest hcheapest
    refine ⟨fun _ => ⟨route, hroute, hleast⟩, fun h => ?_, fun h => absurd (hfound.mp rfl) h⟩
    have hne : (Except.ok route : Except (RouteError K) (Route K W)) =
        .error (.routeNotFound p q) := hroute.symm.trans h
    cases hne

/-- Past a joint, by the search from both ends. -/
theorem route_is_cheapest_drive_sample :
    ∃ net, Network.build Network.sampleRoads Network.sampleJoints = .ok net ∧
      ∃ route, (sample net).route
          ⟨.roadPoint ⟨0, 0⟩, .roadPoint ⟨0, 2⟩, some .bidirectionalDijkstra⟩ = .ok route ∧
        IsLeast {c | net.Drive Network.sampleEstimator ⟨0, 0⟩ ⟨0, 2⟩ c} route.weight := by
  obtain ⟨net, hnet, hroads, hcount, hfirst, hsecond⟩ := Network.build_sample
  have hids : net.joints.count + 1 < noJoint := by
    rw [hcount, noJoint]
    omega
  have hfinite : (0 + (1 : ℕ) + (1 : ℕ) : ℕ∞) < ⊤ := ENat.natCast_lt_top 2
  refine ⟨net, hnet, (route_is_cheapest_drive hnet (Network.metered_sample net) hids hfirst hsecond
    ?_ _ _).1 ⟨_, hfinite, Network.drive_sample hroads⟩⟩
  decide

end Cheapest

end Router

end RoadRouting
