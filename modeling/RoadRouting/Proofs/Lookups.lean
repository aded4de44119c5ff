import RoadRouting.Proofs.Trip.Bounds

/-!
# Lookups

A lookup that names something the network does not hold makes the whole request fail, so a request
that does not fail in this way has made no such lookup. On a network that was built, with an estimator
that answers on its roads and an index that finds points which it holds, no request does.

* `Network.priced_car`: the estimator of a car answers on every road of every network.
* `Trip.Answers`: what can be looked up of the nodes of a trip.
* `Trip.Proper.search_answers`: no search fails.
* `Route.Fits`: what a route tells is part of the network.
* `Router.route_looks_up_what_exists`: no request fails for a lookup, and its route fits the network.
-/

namespace RoadRouting

variable {K W : Type}

/-! ## The estimator of a car -/

section Car

variable [LE K] [DecidableLE K] [Zero K] [Add K] [Mul K] [Div K]

theorem Car.exists_seconds {distance : GeoPoint K → GeoPoint K → K} {unit : K} {cap : SpeedCap K}
    {road : Road K} {a b : Nat} (ha : a < road.points.size) (hb : b < road.points.size) :
    ∃ s, seconds? distance unit cap road a b = .ok s := by
  have hmax : ¬ (min a b < max a b ∧ road.points.size ≤ max a b) := by omega
  unfold seconds?
  dsimp only
  split
  · exact ⟨none, rfl⟩
  · rw [length, if_neg hmax]
    exact ⟨_, rfl⟩

/-- Between two points of a road the car has a cost, whatever is a number. -/
theorem Network.priced_car [Cost W] (net : Network K) (distance : GeoPoint K → GeoPoint K → K)
    (unit : K) (cost : K → W) (cap : SpeedCap K) :
    net.Priced (Car.estimator distance unit cost cap) := by
  intro r a b road _ ha hb
  obtain ⟨s, hs⟩ : ∃ s, Car.seconds? distance unit cap road a b = .ok s := Car.exists_seconds ha hb
  simp only [Car.estimator, hs, bind, Except.bind]
  cases s <;> exact ⟨_, rfl⟩

end Car

/-! ## Lookups of a trip -/

namespace Trip

variable {t : Trip K} {est : Estimator K W} {n : Nat}

/-- Every number below the node count has road points, the first of which gives its coordinates, and
    every node lists edges that lead to nodes. -/
structure Answers (t : Trip K) (est : Estimator K W) : Prop where
  points : ∀ n < t.nodeCount, ∃ p ps, t.points n = .ok (p :: ps) ∧
    ∀ x ∈ p :: ps, t.network.hasPoint x = true
  geometry : ∀ n < t.nodeCount, ∃ x, t.geometry n = .ok x
  edges : ∀ n, t.IsNode n → ∀ d, ∃ es, t.edges est d n = .ok es ∧ ∀ e ∈ es, t.IsNode e.target

theorem Proper.answers [Zero W] (ht : t.Proper) (hfilled : t.network.Filled)
    (hest : t.network.Priced est) : t.Answers est := by
  have hpoints : ∀ n < t.nodeCount, ∃ p ps, t.points n = .ok (p :: ps) ∧
      ∀ x ∈ p :: ps, t.network.hasPoint x = true := by
    intro n hn
    unfold points
    split
    case isTrue =>
      refine ⟨t.start.point, [], rfl, fun x hx => ?_⟩
      rw [List.mem_singleton.mp hx]
      exact ht.start_valid
    case isFalse hstart =>
      split
      case isTrue =>
        refine ⟨t.finish.point, [], rfl, fun x hx => ?_⟩
        rw [List.mem_singleton.mp hx]
        exact ht.finish_valid
      case isFalse hfinish =>
        rw [ht.start_reserved] at hstart
        rw [ht.finish_reserved] at hfinish
        rw [nodeCount] at hn
        have hjoint : n < t.network.joints.count := by omega
        obtain ⟨ps, hps⟩ := Network.exists_points hjoint
        cases ps with
        | nil => exact absurd rfl (hfilled n [] hps)
        | cons p ps =>
          exact ⟨p, ps, hps, fun x hx => ht.consistent.valid
            ((ht.consistent.mem_points_iff hps).mp hx)⟩
  refine ⟨hpoints, fun n hn => ?_, fun n hn d => ?_⟩
  · obtain ⟨p, ps, hps, hvalid⟩ := hpoints n hn
    rw [geometry_of_points hps]
    exact Network.geometry_of_hasPoint (hvalid p List.mem_cons_self)
  · have hg := ht.domain hest
    have hedges : t.edges est d n = .ok ((t.graph est).edgesOrNone d n) := hg.edges_eq hn d
    exact ⟨_, hedges, fun e he => hg.stays hn he⟩

/-- Every search answers with nodes of the trip. -/
theorem Proper.search_answers [Cost W] (ht : t.Proper) (hfilled : t.network.Filled)
    (hest : t.network.Priced est) (algorithm : Algorithm) :
    ∃ answer, t.search est t.start.node t.finish.node algorithm = .ok answer ∧
      ∀ path ∈ answer, ∀ n ∈ path.joints, t.IsNode n := by
  have hg := ht.domain hest
  cases algorithm with
  | dijkstra =>
    exact Search.BestFirst.search_answers hg isNode_start fun _ _ => ⟨0, rfl⟩
  | aStar =>
    refine Search.BestFirst.search_answers hg isNode_start fun n hn => ?_
    have hanswers := ht.answers hfilled hest
    obtain ⟨x, hx⟩ := hanswers.geometry n (ht.lt_nodeCount hn)
    obtain ⟨z, hz⟩ := hanswers.geometry t.finish.node (ht.lt_nodeCount isNode_finish)
    exact ⟨_, bound_eq hx hz⟩
  | bidirectionalDijkstra =>
    exact Search.TwoSided.search_answers hg isNode_start isNode_finish

end Trip

/-! ## Routes -/

/-- The road points of the route exist, they lie where the route says, and its joints are those of the
    network or the two reserved numbers. -/
structure Route.Fits (net : Network K) (route : Route K W) : Prop where
  points_exist : ∀ p ∈ route.roadPoints, net.hasPoint p = true
  geometry : List.Forall₂ (fun p x => net.geometry p = .ok x) route.roadPoints route.points
  joints_lt : ∀ n ∈ route.joints, n < net.joints.count + 2

namespace Router

variable [Cost W] {r : Router K W} {request : Request K}

theorem route_ne_missing (hnet : r.network.Consistent) (hfilled : r.network.Filled)
    (hest : r.network.Priced r.estimator) (hfind : r.find.Stored) (what : Missing) :
    r.route request ≠ .error (.missing what) := by
  intro hroute
  have hout : r.Outcome request _ := route_outcome hnet hest
  rw [hroute] at hout
  cases hout with
  | unresolved h =>
    cases h with
    | missing hnot => exact hnot hfind
  | missing hp hq hsearch =>
    obtain ⟨answer, hanswer, -⟩ := (Trip.proper_between hnet hp hq).search_answers hfilled hest
      (request.algorithm.getD r.options.algorithm)
    cases hsearch.symm.trans hanswer

theorem fits_of_route (hnet : r.network.Consistent) (hfilled : r.network.Filled)
    (hest : r.network.Priced r.estimator) {route : Route K W}
    (hroute : r.route request = .ok route) : route.Fits r.network := by
  have hout : r.Outcome request _ := route_outcome hnet hest
  rw [hroute] at hout
  cases hout with
  | found hp hq hsearch hvalid hxs =>
    have ht := Trip.proper_between hnet hp hq
    obtain ⟨answer, hanswer, hnodes⟩ := ht.search_answers hfilled hest
      (request.algorithm.getD r.options.algorithm)
    obtain rfl := Except.ok.inj (hanswer.symm.trans hsearch)
    exact ⟨hvalid, forall₂_of_mapM hxs, fun n hn => ht.lt_nodeCount (hnodes _ rfl n hn)⟩

/-- On a network that was built, with the estimator of a car or any other that answers on its roads,
    and with any index that finds points which it holds, every lookup is of something that exists: those
    of the nodes of any trip, and all those that are made for a request. A route that is found fits the
    network. -/
theorem route_looks_up_what_exists [LE K] [DecidableLE K] [Zero K] [Add K] [Mul K] [Div K]
    {net : Network K} {roads : Array (Road K)} {joints : List (List RoadPoint)}
    (hnet : Network.build roads joints = .ok net) :
    (∀ distance unit (cost : K → W) cap, net.Priced (Car.estimator distance unit cost cap)) ∧
    ∀ est : Estimator K W, net.Priced est →
      (∀ p q, net.hasPoint p = true → net.hasPoint q = true →
        (Trip.between net p q).Answers est) ∧
      ∀ find distance options request,
        (find.Stored → ∀ what, (⟨net, find, distance, est, options⟩ : Router K W).route request ≠
          .error (.missing what)) ∧
        ∀ route, (⟨net, find, distance, est, options⟩ : Router K W).route request = .ok route →
          route.Fits net := by
  have hconsistent := Network.consistent_of_build hnet
  have hfilled := Network.filled_of_build hnet
  refine ⟨net.priced_car, fun est hest => ⟨fun p q hp hq => ?_,
    fun find distance options request => ⟨fun hfind => ?_, fun route hroute => ?_⟩⟩⟩
  · exact (Trip.proper_between hconsistent hp hq).answers hfilled hest
  · exact route_ne_missing hconsistent hfilled hest hfind
  · exact fits_of_route hconsistent hfilled hest hroute

/-- From a place at the end of a road straight past a joint, between two numbers reserved for the
    endpoints. -/
theorem route_looks_up_what_exists_sample :
    ∃ net, Network.build Network.sampleRoads Network.sampleJoints = .ok net ∧
      (∀ request what, (sample net).route request ≠ .error (.missing what)) ∧
      ∃ route, (sample net).route ⟨.coordinates ⟨0, 0⟩, .roadPoint ⟨0, 2⟩, none⟩ = .ok route ∧
        route.joints = [2, 3] ∧ route.roadPoints = [⟨0, 0⟩, ⟨0, 1⟩, ⟨0, 2⟩] ∧ route.Fits net := by
  obtain ⟨net, hnet, hroute⟩ : ∃ net,
      Network.build Network.sampleRoads Network.sampleJoints = .ok net ∧
      (sample net).route ⟨.coordinates ⟨0, 0⟩, .roadPoint ⟨0, 2⟩, none⟩ =
        .ok ⟨[2, 3], [⟨0, 0⟩, ⟨0, 1⟩, ⟨0, 2⟩], [⟨0, 0⟩, ⟨0, 1⟩, ⟨0, 2⟩], 2⟩ :=
    ⟨_, rfl, rfl⟩
  have hroutes := ((route_looks_up_what_exists hnet).2 Network.sampleEstimator
    (Network.priced_sample net)).2 .scan (sample net).distance (sample net).options
  exact ⟨net, hnet, fun request => (hroutes request).1 Lookup.scan_stored, _, hroute, rfl, rfl,
    (hroutes _).2 _ hroute⟩

end Router

end RoadRouting
