import Mathlib.Algebra.Order.Monoid.Unbundled.WithTop
import Mathlib.Algebra.Ring.Int.Defs
import RoadRouting.Proofs.Router
import RoadRouting.Proofs.Search.Simple

/-!
# Endpoints at the ends of a path

An endpoint of a trip that is no joint is a node under a number of its own, with edges to the joints
around it, so a walk could pass through it on the way. A path does not: its nodes are distinct, and it
leads from the one endpoint to the other.

* `Trip.ReservesEnds`: the reserved numbers stand at the ends of a path only.
* `Trip.no_node_twice`: no search answers with a node twice.
-/

namespace RoadRouting.Trip

open Search (BestFirst.search TwoSided.search dijkstra)

variable {ε K W V : Type} {t : Trip K}

/-- Only the first and the last node of a path may have a number reserved for an endpoint. -/
def ReservesEnds (t : Trip K) (path : Search.Path W) : Prop :=
  ∀ i n, path.joints[i]? = some n → n = t.start.reserved ∨ n = t.finish.reserved →
    i = 0 ∨ i + 1 = path.joints.length

/-- A node of the trip under a reserved number is an endpoint. -/
theorem Proper.reservesEnds (ht : t.Proper) {path : Search.Path W}
    (hsimple : path.Simple t.start.node t.finish.node) (hmem : ∀ n ∈ path.joints, t.IsNode n) :
    t.ReservesEnds path := by
  intro i n hi hn
  refine hsimple.at_end hi ((hmem n (List.mem_of_getElem? hi)).resolve_left ?_)
  rw [ht.start_reserved, ht.finish_reserved] at hn
  omega

/-- Whatever the costs and the estimates are, a search from one end answers with a path that passes
    through no endpoint. -/
theorem Proper.reservesEnds_of_search [Cost W] {est : Estimator K W}
    {estimate : Nat → Except Missing W} {path : Search.Path W} (ht : t.Proper)
    (hest : t.network.Priced est) (hids : t.network.joints.count + 1 < noJoint)
    (h : BestFirst.search (t.graph est) estimate t.start.node t.finish.node = .ok (some path)) :
    t.ReservesEnds path := by
  have hg := ht.domain hest
  have hsimple := Search.BestFirst.search_simple hg (ht.ne_noJoint hids) isNode_start h
  exact ht.reservesEnds hsimple
    (hsimple.mem isNode_start (Search.BestFirst.search_isChain hg isNode_start h))

/-- So does the search from both ends where no weight is negative. -/
theorem Proper.reservesEnds_of_search_both [LinearOrderedAddCommMonoidWithTop V]
    {est : Estimator K V} {path : Search.Path V} (ht : t.Proper) (hest : t.network.Priced est)
    (hnonneg : est.NonNegative) (hids : t.network.joints.count + 1 < noJoint)
    (h : TwoSided.search (t.graph est) t.start.node t.finish.node = .ok (some path)) :
    t.ReservesEnds path := by
  have hg := ht.domain hest
  have hsimple := Search.TwoSided.search_simple hg (ht.nonNegative hest hnonneg)
    (ht.ne_noJoint hids) isNode_start isNode_finish h
  exact ht.reservesEnds hsimple
    (hsimple.mem isNode_start (Search.TwoSided.search_isChain hg isNode_start isNode_finish h))

/-- A search from one end answers with distinct joints, whatever weights and estimates are, and even if
    costs obey no laws. So does the search from both ends if weights are exact and not negative. A path
    of a trip between two existing road points therefore passes through no reserved number. -/
theorem no_node_twice [Cost W] [LinearOrderedAddCommMonoidWithTop V] :
    (∀ (g : Graph ε W) (P : Nat → Prop) start goal path, g.Domain P → (∀ n, P n → n ≠ noJoint) →
      P start →
      (∀ estimate, BestFirst.search g estimate start goal = .ok (some path) →
        path.joints.Nodup) ∧
      (dijkstra g start goal = .ok (some path) → path.joints.Nodup)) ∧
    (∀ (g : Graph ε V) (P : Nat → Prop) start goal path, g.Domain P → g.NonNegative P →
      (∀ n, P n → n ≠ noJoint) → P start → P goal →
      TwoSided.search g start goal = .ok (some path) → path.joints.Nodup) ∧
    ∀ roads joints (net : Network K) p q, Network.build roads joints = .ok net →
      net.joints.count + 1 < noJoint → net.hasPoint p = true → net.hasPoint q = true →
      let t := between net p q
      (∀ (est : Estimator K W) path, net.Priced est →
        (∀ estimate, BestFirst.search (t.graph est) estimate t.start.node t.finish.node =
          .ok (some path) → t.ReservesEnds path) ∧
        (dijkstra (t.graph est) t.start.node t.finish.node = .ok (some path) →
          t.ReservesEnds path)) ∧
      ∀ (est : Estimator K V) path, net.Priced est → est.NonNegative →
        TwoSided.search (t.graph est) t.start.node t.finish.node = .ok (some path) →
        t.ReservesEnds path := by
  refine ⟨?oneEnd, ?bothEnds, ?trips⟩
  case oneEnd =>
    intro g P start goal path hg hid hs
    exact ⟨fun estimate h => (Search.BestFirst.search_simple hg hid hs h).nodup,
      fun h => (Search.dijkstra_simple hg hid hs h).nodup⟩
  case bothEnds =>
    intro g P start goal path hg hw hid hs ht h
    exact (Search.TwoSided.search_simple hg hw hid hs ht h).nodup
  case trips =>
    intro roads joints net p q hnet hids hp hq t
    have ht : t.Proper := proper_between (Network.consistent_of_build hnet) hp hq
    constructor
    · intro est path hest
      exact ⟨fun estimate h => ht.reservesEnds_of_search hest hids h,
        fun h => ht.reservesEnds_of_search hest hids h⟩
    · exact fun est path hest hnonneg h => ht.reservesEnds_of_search_both hest hnonneg hids h

/-- Around a cycle with a negative weight, around one whose weights are zero, and from an endpoint past
    a joint to the other endpoint. -/
theorem no_node_twice_samples :
    let g : Graph Empty (WithTop ℤ) :=
      .ofArcs [(0, 1, (2 : ℤ)), (1, 2, (-3 : ℤ)), (2, 0, (1 : ℤ)), (2, 3, (4 : ℤ)), (0, 3, ⊤)]
    let z : Graph Empty ℕ∞ := .ofArcs [(0, 1, 0), (1, 2, 0), (2, 1, 0), (2, 3, 0), (3, 0, 0)]
    (∃ path, BestFirst.search g (fun n => .ok (n : ℤ)) 0 3 = .ok (some path) ∧
      path.joints.Nodup) ∧
    (∃ path, dijkstra g 0 3 = .ok (some path) ∧ path.joints.Nodup) ∧
    (∃ path, TwoSided.search z 0 3 = .ok (some path) ∧ path.joints.Nodup) ∧
    ∃ net, Network.build Network.sampleRoads Network.sampleJoints = .ok net ∧
      ∀ algorithm, ∃ path, (between net ⟨0, 0⟩ ⟨0, 2⟩).search Network.sampleEstimator
        (between net ⟨0, 0⟩ ⟨0, 2⟩).start.node (between net ⟨0, 0⟩ ⟨0, 2⟩).finish.node
        algorithm = .ok (some path) ∧ (between net ⟨0, 0⟩ ⟨0, 2⟩).ReservesEnds path := by
  intro g z
  have hid : ∀ n, n < 4 → n ≠ noJoint := by
    intro n hn
    rw [noJoint]
    omega
  have hgraphs := no_node_twice (ε := Empty) (K := Nat) (W := WithTop ℤ) (V := ℕ∞)
  have htrips := (no_node_twice (ε := Empty) (K := Nat) (W := ℕ∞) (V := ℕ∞)).2.2
  obtain ⟨path₁, h₁⟩ : ∃ path, BestFirst.search g (fun n => .ok (n : ℤ)) 0 3 = .ok (some path) :=
    ⟨_, rfl⟩
  obtain ⟨path₂, h₂⟩ : ∃ path, dijkstra g 0 3 = .ok (some path) := ⟨_, rfl⟩
  obtain ⟨path₃, h₃⟩ : ∃ path, TwoSided.search z 0 3 = .ok (some path) := ⟨_, rfl⟩
  have hone := fun path => hgraphs.1 g (· < 4) 0 3 path (Graph.domain_ofArcs (by decide)) hid
    (by decide)
  have hboth := hgraphs.2.1 z (· < 4) 0 3 path₃ (Graph.domain_ofArcs (by decide))
    (Graph.nonNegative_ofArcs fun _ _ => zero_le) hid (by decide) (by decide)
  refine ⟨⟨path₁, h₁, (hone path₁).1 _ h₁⟩, ⟨path₂, h₂, (hone path₂).2 h₂⟩,
    ⟨path₃, h₃, hboth h₃⟩, ?_⟩
  obtain ⟨net, hnet, hcount, hfirst, hsecond, hsearch⟩ : ∃ net,
      Network.build Network.sampleRoads Network.sampleJoints = .ok net ∧ net.joints.count = 2 ∧
      net.hasPoint ⟨0, 0⟩ = true ∧ net.hasPoint ⟨0, 2⟩ = true ∧
      ∀ algorithm, ∃ path, (between net ⟨0, 0⟩ ⟨0, 2⟩).search Network.sampleEstimator
        (between net ⟨0, 0⟩ ⟨0, 2⟩).start.node (between net ⟨0, 0⟩ ⟨0, 2⟩).finish.node
        algorithm = .ok (some path) :=
    ⟨_, rfl, rfl, rfl, rfl, fun algorithm => by cases algorithm <;> exact ⟨_, rfl⟩⟩
  have hids : net.joints.count + 1 < noJoint := by
    rw [hcount, noJoint]
    omega
  obtain ⟨honeEnd, hbothEnds⟩ := htrips _ _ net _ _ hnet hids hfirst hsecond
  refine ⟨net, hnet, fun algorithm => ?_⟩
  obtain ⟨path, hpath⟩ := hsearch algorithm
  have hest : net.Priced Network.sampleEstimator := Network.priced_sample net
  refine ⟨path, hpath, ?_⟩
  cases algorithm with
  | dijkstra => exact (honeEnd _ path hest).2 hpath
  | aStar => exact (honeEnd _ path hest).1 _ hpath
  | bidirectionalDijkstra => exact hbothEnds _ path hest (fun _ => zero_le) hpath

end RoadRouting.Trip
