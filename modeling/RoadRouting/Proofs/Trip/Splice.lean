import RoadRouting.Proofs.Graph.Distance
import RoadRouting.Proofs.Trip.Drive

/-!
# Endpoints are no shortcuts

An endpoint that is no joint becomes a node of its own, with edges to the joints around it and to the
other endpoint. A walk from joint to joint may go through both endpoints any number of times, and
straight from the one to the other past the joints that lie in between. It is a drive all the same.
The same drive belongs to a trip between the two joints, which adds no nodes, so a walk over the edges
of the network follows it at no greater cost.

* `Network.graph`: the joints of a network with their edges.
* `Trip.Proper.joint_edges_subset`: a trip keeps the edges between joints.
* `Trip.Proper.network_walk`: a walk of a trip between joints is followed by one over joints.
* `Trip.splicing_keeps_distances`: joints are as far apart in a trip as in the network.
-/

namespace RoadRouting

variable {K W : Type}

/-! ## The graph of joints -/

/-- The joints of a network with the edges between them. -/
def Network.graph (net : Network K) (est : Estimator K W) : Graph Missing W where
  nodes := List.range net.joints.count
  edges := net.edges est
  edges_eq_nil := by
    intro d n es hn h
    rw [List.mem_range, Nat.not_lt] at hn
    rw [Network.edges_error hn] at h
    cases h

/-- No edge of a joint leads out of the network. -/
theorem Network.domain [Zero W] {net : Network K} {est : Estimator K W} (hnet : net.Consistent)
    (hest : net.Priced est) : (net.graph est).Domain (· < net.joints.count) where
  lists {n} hn d := by
    obtain ⟨ps, hps⟩ := Network.exists_points hn
    exact ⟨_, Network.edges_eq hnet hest hps⟩
  stays {n} hn {d e} he := by
    obtain ⟨ps, hps⟩ := Network.exists_points hn
    rw [Graph.edgesOrNone_eq (Network.edges_eq hnet hest hps)] at he
    obtain ⟨l, hl, rfl⟩ := List.mem_map.mp he
    obtain ⟨p, -, hl⟩ := List.mem_flatMap.mp hl
    obtain ⟨-, ⟨j, hj⟩, -⟩ := Network.mem_legsAround.mp hl
    rw [Network.edgeOver, hj, Option.getD_some]
    exact hnet.lt_count hj

namespace Trip

variable {t : Trip K} {est : Estimator K W} {d : Direction} {u v : Nat}

/-! ## Edges of joints -/

theorem Proper.joint_edges_subset [Zero W] (ht : t.Proper) (hest : t.network.Priced est)
    (hu : u < t.network.joints.count) (d : Direction) :
    (t.network.graph est).edgesOrNone d u ⊆ (t.graph est).edgesOrNone d u := by
  obtain ⟨L, -, hedges⟩ := ht.edges_spec hest (.inl hu) d
  have hgraph := hedges
  rw [edges, ht.start_reserved, ht.finish_reserved, if_neg (by omega), if_neg (by omega)] at hedges
  obtain ⟨own, hown, hedges⟩ := bind_eq_ok_iff.mp hedges
  obtain ⟨toStart, -, hedges⟩ := bind_eq_ok_iff.mp hedges
  obtain ⟨toFinish, -, hedges⟩ := bind_eq_ok_iff.mp hedges
  intro e he
  have hmem : e ∈ own := by rwa [Graph.edgesOrNone_eq hown] at he
  rw [Graph.edgesOrNone_eq hgraph, ← Except.ok.inj hedges]
  exact List.mem_append_left _ (List.mem_append_left _ hmem)

/-- A trip between joints lists the edges of the network. -/
theorem Proper.edges_of_joints (ht : t.Proper) (hstart : t.start.isVirtual = false)
    (hfinish : t.finish.isVirtual = false) (hu : u < t.network.joints.count) :
    t.edges est d u = t.network.edges est d u := by
  have hnone : ∀ e : Endpoint, e.isVirtual = false → t.arrivals est u e d = .ok [] := by
    intro e he
    rw [arrivals, if_neg (Bool.eq_false_iff.mp he)]
  rw [edges, ht.start_reserved, ht.finish_reserved, if_neg (by omega), if_neg (by omega),
    hnone _ hstart, hnone _ hfinish]
  cases t.network.edges est d u with
  | error what => rfl
  | ok own => simp [bind, Except.bind]

/-! ## Walks between joints -/

variable [LinearOrderedAddCommMonoidWithTop W] {nodes : List Nat} {c : W} {p q : RoadPoint}

/-- A drive from one joint to another costs no less than a walk over the edges of the network. -/
theorem network_walk_of_drive {net : Network K} (hnet : net.Consistent) (hest : net.Metered est)
    (hp : net.owners.find? p = some u) (hq : net.owners.find? q = some v)
    (h : net.Drive est p q c) :
    ∃ nodes c', (net.graph est).Walk .outgoing u nodes v c' ∧ c' ≤ c := by
  let t := between net p q
  have ht : t.Proper := proper_between hnet (hnet.valid hp) (hnet.valid hq)
  obtain ⟨nodes, c', hwalk, hle⟩ := ht.walk_of_drive hest h (nodeOf?_of_owner hq)
  have horigin : t.start.node = u :=
    Option.some.inj (ht.nodeOf?_start.symm.trans (nodeOf?_of_owner hp))
  have hstart : t.start.isVirtual = false := by
    rw [Bool.eq_false_iff, ne_eq, ht.start_isVirtual_iff]
    exact fun hnone => nomatch hp.symm.trans hnone
  have hfinish : t.finish.isVirtual = false := by
    rw [Bool.eq_false_iff, ne_eq, ht.finish_isVirtual_iff]
    exact fun hnone => nomatch hq.symm.trans hnone.1
  have hsub : ∀ n, t.IsNode n →
      (t.graph est).edgesOrNone .outgoing n ⊆ (net.graph est).edgesOrNone .outgoing n := by
    intro n hn
    have hjoint : n < net.joints.count := by
      rcases ht.isNode_cases hn with hn | ⟨-, hnone⟩ | ⟨-, hnone, -⟩
      · exact hn
      · exact nomatch hp.symm.trans hnone
      · exact nomatch hq.symm.trans hnone
    have hedges : (t.graph est).edges .outgoing n = (net.graph est).edges .outgoing n :=
      ht.edges_of_joints hstart hfinish hjoint
    rw [Graph.edgesOrNone, Graph.edgesOrNone, hedges]
    exact List.Subset.refl _
  rw [horigin] at hwalk
  have hu : t.IsNode u := .inl (hnet.lt_count hp)
  exact ⟨nodes, c', hwalk.transfer (ht.domain hest.priced) hu hsub, hle⟩

/-- A walk of a trip from joint to joint costs no less than one over the edges of the network. -/
theorem Proper.network_walk (ht : t.Proper) (hest : t.network.Metered est)
    (hfilled : t.network.Filled) (hu : u < t.network.joints.count)
    (hv : v < t.network.joints.count) (h : (t.graph est).Walk .outgoing u nodes v c) :
    ∃ nodes' c', (t.network.graph est).Walk .outgoing u nodes' v c' ∧ c' ≤ c := by
  have hpoint : ∀ {j}, j < t.network.joints.count → ∃ p, t.network.owners.find? p = some j := by
    intro j hj
    obtain ⟨ps, hps⟩ := Network.exists_points hj
    obtain ⟨p, hp⟩ := List.exists_mem_of_ne_nil ps (hfilled j ps hps)
    exact ⟨p, (ht.consistent.mem_points_iff hps).mp hp⟩
  obtain ⟨p, hp⟩ := hpoint hu
  obtain ⟨q, hq⟩ := hpoint hv
  exact network_walk_of_drive ht.consistent hest hp hq
    (ht.drive_of_walk hest (nodeOf?_of_owner hp) h (nodeOf?_of_owner hq))

/-- In a trip between two existing road points of a network that was built, any two joints are as far
    apart as in the network. -/
theorem splicing_keeps_distances {roads : Array (Road K)} {joints : List (List RoadPoint)}
    {net : Network K} (hnet : Network.build roads joints = .ok net) (hest : net.Metered est)
    (hp : net.hasPoint p = true) (hq : net.hasPoint q = true) (hu : u < net.joints.count)
    (hv : v < net.joints.count) :
    ∃ c, ((between net p q).graph est).Distance u v c ∧ (net.graph est).Distance u v c := by
  have hconsistent := Network.consistent_of_build hnet
  have ht := proper_between hconsistent hp hq
  have hjoint : (between net p q).IsNode u := .inl hu
  obtain ⟨c, hc⟩ := Graph.exists_distance (ht.domain hest.priced)
    (ht.nonNegative hest.priced hest.nonneg) (fun _ => ht.lt_nodeCount) hjoint v
  refine ⟨c, hc, hc.congr (fun hwalk => ?_) fun {nodes c} hwalk => ?_⟩
  · exact ht.network_walk hest (Network.filled_of_build hnet) hu hv hwalk
  · refine ⟨nodes, c, hwalk.transfer (Network.domain hconsistent hest.priced) hu ?_, le_rfl⟩
    exact fun n hn => ht.joint_edges_subset hest.priced hn .outgoing

/-- Two joints on a road with an endpoint in between. -/
theorem splicing_keeps_distances_sample :
    ∃ net, Network.build Network.sampleRoads Network.sampleJoints = .ok net ∧ ∃ c < (⊤ : ℕ∞),
      ((between net ⟨0, 0⟩ ⟨0, 2⟩).graph Network.sampleEstimator).Distance 0 1 c ∧
        (net.graph Network.sampleEstimator).Distance 0 1 c := by
  obtain ⟨net, hnet, hcount, hfirst, hsecond, hedge⟩ : ∃ net,
      Network.build Network.sampleRoads Network.sampleJoints = .ok net ∧ net.joints.count = 2 ∧
      net.hasPoint ⟨0, 0⟩ = true ∧ net.hasPoint ⟨0, 2⟩ = true ∧
      ⟨1, 2⟩ ∈ (net.graph Network.sampleEstimator).edgesOrNone .outgoing 0 :=
    ⟨_, rfl, rfl, rfl, rfl, .head _⟩
  obtain ⟨c, htrip, hnetwork⟩ := splicing_keeps_distances hnet (Network.metered_sample net) hfirst
    hsecond (by omega : 0 < net.joints.count) (by omega : 1 < net.joints.count)
  have hle : c ≤ 0 + 2 := hnetwork.2 (.inr ⟨_, .step .here hedge⟩)
  exact ⟨net, hnet, c, lt_of_le_of_lt hle (ENat.natCast_lt_top 2), htrip, hnetwork⟩

end Trip

end RoadRouting
