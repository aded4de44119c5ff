import RoadRouting.Proofs.Router

/-!
# What the legs of a route cost

The legs between the nodes of a route are chosen anew, without a look at the edges of the search. No
leg costs more than the edge between its nodes, so all of them together cost no more than the walk
that was found. They cost no less either, since they are a drive themselves.

* `Trip.Proper.leg_of_edge`: a leg costs no more than an edge between its nodes.
* `Trip.Proper.legs_of_walk`: the legs along a walk are a drive that costs no more.
* `Trip.legs_cost_what_the_search_found`: the legs of a cheapest walk cost what the walk costs.
-/

namespace RoadRouting.Trip

variable {K W : Type} {t : Trip K} {est : Estimator K W} {nodes : List Nat} {u v : Nat} {l : Leg}
  {ls : List Leg}

/-! ## Legs of nodes in a row -/

section Rows

variable [Cost W]

/-- One more node adds one more leg. -/
theorem legs_concat (hlast : nodes.getLast? = some u) (hls : t.legs est nodes = .ok ls)
    (hl : t.leg est u v = .ok l) (hne : l.first ≠ l.last) :
    t.legs est (nodes ++ [v]) = .ok (ls ++ [l]) := by
  induction nodes generalizing ls with
  | nil => cases hlast
  | cons a nodes ih =>
    cases nodes with
    | nil =>
      obtain rfl : a = u := Option.some.inj hlast
      obtain rfl := Except.ok.inj hls
      exact legs_cons_cons_eq_ok_iff.mpr ⟨l, [], hl, hne, rfl, rfl⟩
    | cons b nodes =>
      obtain ⟨first, more, hfirst, hmoves, hmore, rfl⟩ := legs_cons_cons_eq_ok_iff.mp hls
      rw [List.getLast?_cons_cons] at hlast
      exact legs_cons_cons_eq_ok_iff.mpr ⟨first, more ++ [l], hfirst, hmoves, ih hlast hmore, rfl⟩

/-- Each leg is the one between a node and the next. -/
theorem mapM_leg_of_legs (h : t.legs est nodes = .ok ls) :
    (nodes.zip nodes.tail).mapM (fun hop => t.leg est hop.1 hop.2) = .ok ls := by
  induction nodes generalizing ls with
  | nil => exact h
  | cons a nodes ih =>
    cases nodes with
    | nil => exact h
    | cons b nodes =>
      obtain ⟨first, more, hfirst, -, hmore, rfl⟩ := legs_cons_cons_eq_ok_iff.mp h
      have hrest : ((b :: nodes).zip nodes).mapM (fun hop => t.leg est hop.1 hop.2) = .ok more :=
        ih hmore
      rw [List.tail_cons, List.zip_cons_cons, List.mapM_cons, hrest, hfirst]
      rfl

end Rows

variable [LinearOrderedAddCommMonoidWithTop W] {c w : W}

/-! ## Legs along a walk -/

/-- The leg that is driven from one node to another costs no more than an edge between them. -/
theorem Proper.leg_of_edge (ht : t.Proper) (hest : t.network.Metered est) (h : t.Connects u v)
    (hu : t.IsNode u) (hedge : ⟨v, w⟩ ∈ (t.graph est).edgesOrNone .outgoing u) :
    ∃ l, t.leg est u v = .ok l ∧ t.nodeOf? l.source = some u ∧ t.nodeOf? l.target = some v ∧
      t.network.Drives .outgoing l ∧ t.network.price est l ≤ w := by
  obtain ⟨l, hl, hsource, htarget, hdrives⟩ := ht.leg_spec hest.priced h
  obtain ⟨l', hsource', htarget', hjoins, rfl⟩ := ht.joins_of_edge hest.priced hu hedge
  refine ⟨l, hl, hsource, htarget, hdrives, ?_⟩
  rw [toll_eq_price hest.symmetric]
  exact ht.leg_le hest.priced hl hsource' htarget' (Network.drives_outgoing_iff.mp hjoins.1).1

/-- The legs along a walk from the start are a drive to the points of its last node, and cost no
    more than the walk. -/
theorem Proper.legs_of_walk (ht : t.Proper) (hest : t.network.Metered est)
    (h : (t.graph est).Walk .outgoing t.start.node nodes u c) (hchain : nodes.IsChain t.Connects) :
    ∃ ls, t.legs est nodes = .ok ls ∧
      (∀ l ∈ ls, t.network.legCost est l = .ok (t.network.price est l)) ∧
      (ls.map (t.network.price est)).sum ≤ c ∧ ∀ x, t.nodeOf? x = some u →
        t.network.Drive est t.start.point x (ls.map (t.network.price est)).sum := by
  induction h with
  | here => exact ⟨[], rfl, by simp, le_rfl, fun x hx => ht.change ht.nodeOf?_start hx .stay⟩
  | @step nodes u v c w hwalk hedge ih =>
    have hu : t.IsNode u := hwalk.last_mem_domain (ht.domain hest.priced) isNode_start
    obtain ⟨hbefore, -, hlast⟩ := List.isChain_append.mp hchain
    have hconnects : t.Connects u v := hlast u hwalk.getLast?_nodes v rfl
    obtain ⟨ls, hls, hcosts, hle, hdrive⟩ := ih hbefore
    obtain ⟨l, hl, hsource, htarget, hdrives, hle'⟩ := ht.leg_of_edge hest hconnects hu hedge
    have hmoves : l.first ≠ l.last := (Network.drives_outgoing_iff.mp hdrives).2
    have hsum : ((ls ++ [l]).map (t.network.price est)).sum =
        (ls.map (t.network.price est)).sum + t.network.price est l := by
      simp
    refine ⟨ls ++ [l], legs_concat hwalk.getLast?_nodes hls hl hmoves, fun x hx => ?_, ?_,
      fun x hx => ?_⟩
    · rcases List.mem_append.mp hx with hx | hx
      · exact hcosts x hx
      · rw [List.mem_singleton.mp hx]
        exact ht.legCost_of_nodes hest.priced hsource htarget
    · rw [hsum]
      exact add_le_add hle hle'
    · rw [hsum]
      exact ht.change htarget hx ((hdrive l.source hsource).along hest hdrives
        (ht.valid_of_nodeOf? hsource) (ht.valid_of_nodeOf? htarget))

/-- The legs of a cheapest walk cost what the walk costs: no more, as each of them is chosen among
    those of the edges, and no less, as they are a drive. -/
theorem Proper.legs_of_cheapest (ht : t.Proper) (hest : t.network.Metered est)
    {path : Search.Path W} (hchain : path.joints.IsChain t.Connects)
    (h : (t.graph est).Cheapest t.start.node t.finish.node (some path)) :
    ∃ ls, t.legs est path.joints = .ok ls ∧
      (∀ l ∈ ls, t.network.legCost est l = .ok (t.network.price est l)) ∧
      (ls.map (t.network.price est)).sum = path.weight := by
  have hleast := ht.isLeast_of_cheapest hest h
  cases h with
  | walk hwalk _ _ =>
    obtain ⟨ls, hls, hcosts, hle, hdrive⟩ := ht.legs_of_walk hest hwalk hchain
    exact ⟨ls, hls, hcosts, le_antisymm hle (hleast.2 (hdrive _ ht.nodeOf?_finish))⟩

/-- In a trip between two existing road points of a network that was built, the legs chosen between
    the nodes of an answer cost together what the search has told, when it searched without an
    estimate. -/
theorem legs_cost_what_the_search_found {roads : Array (Road K)} {joints : List (List RoadPoint)}
    {net : Network K} {p q : RoadPoint} {algorithm : Algorithm} {path : Search.Path W}
    (hnet : Network.build roads joints = .ok net) (hest : net.Metered est)
    (hids : net.joints.count + 1 < noJoint) (hp : net.hasPoint p = true)
    (hq : net.hasPoint q = true) (halgorithm : algorithm ≠ .aStar)
    (h : (between net p q).search est (between net p q).start.node (between net p q).finish.node
      algorithm = .ok (some path)) :
    ∃ ls ws, (path.joints.zip path.joints.tail).mapM
          (fun hop => (between net p q).leg est hop.1 hop.2) = .ok ls ∧
      (between net p q).legs est path.joints = .ok ls ∧
      ls.mapM (net.legCost est) = .ok ws ∧ ws.sum = path.weight := by
  have ht := proper_between (Network.consistent_of_build hnet) hp hq
  obtain ⟨answer, hsearch, hcheapest⟩ := ht.search_spec hest hids halgorithm
  obtain rfl := Except.ok.inj (hsearch.symm.trans h)
  have hchain := ht.search_isChain hest.priced isNode_start isNode_finish h
  obtain ⟨ls, hls, hcosts, hsum⟩ := ht.legs_of_cheapest hest hchain hcheapest
  exact ⟨ls, _, mapM_leg_of_legs hls, hls, mapM_eq_ok_map hcosts, hsum⟩

/-- Past a joint of two roads. The legs from there to the next joint cost the same on both, and the
    first of them is driven. -/
theorem legs_cost_what_the_search_found_sample :
    ∃ net, Network.build Network.sampleRoads Network.sampleJoints = .ok net ∧
      (between net ⟨0, 0⟩ ⟨0, 3⟩).search Network.sampleEstimator
        (between net ⟨0, 0⟩ ⟨0, 3⟩).start.node (between net ⟨0, 0⟩ ⟨0, 3⟩).finish.node
        .bidirectionalDijkstra = .ok (some ⟨[2, 0, 1], 3, 2⟩) ∧
      ∃ ls ws, [(2, 0), (0, 1)].mapM
            (fun hop => (between net ⟨0, 0⟩ ⟨0, 3⟩).leg Network.sampleEstimator hop.1 hop.2) =
          .ok ls ∧
        (between net ⟨0, 0⟩ ⟨0, 3⟩).legs Network.sampleEstimator [2, 0, 1] = .ok ls ∧
        ls.mapM (net.legCost Network.sampleEstimator) = .ok ws ∧ ws.sum = 3 := by
  obtain ⟨net, hnet, hcount, hfirst, hsecond, hsearch⟩ : ∃ net,
      Network.build Network.sampleRoads Network.sampleJoints = .ok net ∧
      net.joints.count = 2 ∧ net.hasPoint ⟨0, 0⟩ = true ∧ net.hasPoint ⟨0, 3⟩ = true ∧
        (between net ⟨0, 0⟩ ⟨0, 3⟩).search Network.sampleEstimator
          (between net ⟨0, 0⟩ ⟨0, 3⟩).start.node (between net ⟨0, 0⟩ ⟨0, 3⟩).finish.node
          .bidirectionalDijkstra = .ok (some ⟨[2, 0, 1], 3, 2⟩) :=
    ⟨_, rfl, rfl, rfl, rfl, rfl⟩
  have hids : net.joints.count + 1 < noJoint := by
    rw [hcount, noJoint]
    omega
  exact ⟨net, hnet, hsearch, legs_cost_what_the_search_found hnet (Network.metered_sample net) hids
    hfirst hsecond (by decide) hsearch⟩

end RoadRouting.Trip
