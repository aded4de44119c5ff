import RoadRouting.Proofs.Trip.Legs

/-!
# The choice between two nodes

All pairs of a road point of one node and a road point of another are looked at, the points of the
first node in turn. The cheapest pair is driven. Its cost is expensive to compute, so it is left
open until a second pair turns up. This changes nothing: the choice is that among the costs of all
pairs.

* `eager`: the choice, with all costs computed first.
* `Trip.Proper.leg_of_pairs`: the leg between two nodes is the choice among all pairs.
* `Trip.leg_is_first_cheapest`: so it is the first of the cheapest, and a single pair needs no cost.
-/

namespace RoadRouting

/-! ## Computing all costs first -/

section Eager

variable {ε W α β : Type} [LT W] [DecidableLT W] {cost : α → Except ε W} {price : α → W} {l : List α}

/-- The first item of least cost, with the costs of all items computed first. -/
def eager (cost : α → Except ε W) (l : List α) : Except ε (Option α) := do
  let costs ← l.mapM cost
  match l.zip costs with
  | [] => .ok none
  | x :: rest => .ok (some (rest.foldl (cheaper Prod.snd) x).1)

theorem foldl_cheaper_map (f : β → α) (y : β) (l : List β) :
    (l.map f).foldl (cheaper price) (f y) = f (l.foldl (cheaper fun x => price (f x)) y) := by
  rw [List.foldl_map]
  refine List.foldl_hom f fun x z => ?_
  rw [cheaper, cheaper]
  split <;> rfl

theorem eager_eq (hcost : ∀ x ∈ l, cost x = .ok (price x)) : eager cost l = cheapest cost l := by
  rw [eager, mapM_eq_ok_map hcost]
  cases l with
  | nil => rfl
  | cons y l =>
    have hfold : (l.map fun x => (x, price x)).foldl (cheaper Prod.snd) (y, price y) =
        (l.foldl (cheaper price) y, price (l.foldl (cheaper price) y)) :=
      foldl_cheaper_map (fun x => (x, price x)) y l
    have hzip : (y :: l).zip ((y :: l).map price) = (y, price y) :: l.map fun x => (x, price x) :=
      List.map_prod_left_eq_zip.symm
    rw [cheapest_eq hcost]
    simp only [bind, Except.bind, hzip, hfold]

end Eager

namespace Trip

variable {K W : Type} {t : Trip K} {est : Estimator K W} {a b : Nat} {ps qs : List RoadPoint}
  {l : Leg}

/-! ## The leg between two nodes -/

section AnyCost

variable [Cost W]

/-- Whatever points a number stands for, they exist. -/
theorem Proper.points_valid (ht : t.Proper) (hps : t.points a = .ok ps) :
    ∀ p ∈ ps, t.network.hasPoint p = true := by
  intro p hp
  unfold points at hps
  split at hps
  · obtain rfl := Except.ok.inj hps
    rw [List.mem_singleton.mp hp]
    exact ht.start_valid
  · split at hps
    · obtain rfl := Except.ok.inj hps
      rw [List.mem_singleton.mp hp]
      exact ht.finish_valid
    · exact ht.consistent.valid ((ht.consistent.mem_points_iff hps).mp hp)

theorem Proper.candidates_eq (ht : t.Proper) (hps : t.points a = .ok ps) (hqs : t.points b = .ok qs) :
    t.candidates a b = .ok ((t.network.pairs ps qs).map Leg.ofPair) := by
  rw [candidates, hps, hqs]
  exact Network.legs_eq (ht.points_valid hps)

theorem leg_of_candidates {ls : List Leg} {found : Option Leg} (hls : t.candidates a b = .ok ls)
    (hfound : cheapest (t.network.legCost est) ls = .ok found) :
    t.leg est a b = found.elim (.error (.noCommonRoad a b)) .ok := by
  rw [leg, hls]
  simp only [mapError_ok, bind, Except.bind, hfound]
  cases found <;> rfl

theorem Proper.legCost_of_pairs (ht : t.Proper) (hest : t.network.Priced est)
    (hps : t.points a = .ok ps) (hqs : t.points b = .ok qs) :
    ∀ l ∈ (t.network.pairs ps qs).map Leg.ofPair,
      t.network.legCost est l = .ok (t.network.price est l) := by
  intro l hl
  obtain ⟨x, hx, rfl⟩ := List.mem_map.mp hl
  obtain ⟨hmem, hjoined⟩ := List.mem_filter.mp hx
  obtain ⟨hp, hq⟩ := List.pair_mem_product.mp hmem
  obtain ⟨hsource, htarget⟩ := Prod.mk.inj (Network.ends_ofPair hjoined)
  refine Network.legCost_eq_price hest ?_ ?_
  · rw [hsource]
    exact ht.points_valid hps x.1 hp
  · rw [htarget]
    exact ht.points_valid hqs x.2 hq

/-- The leg between two nodes is the choice among the pairs, of which there may be none. -/
theorem Proper.leg_of_pairs (ht : t.Proper) (hest : t.network.Priced est)
    (hps : t.points a = .ok ps) (hqs : t.points b = .ok qs) :
    (t.network.pairs ps qs = [] ∧ t.leg est a b = .error (.noCommonRoad a b)) ∨
      ∃ x xs, t.network.pairs ps qs = x :: xs ∧ t.leg est a b = .ok (.ofPair
        (xs.foldl (cheaper fun x => t.network.price est (.ofPair x)) x)) := by
  have hls := ht.candidates_eq hps hqs
  have hcosts := ht.legCost_of_pairs hest hps hqs
  cases hpairs : t.network.pairs ps qs with
  | nil =>
    rw [hpairs] at hls
    exact .inl ⟨rfl, leg_of_candidates hls rfl⟩
  | cons x xs =>
    rw [hpairs, List.map_cons] at hls hcosts
    refine .inr ⟨x, xs, rfl, ?_⟩
    rw [leg_of_candidates hls (cheapest_eq hcosts), foldl_cheaper_map]
    rfl

theorem Proper.leg_eq_error_iff (ht : t.Proper) (hest : t.network.Priced est)
    (hps : t.points a = .ok ps) (hqs : t.points b = .ok qs) :
    t.leg est a b = .error (.noCommonRoad a b) ↔ t.network.pairs ps qs = [] := by
  rcases ht.leg_of_pairs hest hps hqs with ⟨hnil, hleg⟩ | ⟨x, xs, hcons, hleg⟩
  · simp only [hnil, hleg]
  · simp only [hcons, hleg, reduceCtorEq]

/-- Computing all costs first makes no difference. -/
theorem Proper.eager_pairs (ht : t.Proper) (hest : t.network.Priced est)
    (hps : t.points a = .ok ps) (hqs : t.points b = .ok qs) :
    eager (t.network.legCost est) ((t.network.pairs ps qs).map .ofPair) =
      .ok (t.leg est a b).toOption := by
  have hcosts := ht.legCost_of_pairs hest hps hqs
  rw [eager_eq hcosts]
  rcases ht.leg_of_pairs hest hps hqs with ⟨hnil, hleg⟩ | ⟨x, xs, hcons, hleg⟩
  · rw [hnil, hleg]
    rfl
  · rw [hcons, List.map_cons] at hcosts ⊢
    rw [cheapest_eq hcosts, foldl_cheaper_map, hleg]
    rfl

/-- With a single pair, no cost is looked at. -/
theorem Proper.leg_of_single (ht : t.Proper) (hps : t.points a = .ok ps)
    (hqs : t.points b = .ok qs) {x : RoadPoint × RoadPoint} (hx : t.network.pairs ps qs = [x])
    (est : Estimator K W) : t.leg est a b = .ok (.ofPair x) := by
  have hls := ht.candidates_eq hps hqs
  rw [hx] at hls
  exact leg_of_candidates hls rfl

end AnyCost

variable [Cost W] [RankedCost W]

/-- The leg between two nodes is the first of the cheapest. -/
theorem Proper.leg_eq_ok_iff_firstLeast (ht : t.Proper) (hest : t.network.Priced est)
    (hps : t.points a = .ok ps) (hqs : t.points b = .ok qs)
    (hprice : Comparable (fun x => t.network.price est (.ofPair x)) (t.network.pairs ps qs)) :
    t.leg est a b = .ok l ↔ FirstLeast (fun x => t.network.price est (.ofPair x))
      (l.source, l.target) (t.network.pairs ps qs) := by
  rcases ht.leg_of_pairs hest hps hqs with ⟨hnil, hleg⟩ | ⟨x, xs, hcons, hleg⟩
  · rw [hnil, hleg]
    constructor
    · intro h
      cases h
    · rintro ⟨before, after, hsplit, -⟩
      simp at hsplit
  · rw [hcons] at hprice ⊢
    have hfirst := firstLeast_foldl_cheaper hprice
    have hmem : xs.foldl (cheaper fun x => t.network.price est (.ofPair x)) x ∈
        t.network.pairs ps qs := by
      rw [hcons]
      exact foldl_cheaper_mem x xs
    rw [hleg, Except.ok.injEq]
    constructor
    · rintro rfl
      rwa [Network.ends_ofPair (List.mem_filter.mp hmem).2]
    · intro h
      rw [← h.unique hfirst]
      rfl

/-- Between two nodes of a trip, the first of the cheapest pairs of road points is driven, and there
    is no leg exactly if there is no pair. The choice is the same as if the cost of every pair were
    computed first, but a single pair is driven whatever the estimator says. -/
theorem leg_is_first_cheapest {roads : Array (Road K)} {joints : List (List RoadPoint)}
    {net : Network K} {p q : RoadPoint} (hnet : Network.build roads joints = .ok net)
    (hp : net.hasPoint p = true) (hq : net.hasPoint q = true) (hest : net.Priced est)
    (hps : (between net p q).points a = .ok ps) (hqs : (between net p q).points b = .ok qs)
    (hprice : Comparable (fun x => net.price est (.ofPair x)) (net.pairs ps qs)) :
    ((between net p q).leg est a b = .error (.noCommonRoad a b) ↔ net.pairs ps qs = []) ∧
      (∀ l, (between net p q).leg est a b = .ok l ↔
        FirstLeast (fun x => net.price est (.ofPair x)) (l.source, l.target) (net.pairs ps qs)) ∧
      eager (net.legCost est) ((net.pairs ps qs).map .ofPair) =
        .ok ((between net p q).leg est a b).toOption ∧
      ∀ x, net.pairs ps qs = [x] → ∀ est' : Estimator K W,
        (between net p q).leg est' a b = .ok (.ofPair x) := by
  have ht := proper_between (Network.consistent_of_build hnet) hp hq
  exact ⟨ht.leg_eq_error_iff hest hps hqs, fun _ => ht.leg_eq_ok_iff_firstLeast hest hps hqs hprice,
    ht.eager_pairs hest hps hqs, fun _ hx => ht.leg_of_single hps hqs hx⟩

/-- Between the two joints there is a pair on each road. Both cost the same, and the first one is
    driven. -/
theorem leg_is_first_cheapest_sample :
    ∃ net, Network.build Network.sampleRoads Network.sampleJoints = .ok net ∧
      net.pairs [⟨0, 1⟩, ⟨1, 0⟩] [⟨0, 3⟩, ⟨1, 2⟩] = [(⟨0, 1⟩, ⟨0, 3⟩), (⟨1, 0⟩, ⟨1, 2⟩)] ∧
      (between net ⟨0, 0⟩ ⟨0, 3⟩).leg Network.sampleEstimator 0 1 = .ok ⟨0, 1, 3⟩ ∧
      FirstLeast (fun x => net.price Network.sampleEstimator (.ofPair x)) (⟨0, 1⟩, ⟨0, 3⟩)
        (net.pairs [⟨0, 1⟩, ⟨1, 0⟩] [⟨0, 3⟩, ⟨1, 2⟩]) ∧
      eager (net.legCost Network.sampleEstimator) [⟨0, 1, 3⟩, ⟨1, 0, 2⟩] =
        .ok (some ⟨0, 1, 3⟩) := by
  obtain ⟨net, hnet, hfirst, hsecond, hps, hqs, hpairs, hleg⟩ : ∃ net,
      Network.build Network.sampleRoads Network.sampleJoints = .ok net ∧
      net.hasPoint ⟨0, 0⟩ = true ∧ net.hasPoint ⟨0, 3⟩ = true ∧
      (between net ⟨0, 0⟩ ⟨0, 3⟩).points 0 = .ok [⟨0, 1⟩, ⟨1, 0⟩] ∧
      (between net ⟨0, 0⟩ ⟨0, 3⟩).points 1 = .ok [⟨0, 3⟩, ⟨1, 2⟩] ∧
      net.pairs [⟨0, 1⟩, ⟨1, 0⟩] [⟨0, 3⟩, ⟨1, 2⟩] = [(⟨0, 1⟩, ⟨0, 3⟩), (⟨1, 0⟩, ⟨1, 2⟩)] ∧
      (between net ⟨0, 0⟩ ⟨0, 3⟩).leg Network.sampleEstimator 0 1 = .ok ⟨0, 1, 3⟩ :=
    ⟨_, rfl, rfl, rfl, rfl, rfl, rfl, rfl⟩
  obtain ⟨-, hchoice, heager, -⟩ := leg_is_first_cheapest hnet hfirst hsecond
    (Network.priced_sample net) hps hqs (comparable _ _)
  refine ⟨net, hnet, hpairs, hleg, (hchoice _).mp hleg, ?_⟩
  rw [hpairs, hleg] at heager
  exact heager

end Trip

end RoadRouting
