import RoadRouting.Proofs.Search.Paths
import RoadRouting.Proofs.Trip.Edges

/-!
# Legs between nodes in a row

Between two nodes with an edge there is a leg, since the edge runs over one. The search for a leg
looks at all pairs of road points and does not find the leg of the edge again, but it finds one that
goes somewhere: different nodes share no road point.

* `cheapest_spec`, `firstLeast_of_cheapest`: the choice among some items is one of them, the first
  of least cost.
* `Network.legs_eq`, `Network.legs_spec`: the candidates are the legs of all pairs of road points
  between which the roads allow one.
* `Trip.Proper.leg_spec`, `Trip.Proper.legs_spec`: nodes with edges between them have legs.
* `Trip.Proper.leg_le`: no leg between two nodes costs less than the one that is driven.
* `Trip.Proper.roadPoints_spec`: they have road points, all of which exist.
-/

namespace RoadRouting

/-! ## The choice of the cheapest -/

section Choice

variable {ε W α : Type} {cost : α → Except ε W} {price : α → W} {l : List α} {x y z : α}

section Scan

variable [LT W] [DecidableLT W]

/-- The better of two items: the later one has to cost less. -/
def cheaper (price : α → W) (best x : α) : α := if price x < price best then x else best

theorem foldl_cheaper_mem (best : α) (l : List α) : l.foldl (cheaper price) best ∈ best :: l := by
  refine List.foldlRecOn (motive := fun x => x ∈ best :: l) l _ List.mem_cons_self
    fun x hx y hy => ?_
  rw [cheaper]
  split
  · exact List.mem_cons_of_mem best hy
  · exact hx

/-- Costs are computed late, but the choice is the same. -/
theorem cheapestFrom_eq {best : α} {known : Option W} (hbest : cost best = .ok (price best))
    (hknown : known = none ∨ known = some (price best))
    (hcost : ∀ x ∈ l, cost x = .ok (price x)) :
    cheapestFrom cost best known l = .ok (l.foldl (cheaper price) best) := by
  induction l generalizing best known with
  | nil => rfl
  | cons y l ih =>
    have hy := hcost y List.mem_cons_self
    have hrest : ∀ x ∈ l, cost x = .ok (price x) := fun x hx =>
      hcost x (List.mem_cons_of_mem y hx)
    have hfrom : cheapestFrom cost best known (y :: l) =
        if price y < price best then cheapestFrom cost y (some (price y)) l
        else cheapestFrom cost best (some (price best)) l := by
      rcases hknown with rfl | rfl
      · simp only [cheapestFrom, hbest, hy, bind, Except.bind]
      · simp only [cheapestFrom, hy, bind, Except.bind]
    rw [hfrom, List.foldl_cons, cheaper]
    split
    · exact ih hy (.inr rfl) hrest
    · exact ih hbest (.inr rfl) hrest

theorem cheapest_eq (hcost : ∀ x ∈ y :: l, cost x = .ok (price x)) :
    cheapest cost (y :: l) = .ok (some (l.foldl (cheaper price) y)) := by
  rw [cheapest, cheapestFrom_eq (hcost y List.mem_cons_self) (.inl rfl) fun x hx =>
    hcost x (List.mem_cons_of_mem y hx)]
  rfl

theorem cheapest_spec (hl : l ≠ []) (hcost : ∀ x ∈ l, cost x = .ok (price x)) :
    ∃ x ∈ l, cheapest cost l = .ok (some x) := by
  cases l with
  | nil => exact absurd rfl hl
  | cons y l => exact ⟨_, foldl_cheaper_mem y l, cheapest_eq hcost⟩

end Scan

section Ranked

variable [Cost W]

/-- When two items differ in cost, every other one costs more than the cheaper or less than the
    dearer of the two. This fails for a cost that is no number. -/
def Comparable (price : α → W) (l : List α) : Prop :=
  ∀ x ∈ l, ∀ y ∈ l, ∀ z ∈ l, price x < price z → price x < price y ∨ price y < price z

/-- The first item of least cost: those before it cost more, and none after it costs less. -/
def FirstLeast (price : α → W) (x : α) (l : List α) : Prop :=
  ∃ before after, l = before ++ x :: after ∧ (∀ y ∈ before, price x < price y) ∧
    ∀ y ∈ after, ¬ price y < price x

theorem FirstLeast.unique (h : FirstLeast price x l) (h' : FirstLeast price y l) : x = y := by
  obtain ⟨before, after, hl, hbefore, hafter⟩ := h
  obtain ⟨before', after', hl', hbefore', hafter'⟩ := h'
  rcases List.append_eq_append_iff.mp (hl.symm.trans hl') with ⟨as, rfl, has⟩ | ⟨as, rfl, has⟩
  · cases as with
    | nil => exact (List.cons.inj has).1
    | cons z as =>
      obtain ⟨rfl, rfl⟩ := List.cons.inj has
      exact absurd (hbefore' x (by simp)) (hafter y (by simp))
  · cases as with
    | nil => exact (List.cons.inj has).1.symm
    | cons z as =>
      obtain ⟨rfl, rfl⟩ := List.cons.inj has
      exact absurd (hbefore y (by simp)) (hafter' x (by simp))

theorem Comparable.mono (h : Comparable price l) {l' : List α} (hsub : l' ⊆ l) :
    Comparable price l' :=
  fun x hx y hy z hz => h x (hsub hx) y (hsub hy) z (hsub hz)

/-- An item that costs no less than the one before it changes nothing. -/
theorem FirstLeast.insert (h : FirstLeast price x (y :: l)) (hprice : Comparable price (y :: z :: l))
    (hge : ¬ price z < price y) : FirstLeast price x (y :: z :: l) := by
  obtain ⟨before, after, hl, hbefore, hafter⟩ := h
  cases before with
  | nil =>
    obtain ⟨rfl, rfl⟩ := List.cons.inj hl
    exact ⟨[], z :: l, rfl, by simp, List.forall_mem_cons.mpr ⟨hge, hafter⟩⟩
  | cons y' before =>
    obtain ⟨rfl, rfl⟩ := List.cons.inj hl
    obtain ⟨hxy, hbefore⟩ := List.forall_mem_cons.mp hbefore
    have hxz : price x < price z :=
      (hprice x (by simp) z (by simp) y List.mem_cons_self hxy).resolve_right hge
    exact ⟨y :: z :: before, after, rfl,
      List.forall_mem_cons.mpr ⟨hxy, List.forall_mem_cons.mpr ⟨hxz, hbefore⟩⟩, hafter⟩

variable [RankedCost W]

theorem FirstLeast.not_lt (h : FirstLeast price x l) (hy : y ∈ l) : ¬ price y < price x := by
  obtain ⟨before, after, rfl, hbefore, hafter⟩ := h
  intro hlt
  rcases List.mem_append.mp hy with hy | hy
  · exact RankedCost.lt_irrefl _ (RankedCost.lt_trans hlt (hbefore y hy))
  · rcases List.mem_cons.mp hy with rfl | hy
    · exact RankedCost.lt_irrefl _ hlt
    · exact hafter y hy hlt

/-- An item that costs more than the one after it changes nothing. -/
theorem FirstLeast.cons (h : FirstLeast price x (y :: l)) (hprice : Comparable price (z :: y :: l))
    (hlt : price y < price z) : FirstLeast price x (z :: y :: l) := by
  have hnot := h.not_lt List.mem_cons_self
  obtain ⟨before, after, hl, hbefore, hafter⟩ := h
  have hx : x ∈ z :: y :: l := by
    rw [hl]
    simp
  have hxz : price x < price z :=
    (hprice y (by simp) x hx z List.mem_cons_self hlt).resolve_left hnot
  refine ⟨z :: before, after, by rw [hl, List.cons_append], ?_, hafter⟩
  exact List.forall_mem_cons.mpr ⟨hxz, hbefore⟩

theorem firstLeast_foldl_cheaper {best : α} (hprice : Comparable price (best :: l)) :
    FirstLeast price (l.foldl (cheaper price) best) (best :: l) := by
  induction l generalizing best with
  | nil => exact ⟨[], [], rfl, by simp, by simp⟩
  | cons y l ih =>
    rw [List.foldl_cons, cheaper]
    split
    case isTrue hlt => exact (ih (hprice.mono (List.subset_cons_self _ _))).cons hprice hlt
    case isFalse hge =>
      have hsub : best :: l ⊆ best :: y :: l :=
        List.cons_subset_cons best (List.subset_cons_self y l)
      exact (ih (hprice.mono hsub)).insert hprice hge

theorem firstLeast_of_cheapest (hprice : Comparable price l)
    (hcost : ∀ x ∈ l, cost x = .ok (price x)) (h : cheapest cost l = .ok (some x)) :
    FirstLeast price x l := by
  cases l with
  | nil => cases h
  | cons y l =>
    obtain rfl := Option.some.inj (Except.ok.inj ((cheapest_eq hcost).symm.trans h))
    exact firstLeast_foldl_cheaper hprice

end Ranked

theorem comparable [OrderedCost W] (price : α → W) (l : List α) : Comparable price l := by
  intro x _ y _ z _ hlt
  by_cases hxy : price x < price y
  · exact .inl hxy
  · exact .inr (lt_of_le_of_lt (OrderedCost.le_of_not_lt hxy) hlt)

end Choice

/-! ## Candidates -/

/-- The leg from the first point of a pair to the second, which lies on the same road. -/
def Leg.ofPair (x : RoadPoint × RoadPoint) : Leg := ⟨x.1.road, x.1.offset, x.2.offset⟩

theorem Road.forbids_eq_false_iff {K : Type} {road : Road K} {a b : Nat} :
    road.forbids a b = false ↔ (!road.oneWay || decide (a ≤ b)) = true := by
  rw [Road.forbids]
  cases road.oneWay <;> simp

namespace Network

variable {K : Type} {net : Network K} {l : Leg} {p q : RoadPoint} {ps qs : List RoadPoint}
  {x : RoadPoint × RoadPoint}

/-- The road of the leg is driven in the direction of the leg, which may go nowhere. -/
def Allows (net : Network K) (l : Leg) : Prop :=
  ∃ road, net.roads[l.road]? = some road ∧ road.routable = true ∧
    road.forbids l.first l.last = false

theorem drives_outgoing_iff : net.Drives .outgoing l ↔ net.Allows l ∧ l.first ≠ l.last := by
  have hforbids : ∀ road : Road K, l.first ≠ l.last →
      ((road.oneWay = true → (Direction.outgoing = .outgoing ↔ l.first < l.last)) ↔
        road.forbids l.first l.last = false) := by
    intro road hne
    rw [Road.forbids]
    cases road.oneWay with
    | false => simp
    | true =>
      simp
      omega
  constructor
  · rintro ⟨road, hroad, hroutable, hne, hway⟩
    exact ⟨⟨road, hroad, hroutable, (hforbids road hne).mp hway⟩, hne⟩
  · rintro ⟨⟨road, hroad, hroutable, hway⟩, hne⟩
    exact ⟨road, hroad, hroutable, hne, (hforbids road hne).mpr hway⟩

/-- Both points lie on the same routable road, and the second one does not lie before the first if
    that road is one-way. -/
def joined (net : Network K) (x : RoadPoint × RoadPoint) : Bool :=
  match net.roads[x.1.road]? with
  | some road => decide (x.1.road = x.2.road) && road.routable &&
      (!road.oneWay || decide (x.1.offset ≤ x.2.offset))
  | none => false

/-- The pairs of a first and a second point between which a road is driven, by the first point and
    then by the second. -/
def pairs (net : Network K) (ps qs : List RoadPoint) : List (RoadPoint × RoadPoint) :=
  (ps ×ˢ qs).filter net.joined

theorem ends_ofPair (h : net.joined x = true) :
    ((Leg.ofPair x).source, (Leg.ofPair x).target) = x := by
  obtain ⟨⟨r, a⟩, ⟨r', b⟩⟩ := x
  obtain rfl : r = r' := by
    unfold joined at h
    split at h
    · simp only [Bool.and_eq_true, decide_eq_true_eq] at h
      exact h.1.1
    · cases h
  rfl

theorem leg?_eq (hp : net.hasPoint p = true) :
    net.leg? p q = .ok (if net.joined (p, q) then some (Leg.ofPair (p, q)) else none) := by
  obtain ⟨road, hroad, -⟩ := hasPoint_iff.mp hp
  obtain ⟨r, a⟩ := p
  obtain ⟨r', b⟩ := q
  rw [leg?, joined, Network.road]
  simp only [hroad, bind, Except.bind, Bool.and_eq_true, decide_eq_true_eq,
    Road.forbids_eq_false_iff]
  by_cases hsame : r = r'
  · subst hsame
    simp only [if_true, true_and]
    split <;> rfl
  · simp only [hsame, if_false, false_and]

/-- The legs to choose from are those of the pairs. -/
theorem legs_eq (hps : ∀ p ∈ ps, net.hasPoint p = true) :
    net.legs ps qs = .ok ((net.pairs ps qs).map Leg.ofPair) := by
  have hmapM : ((ps ×ˢ qs).mapM fun x => net.leg? x.1 x.2) = .ok ((ps ×ˢ qs).map fun x =>
      if net.joined x then some (Leg.ofPair x) else none) := by
    refine mapM_eq_ok_map fun x hx => ?_
    exact leg?_eq (hps x.1 (List.pair_mem_product.mp hx).1)
  have hfilter : ∀ l : List (RoadPoint × RoadPoint),
      (l.map fun x => if net.joined x then some (Leg.ofPair x) else none).filterMap id =
        (l.filter net.joined).map Leg.ofPair := by
    intro l
    rw [List.filterMap_map, Function.id_comp]
    induction l with
    | nil => rfl
    | cons x l ih => cases h : net.joined x <;> simp [h, ih]
  rw [legs]
  exact bind_eq_ok_iff.mpr ⟨_, hmapM, congrArg Except.ok (hfilter _)⟩

/-- The ends of a leg that is allowed are a pair. -/
theorem joined_ends_iff : net.joined (l.source, l.target) = true ↔ net.Allows l := by
  rw [joined, Allows, Leg.source, Leg.target]
  cases hroad : net.roads[l.road]? with
  | none => simp
  | some road => simp [Road.forbids_eq_false_iff]

/-- The candidates are the legs from one of the first points to one of the second that the roads
    allow. -/
theorem legs_spec (qs : List RoadPoint) (hps : ∀ p ∈ ps, net.hasPoint p = true) :
    ∃ ls, net.legs ps qs = .ok ls ∧
      ∀ l, l ∈ ls ↔ l.source ∈ ps ∧ l.target ∈ qs ∧ net.Allows l := by
  refine ⟨_, legs_eq hps, fun l => ?_⟩
  rw [List.mem_map]
  constructor
  · rintro ⟨x, hx, rfl⟩
    obtain ⟨hmem, hjoined⟩ := List.mem_filter.mp hx
    have hends := ends_ofPair hjoined
    rw [← hends] at hmem hjoined
    exact ⟨(List.pair_mem_product.mp hmem).1, (List.pair_mem_product.mp hmem).2,
      joined_ends_iff.mp hjoined⟩
  · rintro ⟨hsource, htarget, hallows⟩
    exact ⟨(l.source, l.target), List.mem_filter.mpr
      ⟨List.pair_mem_product.mpr ⟨hsource, htarget⟩, joined_ends_iff.mpr hallows⟩, rfl⟩

end Network

/-! ## Road points on the way -/

/-- The offsets on the way lie between the two ends. -/
theorem Leg.mem_offsets {l : Leg} {o : Nat} (h : o ∈ l.offsets) : o ≤ max l.first l.last := by
  unfold offsets at h
  split at h
  · rw [List.mem_range'_1] at h
    omega
  · rw [List.mem_reverse, List.mem_range'_1] at h
    omega

namespace Network

variable {K : Type} {net : Network K} {l : Leg} {ls : List Leg} {p : RoadPoint}

theorem hasPoint_of_mem_onward (hsource : net.hasPoint l.source = true)
    (htarget : net.hasPoint l.target = true) (hp : p ∈ l.onward) : net.hasPoint p = true := by
  obtain ⟨o, ho, rfl⟩ := List.mem_map.mp hp
  rcases le_max_iff.mp (Leg.mem_offsets ho) with hle | hle
  · exact hasPoint_of_le hsource hle
  · exact hasPoint_of_le htarget hle

theorem hasPoint_of_mem_roadPoints
    (h : ∀ l ∈ ls, net.hasPoint l.source = true ∧ net.hasPoint l.target = true)
    (hp : p ∈ Leg.roadPoints ls) : net.hasPoint p = true := by
  cases ls with
  | nil => cases hp
  | cons l ls =>
    rcases List.mem_cons.mp hp with rfl | hp
    · exact (h l List.mem_cons_self).1
    · obtain ⟨l', hl', hp⟩ := List.mem_flatMap.mp hp
      exact hasPoint_of_mem_onward (h l' hl').1 (h l' hl').2 hp

end Network

namespace Trip

variable {K W : Type} {t : Trip K} {est : Estimator K W} {a b : Nat} {nodes : List Nat}

/-! ## Nodes in a row -/

/-- Two different nodes with a leg that is driven from the first to the second. -/
def Connects (t : Trip K) (a b : Nat) : Prop :=
  a ≠ b ∧ ∃ l, t.nodeOf? l.source = some a ∧ t.nodeOf? l.target = some b ∧
    t.network.Drives .outgoing l

/-- Every edge of the graph of a trip, listed at either end, runs over a leg that is driven. -/
theorem Proper.connects_of_beside [Zero W] (ht : t.Proper) (hest : t.network.Priced est)
    (h : (t.graph est).Beside t.IsNode a b) : t.Connects a b := by
  obtain ⟨ha, hb, hne, hedge⟩ := h
  have hleg : ∀ {u v d}, t.IsNode u → (∃ e ∈ (t.graph est).edgesOrNone d u, e.target = v) →
      ∃ l, t.nodeOf? l.source = some u ∧ t.nodeOf? l.target = some v ∧
        t.network.Drives d l := by
    rintro u v d hu ⟨e, he, rfl⟩
    obtain ⟨L, hL, hedges⟩ := ht.edgesOrNone_eq hest hu d
    rw [hedges] at he
    obtain ⟨l, hl, rfl⟩ := List.mem_map.mp he
    obtain ⟨hsource, ⟨v, hv⟩, hjoins⟩ := (hL.mem_iff l).mp hl
    refine ⟨l, hsource, ?_, hjoins.1⟩
    rw [edgeOver, hv, Option.getD_some]
  refine ⟨hne, ?_⟩
  rcases hedge with hedge | hedge
  · exact hleg ha hedge
  · obtain ⟨l, hsource, htarget, hdrives⟩ := hleg hb hedge
    exact ⟨l.reverse, htarget, hsource, hdrives.reverse⟩

theorem Proper.legCost_of_nodes [Zero W] (ht : t.Proper) (hest : t.network.Priced est) {l : Leg}
    (hsource : t.nodeOf? l.source = some a) (htarget : t.nodeOf? l.target = some b) :
    t.network.legCost est l = .ok (t.network.price est l) :=
  Network.legCost_eq_price hest (ht.valid_of_nodeOf? hsource) (ht.valid_of_nodeOf? htarget)

/-- The candidates between two nodes are the legs from a point of the one to a point of the other
    that the roads allow. -/
theorem Proper.candidates_spec [Zero W] (ht : t.Proper) (hest : t.network.Priced est)
    (ha : t.IsNode a) (hb : t.IsNode b) : ∃ ls, t.candidates a b = .ok ls ∧
      (∀ l ∈ ls, t.network.legCost est l = .ok (t.network.price est l)) ∧ ∀ l, l ∈ ls ↔
        t.nodeOf? l.source = some a ∧ t.nodeOf? l.target = some b ∧ t.network.Allows l := by
  obtain ⟨ps, hps, -, hmemps⟩ := ht.points_spec ha
  obtain ⟨qs, hqs, -, hmemqs⟩ := ht.points_spec hb
  obtain ⟨ls, hls, hmem⟩ := Network.legs_spec qs fun p hp =>
    ht.valid_of_nodeOf? ((hmemps p).mp hp)
  have hmem' : ∀ l, l ∈ ls ↔
      t.nodeOf? l.source = some a ∧ t.nodeOf? l.target = some b ∧ t.network.Allows l := by
    intro l
    rw [hmem, hmemps, hmemqs]
  refine ⟨ls, ?_, fun l hl => ?_, hmem'⟩
  · rw [candidates, hps, hqs]
    exact hls
  · obtain ⟨hsource, htarget, -⟩ := (hmem' l).mp hl
    exact ht.legCost_of_nodes hest hsource htarget

section Choice

variable [Cost W]

/-- The leg between two nodes is the choice among the candidates. -/
theorem leg_eq_ok_iff {l : Leg} : t.leg est a b = .ok l ↔
    ∃ ls, t.candidates a b = .ok ls ∧ cheapest (t.network.legCost est) ls = .ok (some l) := by
  unfold leg
  cases hcandidates : t.candidates a b with
  | error what => simp [Except.mapError, bind, Except.bind]
  | ok ls =>
    simp only [mapError_ok, bind, Except.bind, Except.ok.injEq, exists_eq_left']
    cases cheapest (t.network.legCost est) ls with
    | error what => simp [Except.mapError]
    | ok found => cases found <;> simp [Except.mapError]

/-- Between two nodes with an edge a leg is found, and it goes somewhere. -/
theorem Proper.leg_spec (ht : t.Proper) (hest : t.network.Priced est) (h : t.Connects a b) :
    ∃ l, t.leg est a b = .ok l ∧ t.nodeOf? l.source = some a ∧ t.nodeOf? l.target = some b ∧
      t.network.Drives .outgoing l := by
  obtain ⟨hne, l, hsource, htarget, hdrives⟩ := h
  obtain ⟨ls, hls, hcost, hmem⟩ :=
    ht.candidates_spec hest (ht.isNode_of_nodeOf? hsource) (ht.isNode_of_nodeOf? htarget)
  have hls' : ls ≠ [] := List.ne_nil_of_mem ((hmem l).mpr
    ⟨hsource, htarget, (Network.drives_outgoing_iff.mp hdrives).1⟩)
  obtain ⟨x, hx, hbest⟩ := cheapest_spec hls' hcost
  obtain ⟨hp, hq, hallows⟩ := (hmem x).mp hx
  refine ⟨x, leg_eq_ok_iff.mpr ⟨ls, hls, hbest⟩, hp, hq,
    Network.drives_outgoing_iff.mpr ⟨hallows, fun heq => hne ?_⟩⟩
  -- different nodes share no road point
  have hsame : x.source = x.target := by
    rw [Leg.source, Leg.target, heq]
  rw [hsame, hq] at hp
  exact (Option.some.inj hp).symm

theorem legs_cons_cons_eq_ok_iff {ls : List Leg} : t.legs est (a :: b :: nodes) = .ok ls ↔
    ∃ l more, t.leg est a b = .ok l ∧ l.first ≠ l.last ∧ t.legs est (b :: nodes) = .ok more ∧
      ls = l :: more := by
  rw [legs, bind_eq_ok_iff]
  constructor
  · rintro ⟨l, hl, h⟩
    split at h
    case isTrue => cases h
    case isFalse hne =>
      obtain ⟨more, hmore, h⟩ := bind_eq_ok_iff.mp h
      exact ⟨l, more, hl, hne, hmore, (Except.ok.inj h).symm⟩
  · rintro ⟨l, more, hl, hne, hmore, rfl⟩
    refine ⟨l, hl, ?_⟩
    rw [if_neg hne]
    exact bind_eq_ok_iff.mpr ⟨more, hmore, rfl⟩

theorem Proper.legs_spec (ht : t.Proper) (hest : t.network.Priced est)
    (h : nodes.IsChain t.Connects) : ∃ ls, t.legs est nodes = .ok ls ∧
      ∀ l ∈ ls, t.network.hasPoint l.source = true ∧ t.network.hasPoint l.target = true := by
  induction nodes with
  | nil => exact ⟨[], rfl, by simp⟩
  | cons a nodes ih =>
    cases nodes with
    | nil => exact ⟨[], rfl, by simp⟩
    | cons b nodes =>
      rw [List.isChain_cons_cons] at h
      obtain ⟨ls, hls, hvalid⟩ := ih h.2
      obtain ⟨l, hl, hsource, htarget, hdrives⟩ := ht.leg_spec hest h.1
      have hne : l.first ≠ l.last := (Network.drives_outgoing_iff.mp hdrives).2
      refine ⟨l :: ls, legs_cons_cons_eq_ok_iff.mpr ⟨l, ls, hl, hne, hls, rfl⟩, fun x hx => ?_⟩
      rcases List.mem_cons.mp hx with rfl | hx
      · exact ⟨ht.valid_of_nodeOf? hsource, ht.valid_of_nodeOf? htarget⟩
      · exact hvalid x hx

/-- Nodes in a row with edges between them turn into road points of the network. -/
theorem Proper.roadPoints_spec (ht : t.Proper) (hest : t.network.Priced est)
    (h : nodes.IsChain t.Connects) : ∃ ps, t.roadPoints est nodes = .ok ps ∧
      ∀ p ∈ ps, t.network.hasPoint p = true := by
  obtain ⟨ls, hls, hvalid⟩ := ht.legs_spec hest h
  match nodes with
  | [] => exact ⟨[], rfl, by simp⟩
  | [_] =>
    refine ⟨[t.start.point], rfl, fun p hp => ?_⟩
    rw [List.mem_singleton.mp hp]
    exact ht.start_valid
  | a :: b :: rest =>
    refine ⟨Leg.roadPoints ls, ?_, fun p hp => Network.hasPoint_of_mem_roadPoints hvalid hp⟩
    simp only [roadPoints, hls, bind, Except.bind]

end Choice

/-- No leg that the roads allow between two nodes costs less than the one that is driven. -/
theorem Proper.leg_le [OrderedCost W] (ht : t.Proper) (hest : t.network.Priced est) {l l' : Leg}
    (hl : t.leg est a b = .ok l) (hsource : t.nodeOf? l'.source = some a)
    (htarget : t.nodeOf? l'.target = some b) (hallows : t.network.Allows l') :
    t.network.price est l ≤ t.network.price est l' := by
  obtain ⟨ls, hls, hbest⟩ := leg_eq_ok_iff.mp hl
  obtain ⟨ls', hls', hcost, hmem⟩ :=
    ht.candidates_spec hest (ht.isNode_of_nodeOf? hsource) (ht.isNode_of_nodeOf? htarget)
  obtain rfl := Except.ok.inj (hls'.symm.trans hls)
  exact OrderedCost.le_of_not_lt ((firstLeast_of_cheapest (comparable _ _) hcost hbest).not_lt
    ((hmem l').mpr ⟨hsource, htarget, hallows⟩))

end Trip

end RoadRouting
