import Mathlib.Data.ENat.Basic
import RoadRouting.Proofs.Cost.Ordered
import RoadRouting.Proofs.Network.Build
import RoadRouting.Trip.Legs

/-!
# Legs and the joints around a road point

Every edge runs along a leg: a stretch of one road. Which legs are driven depends on the road alone,
and a leg that is driven one way is seen from its end as arriving.

* `Network.Drives`: a leg is driven on a side.
* `Network.legsAround`: the legs from a road point to the joints around it.
* `Network.mem_legsAround`: they are the driven legs to a joint with no joint in between.
* `Network.neighbours_eq`, `Network.edges_eq`: the edge lists, written with these legs.
-/

namespace RoadRouting

namespace Leg

/-- The leg in the opposite direction. -/
def reverse (l : Leg) : Leg := ⟨l.road, l.last, l.first⟩

@[simp] theorem reverse_reverse (l : Leg) : l.reverse.reverse = l := rfl

@[simp] theorem source_reverse (l : Leg) : l.reverse.source = l.target := rfl

@[simp] theorem target_reverse (l : Leg) : l.reverse.target = l.source := rfl

end Leg

namespace RoadPoint

/-- The leg from a road point to a joint on its road. -/
def legTo (p : RoadPoint) (m : Milestone) : Leg := ⟨p.road, p.offset, m.offset⟩

theorem offset_eq_of_legTo_eq (p : RoadPoint) {m m' : Milestone} (h : p.legTo m = p.legTo m') :
    m.offset = m'.offset := by
  rw [legTo, legTo, Leg.mk.injEq] at h
  exact h.2.2

end RoadPoint

/-- A stretch of a road costs the same in both directions. -/
def Estimator.Symmetric {K W : Type} (est : Estimator K W) : Prop :=
  ∀ road a b, est.weight road a b = est.weight road b a

/-- No stretch of a road has a negative cost. -/
def Estimator.NonNegative {K W : Type} [Zero W] [LE W] (est : Estimator K W) : Prop :=
  ∀ {road a b w}, est.weight road a b = .ok w → 0 ≤ w

namespace Network

variable {K W : Type} {net : Network K} {est : Estimator K W} {d : Direction} {p : RoadPoint}
  {ps : List RoadPoint} {m : Milestone} {l : Leg} {road : Road K} {j : Nat}

/-! ## Legs that are driven -/

/-- The leg is driven from its source to its target (outgoing) or from its target to its source
    (incoming), and goes somewhere. -/
def Drives (net : Network K) (d : Direction) (l : Leg) : Prop :=
  ∃ road, net.roads[l.road]? = some road ∧ road.routable = true ∧ l.first ≠ l.last ∧
    (road.oneWay = true → (d = .outgoing ↔ l.first < l.last))

theorem drives_iff_of_road (hroad : net.roads[l.road]? = some road) : net.Drives d l ↔
    road.routable = true ∧ l.first ≠ l.last ∧
      (road.oneWay = true → (d = .outgoing ↔ l.first < l.last)) := by
  constructor
  · rintro ⟨road', hroad', h⟩
    obtain rfl : road = road' := Option.some.inj (hroad.symm.trans hroad')
    exact h
  · exact fun h => ⟨road, hroad, h⟩

/-- What lies ahead is seen among outgoing edges, and on a two-way road among incoming ones too. -/
theorem sees_ahead_iff {oneWay : Bool} {a b : Nat} (hlt : a < b) :
    (d = .outgoing ∨ oneWay = false) ↔ (oneWay = true → (d = .outgoing ↔ a < b)) := by
  cases oneWay <;> simp [hlt]

/-- What lies back is seen among incoming edges, and on a two-way road among outgoing ones too. -/
theorem sees_back_iff {oneWay : Bool} {a b : Nat} (hlt : b < a) :
    (d = .incoming ∨ oneWay = false) ↔ (oneWay = true → (d = .outgoing ↔ a < b)) := by
  have hnot : ¬ a < b := by omega
  cases d <;> cases oneWay <;> simp [hnot]

theorem Drives.reverse (h : net.Drives d l) : net.Drives d.opposite l.reverse := by
  obtain ⟨road, hroad, hroutable, hne, hway⟩ := h
  refine ⟨road, hroad, hroutable, Ne.symm hne, fun hone => ?_⟩
  have hlt : l.last < l.first ↔ ¬ l.first < l.last := by omega
  rw [Leg.reverse, hlt, ← hway hone]
  cases d <;> simp [Direction.opposite]

/-! ## The cost of a leg -/

/-- The estimator answers on every stretch of every road of the network. -/
def Priced (net : Network K) (est : Estimator K W) : Prop :=
  ∀ {r a b : Nat} {road : Road K}, net.roads[r]? = some road → a < road.points.size →
    b < road.points.size → ∃ w, est.weight road a b = .ok w

/-- A unit for every point that is passed. -/
def sampleEstimator : Estimator Nat ℕ∞ where
  weight _ a b := .ok ((b - a + (a - b) : Nat) : ℕ∞)
  bound _ _ := 0

theorem priced_sample (net : Network Nat) : net.Priced sampleEstimator :=
  fun _ _ _ => ⟨_, rfl⟩

theorem symmetric_sample : sampleEstimator.Symmetric := by
  intro _ a b
  show Except.ok ((b - a + (a - b) : Nat) : ℕ∞) = .ok ((a - b + (b - a) : Nat) : ℕ∞)
  rw [Nat.add_comm]

/-- The cost of a leg, nothing where the estimator does not answer. -/
def price [Zero W] (net : Network K) (est : Estimator K W) (l : Leg) : W :=
  match net.legCost est l with
  | .ok w => w
  | .error _ => 0

theorem legCost_of_road (hroad : net.roads[l.road]? = some road) :
    net.legCost est l = est.weight road l.first l.last := by
  rw [legCost, Network.road, hroad]
  rfl

theorem price_of_weight [Zero W] {w : W} (hroad : net.roads[l.road]? = some road)
    (hw : est.weight road l.first l.last = .ok w) : net.price est l = w := by
  rw [price, legCost_of_road hroad, hw]

theorem price_nonneg [Zero W] [Preorder W] (h : est.NonNegative) (l : Leg) :
    0 ≤ net.price est l := by
  rw [price]
  split
  case h_1 w hw =>
    rw [legCost] at hw
    obtain ⟨road, -, hw⟩ := bind_eq_ok_iff.mp hw
    exact h hw
  case h_2 => exact le_rfl

theorem weight_eq_price [Zero W] (hest : net.Priced est) (hroad : net.roads[l.road]? = some road)
    (hsource : net.hasPoint l.source) (htarget : net.hasPoint l.target) :
    est.weight road l.first l.last = .ok (net.price est l) := by
  have hfirst : l.first < road.points.size := (hasPoint_iff_of_road hroad).mp hsource
  have hlast : l.last < road.points.size := (hasPoint_iff_of_road hroad).mp htarget
  obtain ⟨w, hw⟩ := hest hroad hfirst hlast
  rw [hw, price_of_weight hroad hw]

theorem legCost_eq_price [Zero W] (hest : net.Priced est) (hsource : net.hasPoint l.source)
    (htarget : net.hasPoint l.target) : net.legCost est l = .ok (net.price est l) := by
  obtain ⟨road, hroad, -⟩ := hasPoint_iff.mp hsource
  rw [legCost_of_road hroad, weight_eq_price hest hroad hsource htarget]

/-- The same cost in both directions. -/
theorem price_reverse [Zero W] (hsymm : est.Symmetric) (l : Leg) :
    net.price est l.reverse = net.price est l := by
  have hcost : net.legCost est l.reverse = net.legCost est l := by
    rw [legCost, legCost, Leg.reverse]
    cases net.road l.road with
    | error _ => rfl
    | ok road => exact hsymm road l.last l.first
  rw [price, price, hcost]

/-! ## The joints around a road point -/

/-- The joints to which a road point lists edges on a side. -/
def around (net : Network K) (d : Direction) (p : RoadPoint) : List Milestone :=
  match net.roads[p.road]? with
  | none => []
  | some road =>
    if road.routable then
      (if d = .incoming ∨ road.oneWay = false then (net.owners.before? p).toList else []) ++
        (if d = .outgoing ∨ road.oneWay = false then (net.owners.after? p).toList else [])
    else []

theorem around_eq (hroad : net.roads[p.road]? = some road) (hroutable : road.routable = true) :
    net.around d p =
      (if d = .incoming ∨ road.oneWay = false then (net.owners.before? p).toList else []) ++
        (if d = .outgoing ∨ road.oneWay = false then (net.owners.after? p).toList else []) := by
  rw [around, hroad]
  exact if_pos hroutable

/-- The joints around a point end driven legs, and no joint lies in between. -/
theorem mem_around : m ∈ net.around d p ↔
    net.owners.find? ⟨p.road, m.offset⟩ = some m.joint ∧ net.Drives d (p.legTo m) ∧
      net.owners.Clear p.road p.offset m.offset := by
  cases hroad : net.roads[p.road]? with
  | none =>
    rw [around, hroad]
    simp only [List.not_mem_nil, false_iff]
    rintro ⟨-, ⟨road, hroad', -⟩, -⟩
    rw [RoadPoint.legTo, hroad] at hroad'
    cases hroad'
  | some road =>
    have hroad' : net.roads[(p.legTo m).road]? = some road := hroad
    rw [drives_iff_of_road hroad']
    by_cases hroutable : road.routable = true
    · rw [around_eq hroad hroutable, List.mem_append, List.mem_ite_nil_right,
        List.mem_ite_nil_right, Option.mem_toList, Option.mem_toList,
        JointMap.before?_eq_some_iff, JointMap.after?_eq_some_iff]
      constructor
      · rintro (⟨hside, hfind, hlt, hclear⟩ | ⟨hside, hfind, hlt, hclear⟩)
        · exact ⟨hfind, ⟨hroutable, Nat.ne_of_gt hlt, (sees_back_iff hlt).mp hside⟩, hclear⟩
        · exact ⟨hfind, ⟨hroutable, Nat.ne_of_lt hlt, (sees_ahead_iff hlt).mp hside⟩, hclear⟩
      · rintro ⟨hfind, ⟨-, hne, hway⟩, hclear⟩
        rcases Nat.lt_or_gt_of_ne hne with hlt | hlt
        · exact .inr ⟨(sees_ahead_iff hlt).mpr hway, hfind, hlt, hclear⟩
        · exact .inl ⟨(sees_back_iff hlt).mpr hway, hfind, hlt, hclear⟩
    · rw [around, hroad]
      simp [hroutable]

/-- The joint before the point and the one beyond it are different. -/
theorem nodup_around : (net.around d p).Nodup := by
  unfold around
  split
  · exact List.nodup_nil
  · split
    case isFalse => exact List.nodup_nil
    case isTrue =>
      have hnodup : ∀ (c : Prop) [Decidable c] (x : Option Milestone),
          (if c then x.toList else []).Nodup := by
        intro c _ x
        split
        · cases x <;> simp
        · exact List.nodup_nil
      refine List.nodup_append'.mpr ⟨hnodup _ _, hnodup _ _, fun m hb ha => ?_⟩
      rw [List.mem_ite_nil_right, Option.mem_toList] at hb ha
      have hbefore := (JointMap.before?_eq_some_iff.mp hb.2).2.1
      have hafter := (JointMap.after?_eq_some_iff.mp ha.2).2.1
      omega

/-- The legs to the joints around a road point. -/
def legsAround (net : Network K) (d : Direction) (p : RoadPoint) : List Leg :=
  (net.around d p).map p.legTo

theorem mem_legsAround : l ∈ net.legsAround d p ↔ l.source = p ∧
    (∃ j, net.owners.find? l.target = some j) ∧ net.Drives d l ∧
      net.owners.Clear l.road l.first l.last := by
  rw [legsAround, List.mem_map]
  constructor
  · rintro ⟨m, hm, rfl⟩
    obtain ⟨hfind, hrest⟩ := mem_around.mp hm
    exact ⟨rfl, ⟨m.joint, hfind⟩, hrest⟩
  · rintro ⟨rfl, ⟨j, hj⟩, hrest⟩
    exact ⟨⟨l.last, j⟩, mem_around.mpr ⟨hj, hrest⟩, rfl⟩

theorem nodup_legsAround : (net.legsAround d p).Nodup := by
  refine List.Nodup.map_on (fun m hm m' hm' h => ?_) nodup_around
  obtain ⟨o, j⟩ := m
  obtain ⟨o', j'⟩ := m'
  obtain rfl : o = o' := p.offset_eq_of_legTo_eq h
  have hfind : some j = some j' := (mem_around.mp hm).1.symm.trans (mem_around.mp hm').1
  rw [Option.some.inj hfind]

/-! ## Edge lists -/

section Lists

variable [Zero W]

/-- The edge over a leg that ends at a joint. -/
def edgeOver (net : Network K) (est : Estimator K W) (l : Leg) : Edge W :=
  ⟨(net.owners.find? l.target).getD 0, net.price est l⟩

theorem neighbours_eq (hnet : net.Consistent) (hest : net.Priced est) (hp : net.hasPoint p) :
    net.neighbours est p d = .ok ((net.legsAround d p).map (net.edgeOver est)) := by
  obtain ⟨road, hroad, -⟩ := hasPoint_iff.mp hp
  have hnumber : net.road p.road = .ok road := by rw [Network.road, hroad]
  have hedge : ∀ x : Option Milestone,
      (∀ m ∈ x, net.owners.find? ⟨p.road, m.offset⟩ = some m.joint) →
      edgeTo est road p x = .ok ((x.toList.map p.legTo).map (net.edgeOver est)) := by
    intro x hx
    cases x with
    | none => rfl
    | some m =>
      have hfind : net.owners.find? (p.legTo m).target = some m.joint := hx m rfl
      have hroad' : net.roads[(p.legTo m).road]? = some road := hroad
      have hw := weight_eq_price hest hroad' hp (hnet.valid hfind)
      rw [edgeTo]
      refine bind_eq_ok_iff.mpr ⟨_, hw, ?_⟩
      simp [edgeOver, hfind]
  have hback := hedge (net.owners.before? p) fun m hm => (JointMap.before?_eq_some_iff.mp hm).1
  have hahead := hedge (net.owners.after? p) fun m hm => (JointMap.after?_eq_some_iff.mp hm).1
  unfold neighbours
  cases hroutable : road.routable with
  | false =>
    rw [legsAround, around, hroad]
    simp [hnumber, hroutable, bind, Except.bind]
  | true =>
    rw [legsAround, around_eq hroad hroutable]
    simp only [hnumber, hroutable, hback, hahead, bind, Except.bind, if_true]
    split <;> split <;> simp

theorem edges_eq (hnet : net.Consistent) (hest : net.Priced est)
    (hps : net.joints.points j = .ok ps) :
    net.edges est d j = .ok ((ps.flatMap (net.legsAround d)).map (net.edgeOver est)) := by
  have hlists : ps.mapM (fun p => net.neighbours est p d) =
      .ok (ps.map fun p => (net.legsAround d p).map (net.edgeOver est)) := by
    refine mapM_eq_ok_map fun p hp => ?_
    exact neighbours_eq hnet hest (hnet.valid ((hnet.mem_points_iff hps).mp hp))
  rw [edges, hps]
  simp only [bind, Except.bind]
  rw [hlists, List.map_flatMap, List.flatMap_def]

theorem nodup_flatMap_legsAround (hps : ps.Nodup) : (ps.flatMap (net.legsAround d)).Nodup := by
  refine List.nodup_flatMap.mpr ⟨fun p _ => nodup_legsAround, hps.imp fun hne => ?_⟩
  intro l hl hl'
  exact hne ((mem_legsAround.mp hl).1.symm.trans (mem_legsAround.mp hl').1)

/-- The straight edge is there exactly if its leg is driven. -/
theorem direct_eq (hest : net.Priced est) (hsource : net.hasPoint l.source)
    (htarget : net.hasPoint l.target) (hne : l.first ≠ l.last) [Decidable (net.Drives d l)]
    (node : Nat) : net.direct est l.road l.first l.last node d =
      .ok (if net.Drives d l then [⟨node, net.price est l⟩] else []) := by
  obtain ⟨road, hroad, -⟩ := hasPoint_iff.mp hsource
  have hroad' : net.roads[l.road]? = some road := hroad
  have hdrives : net.Drives d l ↔ road.routable = true ∧
      (road.oneWay = true → (d = .outgoing ↔ l.first < l.last)) := by
    rw [drives_iff_of_road hroad']
    exact and_congr_right fun _ => and_iff_right hne
  have hw := weight_eq_price hest hroad' hsource htarget
  rw [direct, Network.road, hroad']
  simp only [bind, Except.bind, hw, hdrives]
  cases hroutable : road.routable with
  | false => simp
  | true =>
    by_cases hway : road.oneWay = true → (d = .outgoing ↔ l.first < l.last)
    · rw [if_neg (by simp), if_neg (fun h => h.2 (hway h.1)), if_pos ⟨rfl, hway⟩]
    · rw [if_neg (by simp), if_pos (Classical.not_imp.mp hway), if_neg fun h => hway h.2]

end Lists

end Network

end RoadRouting
