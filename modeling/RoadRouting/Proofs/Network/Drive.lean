import Mathlib.Data.ENat.Basic
import RoadRouting.Proofs.Cost.Ordered
import RoadRouting.Proofs.Network.Around

/-!
# Driving from road point to road point

A drive goes along the roads one road point at a time, and changes roads at joints. It knows nothing
of edges and nodes, so it says what a route is worth.

* `Network.Drive`: the drives from a road point, with their costs.
* `Network.Metered`: exact costs, which add up along a road.
* `Network.Metered.price_split`: the cost of a leg is that of its two parts.
* `Network.Metered.price_triangle`: a detour along the road costs no less.
* `Network.Drive.along`: a leg is driven one road point after the other.
-/

namespace RoadRouting.Network

/-! ## Drives -/

section Drives

variable {K W : Type} [Zero W] [Add W]

/-- `net.Drive est s p c`: moving between neighbouring points of roads that are driven that way, and
    changing between the points of a joint for nothing, one gets from `s` to `p` at the cost `c`. -/
inductive Drive (net : Network K) (est : Estimator K W) (s : RoadPoint) : RoadPoint → W → Prop
  | stay : Drive net est s s 0
  | ahead {r i : Nat} {road : Road K} {c w : W} : Drive net est s ⟨r, i⟩ c →
      net.roads[r]? = some road → road.routable = true → i + 1 < road.points.size →
      est.weight road i (i + 1) = .ok w → Drive net est s ⟨r, i + 1⟩ (c + w)
  | back {r i : Nat} {road : Road K} {c w : W} : Drive net est s ⟨r, i + 1⟩ c →
      net.roads[r]? = some road → road.routable = true → road.oneWay = false →
      i + 1 < road.points.size → est.weight road (i + 1) i = .ok w →
      Drive net est s ⟨r, i⟩ (c + w)
  | change {j : Nat} {ps : List RoadPoint} {p q : RoadPoint} {c : W} : Drive net est s p c →
      net.joints.points j = .ok ps → p ∈ ps → q ∈ ps → Drive net est s q c

end Drives

variable {K W : Type} [LinearOrderedAddCommMonoidWithTop W] {net : Network K}
  {est : Estimator K W} {l : Leg} {s : RoadPoint} {c : W} {r a b o : Nat}

/-! ## Costs along a road -/

/-- The estimator answers on the network. Its costs are not negative, are the same in both
    directions, and add up along a road. -/
structure Metered (net : Network K) (est : Estimator K W) : Prop where
  priced : net.Priced est
  symmetric : est.Symmetric
  nonneg : ∀ {road a b w}, est.weight road a b = .ok w → 0 ≤ w
  additive : ∀ {road a b c v w}, a < b → b < c → est.weight road a b = .ok v →
    est.weight road b c = .ok w → est.weight road a c = .ok (v + w)

namespace Metered

theorem price_nonneg (h : net.Metered est) (l : Leg) : 0 ≤ net.price est l :=
  Network.price_nonneg h.nonneg l

theorem price_comm (h : net.Metered est) (r a b : Nat) :
    net.price est ⟨r, a, b⟩ = net.price est ⟨r, b, a⟩ :=
  price_reverse h.symmetric ⟨r, b, a⟩

theorem price_add (h : net.Metered est) (hab : a < o) (hob : o < b)
    (hb : net.hasPoint ⟨r, b⟩ = true) :
    net.price est ⟨r, a, b⟩ = net.price est ⟨r, a, o⟩ + net.price est ⟨r, o, b⟩ := by
  have ho := hasPoint_of_le hb (Nat.le_of_lt hob)
  have ha := hasPoint_of_le hb (Nat.le_of_lt (Nat.lt_trans hab hob))
  obtain ⟨road, hroad, -⟩ := hasPoint_iff.mp hb
  have hweight : ∀ x y, net.hasPoint ⟨r, x⟩ = true → net.hasPoint ⟨r, y⟩ = true →
      est.weight road x y = .ok (net.price est ⟨r, x, y⟩) :=
    fun x y hx hy => weight_eq_price (l := ⟨r, x, y⟩) h.priced hroad hx hy
  have hsum := h.additive hab hob (hweight a o ha ho) (hweight o b ho hb)
  rw [hweight a b ha hb] at hsum
  exact Except.ok.inj hsum

/-- A leg costs what its two parts cost, in either direction. -/
theorem price_split (h : net.Metered est) (hbetween : (a < o ∧ o < b) ∨ (b < o ∧ o < a))
    (ha : net.hasPoint ⟨r, a⟩ = true) (hb : net.hasPoint ⟨r, b⟩ = true) :
    net.price est ⟨r, a, b⟩ = net.price est ⟨r, a, o⟩ + net.price est ⟨r, o, b⟩ := by
  rcases hbetween with ⟨hao, hob⟩ | ⟨hbo, hoa⟩
  · exact h.price_add hao hob hb
  · rw [h.price_comm r a b, h.price_add hbo hoa ha, add_comm, h.price_comm r o a,
      h.price_comm r b o]

/-- Going by way of a third point of the road costs no less. -/
theorem price_triangle (h : net.Metered est) (hne : a ≠ b)
    (ha : net.hasPoint ⟨r, a⟩ = true) (ho : net.hasPoint ⟨r, o⟩ = true)
    (hb : net.hasPoint ⟨r, b⟩ = true) :
    net.price est ⟨r, a, b⟩ ≤ net.price est ⟨r, a, o⟩ + net.price est ⟨r, o, b⟩ := by
  have hplace : a = o ∨ o = b ∨ ((a < o ∧ o < b) ∨ (b < o ∧ o < a)) ∨
      ((a < b ∧ b < o) ∨ (o < b ∧ b < a)) ∨ ((o < a ∧ a < b) ∨ (b < a ∧ a < o)) := by
    omega
  rcases hplace with rfl | rfl | hwithin | hbeyond | hbehind
  · exact le_add_of_nonneg_left (h.price_nonneg _)
  · exact le_add_of_nonneg_right (h.price_nonneg _)
  · exact le_of_eq (h.price_split hwithin ha hb)
  · rw [h.price_split hbeyond ha ho, add_assoc]
    exact le_add_of_nonneg_right (add_nonneg (h.price_nonneg _) (h.price_nonneg _))
  · rw [h.price_split hbehind ho hb, ← add_assoc]
    exact le_add_of_nonneg_left (add_nonneg (h.price_nonneg _) (h.price_nonneg _))

end Metered

/-! ## Legs as drives -/

/-- A leg of the same direction from the same point is driven as well. -/
theorem Drives.retarget {d : Direction} (h : net.Drives d l) (hne : l.first ≠ o)
    (hlt : l.first < o ↔ l.first < l.last) : net.Drives d ⟨l.road, l.first, o⟩ := by
  obtain ⟨road, hroad, hroutable, -, hway⟩ := h
  exact ⟨road, hroad, hroutable, hne, fun hone => (hway hone).trans hlt.symm⟩

/-- A leg of the same direction to the same point is driven as well. -/
theorem Drives.restart {d : Direction} (h : net.Drives d l) (hne : o ≠ l.last)
    (hlt : o < l.last ↔ l.first < l.last) : net.Drives d ⟨l.road, o, l.last⟩ := by
  obtain ⟨road, hroad, hroutable, -, hway⟩ := h
  exact ⟨road, hroad, hroutable, hne, fun hone => (hway hone).trans hlt.symm⟩

namespace Drive

/-- One move between neighbouring points. -/
theorem move (h : net.Drive est s l.source c) (hest : net.Metered est)
    (hdrives : net.Drives .outgoing l) (hnext : l.last = l.first + 1 ∨ l.first = l.last + 1)
    (hsource : net.hasPoint l.source = true) (htarget : net.hasPoint l.target = true) :
    net.Drive est s l.target (c + net.price est l) := by
  obtain ⟨road, hroad, hroutable, -, hway⟩ := hdrives
  have hweight := weight_eq_price hest.priced hroad hsource htarget
  have hfirst : l.first < road.points.size := (hasPoint_iff_of_road hroad).mp hsource
  have hlast : l.last < road.points.size := (hasPoint_iff_of_road hroad).mp htarget
  obtain ⟨r, i, i'⟩ := l
  rcases hnext with heq | heq
  · obtain rfl : i' = i + 1 := heq
    exact .ahead h hroad hroutable hlast hweight
  · obtain rfl : i = i' + 1 := heq
    have hone : road.oneWay = false := by
      cases hone : road.oneWay with
      | false => rfl
      | true =>
        have hlt : i' + 1 < i' := (hway hone).mp rfl
        omega
    exact .back h hroad hroutable hone hfirst hweight

/-- A leg is driven one road point after the other. The induction is on the number of points that
    lie in between. -/
theorem along (h : net.Drive est s l.source c) (hest : net.Metered est)
    (hdrives : net.Drives .outgoing l) (hsource : net.hasPoint l.source = true)
    (htarget : net.hasPoint l.target = true) :
    net.Drive est s l.target (c + net.price est l) := by
  obtain ⟨n, hn⟩ : ∃ n, l.last = l.first + (n + 1) ∨ l.first = l.last + (n + 1) := by
    obtain ⟨-, -, -, hne, -⟩ := hdrives
    exact ⟨(l.last - l.first) + (l.first - l.last) - 1, by omega⟩
  induction n generalizing l with
  | zero => exact h.move hest hdrives hn hsource htarget
  | succ n ih =>
    -- the point before the last one
    obtain ⟨o, ho⟩ : ∃ o, (l.last = o + 1 ∧ l.first < o ∧ o = l.first + (n + 1)) ∨
        (o = l.last + 1 ∧ o < l.first ∧ l.first = o + (n + 1)) := by
      rcases hn with hn | hn
      · exact ⟨l.first + (n + 1), .inl (by omega)⟩
      · exact ⟨l.last + 1, .inr (by omega)⟩
    let before : Leg := ⟨l.road, l.first, o⟩
    let after : Leg := ⟨l.road, o, l.last⟩
    have hvalid : net.hasPoint ⟨l.road, o⟩ = true := by
      have hle : o ≤ l.first ∨ o ≤ l.last := by omega
      rcases hle with hle | hle
      · exact hasPoint_of_le hsource hle
      · exact hasPoint_of_le htarget hle
    have hbefore : net.Drives .outgoing before := hdrives.retarget (by omega) (by omega)
    have hafter : net.Drives .outgoing after := hdrives.restart (by omega) (by omega)
    have hfirst : net.Drive est s before.target (c + net.price est before) := by
      refine ih h hbefore hsource hvalid ?_
      show o = l.first + (n + 1) ∨ l.first = o + (n + 1)
      omega
    have hnext : after.last = after.first + 1 ∨ after.first = after.last + 1 := by
      show l.last = o + 1 ∨ o = l.last + 1
      omega
    have hsecond := hfirst.move (l := after) hest hafter hnext hvalid htarget
    have hsum : net.price est l = net.price est before + net.price est after :=
      hest.price_split (by omega) hsource htarget
    rwa [add_assoc, ← hsum] at hsecond

end Drive

/-- A unit for every point that is passed adds up along a road. -/
theorem metered_sample (net : Network Nat) : net.Metered sampleEstimator where
  priced := priced_sample net
  symmetric := symmetric_sample
  nonneg _ := zero_le
  additive := by
    intro road a b c v w hab hbc hv hw
    obtain rfl := Except.ok.inj hv
    obtain rfl := Except.ok.inj hw
    have hsum : c - a + (a - c) = b - a + (a - b) + (c - b + (b - c)) := by omega
    show Except.ok ((c - a + (a - c) : Nat) : ℕ∞) = _
    rw [hsum, Nat.cast_add]

/-- Two points ahead on the first road of the sample. -/
theorem drive_sample {net : Network Nat} (hroads : net.roads = sampleRoads) :
    net.Drive sampleEstimator ⟨0, 0⟩ ⟨0, 2⟩ (0 + (1 : ℕ) + (1 : ℕ)) := by
  have hroad : net.roads[0]? =
      some (.drivable #[⟨0, 0⟩, ⟨0, 1⟩, ⟨0, 2⟩, ⟨0, 3⟩] false 50) := by
    rw [hroads]
    rfl
  exact .ahead (.ahead .stay hroad rfl (by decide) rfl) hroad rfl (by decide) rfl

end RoadRouting.Network
