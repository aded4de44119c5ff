import RoadRouting.Geo.Point

/-!
# Distance on the globe

The length of the great circle between two places, in metres, by the haversine formula on a
sphere of the Earth's mean radius. Every operation is rounded to binary64 in the order in which
the formula is written.
-/

namespace RoadRouting

/-- The mean radius of the Earth in metres. -/
def earthRadius : Float := 6371000.0

/-- One degree in radians. -/
def radiansPerDegree : Float := 3.141592653589793 / 180.0

/-- Metres from the place `(lat₁, lng₁)` to the place `(lat₂, lng₂)`, all in degrees. The
    difference of the longitudes is taken in degrees and that of the latitudes in radians. -/
def haversine (lat₁ lng₁ lat₂ lng₂ : Float) : Float :=
  let φ₁ := lat₁ * radiansPerDegree
  let φ₂ := lat₂ * radiansPerDegree
  let Δφ := φ₂ - φ₁
  let Δl := (lng₂ - lng₁) * radiansPerDegree
  let u := (Δφ / 2.0).sin
  let v := (Δl / 2.0).sin
  let a := u * u + φ₁.cos * φ₂.cos * (v * v)
  let c := 2.0 * Float.atan2 a.sqrt (1.0 - a).sqrt
  earthRadius * c

/-- Metres between two places along the great circle. -/
def GeoPoint.distance (p q : GeoPoint Float) : Float := haversine p.lat p.lng q.lat q.lng

end RoadRouting
