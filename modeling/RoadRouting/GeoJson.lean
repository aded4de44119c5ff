import RoadRouting.Json.Number
import RoadRouting.Json.Printer
import RoadRouting.Router

/-!
# Routes in GeoJSON

A route is a feature: its geometry is the line of its coordinates, longitude first, and its
properties are its road points and its weight.
-/

namespace RoadRouting.Route

open Json (writeNumber)

/-- The feature of a route. -/
def feature (r : Route Float Float) : Json :=
  .ofFields [
    ("type", .ofText "Feature"),
    ("geometry", .ofFields [
      ("type", .ofText "LineString"),
      ("coordinates", .array (r.points.map fun p =>
        .array [writeNumber p.toPlane.1, writeNumber p.toPlane.2]))]),
    ("properties", .ofFields [
      ("road_points", .array (r.roadPoints.map fun p => .ofText p.text)),
      ("weight", writeNumber r.weight)])]

/-- The collection of the features of some routes. -/
def collection (routes : List (Route Float Float)) : Json :=
  .ofFields [("type", .ofText "FeatureCollection"), ("features", .array (routes.map feature))]

end RoadRouting.Route
