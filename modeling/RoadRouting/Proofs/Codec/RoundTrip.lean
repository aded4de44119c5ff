import RoadRouting.Codec.Request
import RoadRouting.Proofs.Json.Record

/-!
# Reading back what is written

Network files, requests and options are read back from what is written of them, and from every other
spelling of it. What lacks a field without a default anywhere, or has a known field twice, is not read.

How numbers are written is left open: a value is expressible if each of its numbers is read back. In
binary64 this leaves out what is not finite, which is written as null.

For each type, `spelling` lists the fields with their defaults, independently of how they are read, and

* `readsColumns`: the type is read field by field,
* `reads`: so it is read in all its spellings, and not when a record is broken,
* `ofJson?_toJson`: an expressible value is read back.

`every_spelling_reads_back` puts these together for all that is both read and written.
-/

namespace RoadRouting

open Json (NumberFormat Spelling Column ReadsColumns forall_getElem?_cons)

variable {K : Type} {f : NumberFormat K}

/-- The number is read back from what is written of it. -/
def Json.NumberFormat.Keeps (f : NumberFormat K) (x : K) : Prop :=
  f.ofJson? (f.write x) = some x

/-! ## Points -/

namespace GeoPoint

/-- The spellings of a place. -/
def spelling : Spelling := .record [⟨"lat", none, .plain⟩, ⟨"lng", none, .plain⟩]

/-- The fields of a place. -/
def columns (f : NumberFormat K) : List (Column (GeoPoint K)) :=
  [.ofRequired "lat" (.plain f.ofJson?) (·.lat), .ofRequired "lng" (.plain f.ofJson?) (·.lng)]

theorem readsColumns (f : NumberFormat K) : ReadsColumns (columns f) (ofJson? f) := by
  refine .of_cells (fun v h => ?_) fun v p cell h => ?_
  · have h : v.record? ["lat", "lng"] = none := h
    rw [ofJson?, h]
  · have h : v.record? ["lat", "lng"] = some [cell 0, cell 1] := h
    rw [ofJson?, h]
    simp only [columns, forall_getElem?_cons, Column.ofRequired]
    obtain ⟨lat, lng⟩ := p
    -- Where a coordinate is missing, neither side allows any place.
    cases cell 0 <;> cases cell 1 <;> simp [Option.bind_eq_some_iff]

theorem reads (f : NumberFormat K) : spelling.Reads (ofJson? f) :=
  (readsColumns f).reads (by decide : ["lat", "lng"].Nodup)

/-- Both coordinates are read back. -/
def Expressible (f : NumberFormat K) (p : GeoPoint K) : Prop := f.Keeps p.lat ∧ f.Keeps p.lng

theorem ofJson?_toJson {p : GeoPoint K} (h : p.Expressible f) : ofJson? f (p.toJson f) = some p := by
  have hlat : f.ofJson? (f.write p.lat) = some p.lat := h.1
  have hlng : f.ofJson? (f.write p.lng) = some p.lng := h.2
  have hrecord : (p.toJson f).record? ["lat", "lng"] =
      some [some (f.write p.lat), some (f.write p.lng)] :=
    Json.record?_zip (by decide : ["lat", "lng"].Nodup)
      (rfl : [f.write p.lat, f.write p.lng].length = _)
  rw [ofJson?, hrecord]
  simp [hlat, hlng]

end GeoPoint

namespace RoadPoint

/-- The spellings of a road point. -/
def spelling : Spelling := .record [⟨"feature_id", none, .plain⟩, ⟨"point_id", none, .plain⟩]

/-- The fields of a road point. -/
def columns : List (Column RoadPoint) :=
  [.ofRequired "feature_id" (.plain (Json.natBelow? idLimit)) (·.road),
    .ofRequired "point_id" (.plain (Json.natBelow? idLimit)) (·.offset)]

theorem readsColumns : ReadsColumns columns ofJson? := by
  refine .of_cells (fun v h => ?_) fun v p cell h => ?_
  · have h : v.record? ["feature_id", "point_id"] = none := h
    rw [ofJson?, h]
  · have h : v.record? ["feature_id", "point_id"] = some [cell 0, cell 1] := h
    rw [ofJson?, h]
    simp only [columns, forall_getElem?_cons, Column.ofRequired]
    obtain ⟨road, offset⟩ := p
    cases cell 0 <;> cases cell 1 <;> simp [Option.bind_eq_some_iff]

theorem reads : spelling.Reads ofJson? :=
  readsColumns.reads (by decide : ["feature_id", "point_id"].Nodup)

/-- Both numbers have 32 bits. -/
def Expressible (p : RoadPoint) : Prop := p.road < idLimit ∧ p.offset < idLimit

theorem ofJson?_toJson {p : RoadPoint} (h : p.Expressible) : ofJson? p.toJson = some p := by
  obtain ⟨hroad, hoffset⟩ := h
  have hrecord : p.toJson.record? ["feature_id", "point_id"] =
      some [some (.ofNat p.road), some (.ofNat p.offset)] :=
    Json.record?_zip (by decide : ["feature_id", "point_id"].Nodup)
      (rfl : [Json.ofNat p.road, Json.ofNat p.offset].length = _)
  rw [ofJson?, hrecord]
  simp [hroad, hoffset]

end RoadPoint

/-! ## Network files -/

namespace Road

/-- The spellings of a road. -/
def spelling (f : NumberFormat K) : Spelling :=
  .record [⟨"points", none, .list GeoPoint.spelling⟩, ⟨"one_way", some (.bool false), .plain⟩,
    ⟨"is_road", some (.bool true), .plain⟩, ⟨"speed_kmh", some (f.write (f.ofNat 50)), .plain⟩]

/-- The fields of a road. -/
def columns (hspeed : f.Keeps (f.ofNat 50)) : List (Column (Road K)) :=
  [.ofRequired "points" (GeoPoint.reads f).list (·.points.toList),
    .ofOptional "one_way" (.plain Json.bool?) (rfl : Json.bool? (.bool false) = some false) (·.oneWay),
    .ofOptional "is_road" (.plain Json.bool?) (rfl : Json.bool? (.bool true) = some true) (·.routable),
    .ofOptional "speed_kmh" (.plain f.ofJson?) hspeed (·.speed)]

theorem readsColumns (hspeed : f.Keeps (f.ofNat 50)) :
    ReadsColumns (columns hspeed) (ofJson? f) := by
  refine .of_cells (fun v h => ?_) fun v r cell h => ?_
  · have h : v.record? ["points", "one_way", "is_road", "speed_kmh"] = none := h
    rw [ofJson?, h]
  · have h : v.record? ["points", "one_way", "is_road", "speed_kmh"] =
        some [cell 0, cell 1, cell 2, cell 3] := h
    rw [ofJson?, h]
    simp only [columns, forall_getElem?_cons, Column.ofRequired, Column.ofOptional]
    obtain ⟨⟨points⟩, oneWay, routable, speed⟩ := r
    cases cell 0 with
    | none => simp
    | some v =>
      simp only [Option.bind_eq_bind, Option.bind_eq_some_iff, Option.some.injEq, mk.injEq]
      constructor
      · rintro ⟨_, hpoints, _, honeWay, _, hroutable, _, hspeed, ⟨⟩, rfl, rfl, rfl⟩
        exact ⟨⟨v, rfl, hpoints⟩, honeWay, hroutable, hspeed, by simp⟩
      · rintro ⟨⟨_, rfl, hpoints⟩, honeWay, hroutable, hspeed, -⟩
        exact ⟨points, hpoints, oneWay, honeWay, routable, hroutable, speed, hspeed,
          rfl, rfl, rfl, rfl⟩

theorem reads (hspeed : f.Keeps (f.ofNat 50)) : (spelling f).Reads (ofJson? f) :=
  (readsColumns hspeed).reads (by decide : ["points", "one_way", "is_road", "speed_kmh"].Nodup)

/-- All numbers of the road are read back. -/
def Expressible (f : NumberFormat K) (r : Road K) : Prop :=
  (∀ p ∈ r.points.toList, p.Expressible f) ∧ f.Keeps r.speed

theorem ofJson?_toJson {r : Road K} (h : r.Expressible f) : ofJson? f (r.toJson f) = some r := by
  have hspeed : f.ofJson? (f.write r.speed) = some r.speed := h.2
  have hlist : (Json.array (r.points.toList.map (·.toJson f))).listOf? (GeoPoint.ofJson? f) =
      some r.points.toList :=
    Json.listOf?_map fun p hp => GeoPoint.ofJson?_toJson (h.1 p hp)
  have hrecord : (r.toJson f).record? ["points", "one_way", "is_road", "speed_kmh"] =
      some [some (.array (r.points.toList.map (·.toJson f))), some (.bool r.oneWay),
        some (.bool r.routable), some (f.write r.speed)] :=
    Json.record?_zip (by decide : ["points", "one_way", "is_road", "speed_kmh"].Nodup)
      (rfl : [Json.array (r.points.toList.map (·.toJson f)), .bool r.oneWay, .bool r.routable,
        f.write r.speed].length = _)
  rw [ofJson?, hrecord]
  simp [hlist, hspeed, Json.bool?]

end Road

namespace NetworkFile

/-- The spellings of a network file. -/
def spelling (f : NumberFormat K) : Spelling :=
  .record [⟨"roads", none, .list (Road.spelling f)⟩,
    ⟨"joints", some (.array []), .list (.list RoadPoint.spelling)⟩]

/-- The fields of a network file. -/
def columns (hspeed : f.Keeps (f.ofNat 50)) : List (Column (NetworkFile K)) :=
  [.ofRequired "roads" (Road.reads hspeed).list (·.roads),
    .ofOptional "joints" RoadPoint.reads.list.list
      (rfl : Json.listOf? (Json.listOf? RoadPoint.ofJson?) (.array []) = some []) (·.joints)]

theorem readsColumns (hspeed : f.Keeps (f.ofNat 50)) :
    ReadsColumns (columns hspeed) (ofJson? f) := by
  refine .of_cells (fun v h => ?_) fun v file cell h => ?_
  · have h : v.record? ["roads", "joints"] = none := h
    rw [ofJson?, h]
  · have h : v.record? ["roads", "joints"] = some [cell 0, cell 1] := h
    rw [ofJson?, h]
    simp only [columns, forall_getElem?_cons, Column.ofRequired, Column.ofOptional]
    obtain ⟨roads, joints⟩ := file
    cases cell 0 <;> simp [Option.bind_eq_some_iff]

theorem reads (hspeed : f.Keeps (f.ofNat 50)) : (spelling f).Reads (ofJson? f) :=
  (readsColumns hspeed).reads (by decide : ["roads", "joints"].Nodup)

/-- All numbers of the roads are read back, and those of the joints have 32 bits. -/
def Expressible (f : NumberFormat K) (file : NetworkFile K) : Prop :=
  (∀ r ∈ file.roads, r.Expressible f) ∧ ∀ ps ∈ file.joints, ∀ p ∈ ps, p.Expressible

theorem ofJson?_toJson {file : NetworkFile K} (h : file.Expressible f) :
    ofJson? f (file.toJson f) = some file := by
  obtain ⟨hroads, hjoints⟩ := h
  have hlist : (Json.array (file.roads.map (·.toJson f))).listOf? (Road.ofJson? f) = some file.roads :=
    Json.listOf?_map fun r hr => Road.ofJson?_toJson (hroads r hr)
  have hlists : (Json.array (file.joints.map fun ps => .array (ps.map RoadPoint.toJson))).listOf?
      (Json.listOf? RoadPoint.ofJson?) = some file.joints :=
    Json.listOf?_map fun ps hps =>
      Json.listOf?_map fun p hp => RoadPoint.ofJson?_toJson (hjoints ps hps p hp)
  have hrecord : (file.toJson f).record? ["roads", "joints"] =
      some [some (.array (file.roads.map (·.toJson f))),
        some (.array (file.joints.map fun ps => .array (ps.map RoadPoint.toJson)))] :=
    Json.record?_zip (by decide : ["roads", "joints"].Nodup)
      (rfl : [Json.array (file.roads.map (·.toJson f)),
        .array (file.joints.map fun ps => .array (ps.map RoadPoint.toJson))].length = _)
  rw [ofJson?, hrecord]
  simp [hlist, hlists]

end NetworkFile

/-! ## Requests -/

namespace Location

/-- The spellings of a location. -/
def spelling : Spelling :=
  .tagged [("road_point", RoadPoint.spelling), ("coordinates", GeoPoint.spelling)]

theorem reads (f : NumberFormat K) : spelling.Reads (ofJson? f) where
  keeps {v v' l} hstep hread := by
    cases hstep with
    | content hcase hv =>
      simp only [List.mem_cons, Prod.mk.injEq, List.not_mem_nil, or_false] at hcase
      obtain ⟨rfl, rfl⟩ | ⟨rfl, rfl⟩ := hcase
      · exact (RoadPoint.reads.map roadPoint).keeps hv hread
      · exact ((GeoPoint.reads f).map coordinates).keeps hv hread
  fails {v} hbroken := by
    cases hbroken with
    | content hcase hv =>
      simp only [List.mem_cons, Prod.mk.injEq, List.not_mem_nil, or_false] at hcase
      obtain ⟨rfl, rfl⟩ | ⟨rfl, rfl⟩ := hcase
      · exact (RoadPoint.reads.map roadPoint).fails hv
      · exact ((GeoPoint.reads f).map coordinates).fails hv

/-- All numbers of the location are read back. -/
def Expressible (f : NumberFormat K) : Location K → Prop
  | roadPoint p => p.Expressible
  | coordinates p => p.Expressible f

theorem ofJson?_toJson {l : Location K} (h : l.Expressible f) : ofJson? f (l.toJson f) = some l := by
  cases l with
  | roadPoint p =>
    show (RoadPoint.ofJson? p.toJson).map roadPoint = _
    rw [RoadPoint.ofJson?_toJson h, Option.map_some]
  | coordinates p =>
    show (GeoPoint.ofJson? f (p.toJson f)).map coordinates = _
    rw [GeoPoint.ofJson?_toJson h, Option.map_some]

end Location

namespace Algorithm

theorem ofJson?_toJson (a : Algorithm) : ofJson? a.toJson = some a := by
  show named? a.name = some a
  exact named?_name a

theorem ofNullableJson?_elim (a : Option Algorithm) :
    ofNullableJson? (a.elim .null toJson) = some a := by
  cases a with
  | none => rfl
  | some a =>
    show (ofJson? a.toJson).map some = _
    rw [ofJson?_toJson, Option.map_some]

end Algorithm

namespace Request

/-- The spellings of a request. -/
def spelling : Spelling :=
  .record [⟨"start", none, Location.spelling⟩, ⟨"finish", none, Location.spelling⟩,
    ⟨"algorithm", some .null, .plain⟩]

/-- The fields of a request. -/
def columns (f : NumberFormat K) : List (Column (Request K)) :=
  [.ofRequired "start" (Location.reads f) (·.start),
    .ofRequired "finish" (Location.reads f) (·.finish),
    .ofOptional "algorithm" (.plain Algorithm.ofNullableJson?)
      (rfl : Algorithm.ofNullableJson? .null = some none) (·.algorithm)]

theorem readsColumns (f : NumberFormat K) : ReadsColumns (columns f) (ofJson? f) := by
  refine .of_cells (fun v h => ?_) fun v r cell h => ?_
  · have h : v.record? ["start", "finish", "algorithm"] = none := h
    rw [ofJson?, h]
  · have h : v.record? ["start", "finish", "algorithm"] = some [cell 0, cell 1, cell 2] := h
    rw [ofJson?, h]
    simp only [columns, forall_getElem?_cons, Column.ofRequired, Column.ofOptional]
    obtain ⟨start, finish, algorithm⟩ := r
    cases cell 0 <;> cases cell 1 <;> simp [Option.bind_eq_some_iff]

theorem reads (f : NumberFormat K) : spelling.Reads (ofJson? f) :=
  (readsColumns f).reads (by decide : ["start", "finish", "algorithm"].Nodup)

/-- All numbers of both endpoints are read back. -/
def Expressible (f : NumberFormat K) (r : Request K) : Prop :=
  r.start.Expressible f ∧ r.finish.Expressible f

theorem ofJson?_toJson {r : Request K} (h : r.Expressible f) : ofJson? f (r.toJson f) = some r := by
  obtain ⟨hstart, hfinish⟩ := h
  have hrecord : (r.toJson f).record? ["start", "finish", "algorithm"] =
      some [some (r.start.toJson f), some (r.finish.toJson f),
        some (r.algorithm.elim .null Algorithm.toJson)] :=
    Json.record?_zip (by decide : ["start", "finish", "algorithm"].Nodup)
      (rfl : [r.start.toJson f, r.finish.toJson f,
        r.algorithm.elim .null Algorithm.toJson].length = _)
  rw [ofJson?, hrecord]
  simp [Location.ofJson?_toJson hstart, Location.ofJson?_toJson hfinish,
    Algorithm.ofNullableJson?_elim]

end Request

/-! ## Options -/

namespace Options

/-- The spellings of options. -/
def spelling (f : NumberFormat K) : Spelling :=
  .record [⟨"algorithm", some (.ofText "dijkstra"), .plain⟩,
    ⟨"max_speed_kmh", some (f.write (f.ofNat 130)), .plain⟩]

/-- The fields of options. -/
def columns (hmaxSpeed : f.Keeps (f.ofNat 130)) : List (Column (Options K)) :=
  [.ofOptional "algorithm" (.plain Algorithm.ofJson?) (Algorithm.ofJson?_toJson .default)
      (·.algorithm),
    .ofOptional "max_speed_kmh" (.plain f.ofJson?) hmaxSpeed (·.maxSpeed)]

theorem readsColumns (hmaxSpeed : f.Keeps (f.ofNat 130)) :
    ReadsColumns (columns hmaxSpeed) (ofJson? f) := by
  refine .of_cells (fun v h => ?_) fun v o cell h => ?_
  · have h : v.record? ["algorithm", "max_speed_kmh"] = none := h
    rw [ofJson?, h]
  · have h : v.record? ["algorithm", "max_speed_kmh"] = some [cell 0, cell 1] := h
    rw [ofJson?, h]
    simp only [columns, forall_getElem?_cons, Column.ofOptional]
    obtain ⟨algorithm, maxSpeed⟩ := o
    simp [Option.bind_eq_some_iff, defaultMaxSpeed]

theorem reads (hmaxSpeed : f.Keeps (f.ofNat 130)) : (spelling f).Reads (ofJson? f) :=
  (readsColumns hmaxSpeed).reads (by decide : ["algorithm", "max_speed_kmh"].Nodup)

/-- The greatest speed is read back. -/
def Expressible (f : NumberFormat K) (o : Options K) : Prop := f.Keeps o.maxSpeed

theorem ofJson?_toJson {o : Options K} (h : o.Expressible f) : ofJson? f (o.toJson f) = some o := by
  have hmaxSpeed : f.ofJson? (f.write o.maxSpeed) = some o.maxSpeed := h
  have hrecord : (o.toJson f).record? ["algorithm", "max_speed_kmh"] =
      some [some o.algorithm.toJson, some (f.write o.maxSpeed)] :=
    Json.record?_zip (by decide : ["algorithm", "max_speed_kmh"].Nodup)
      (rfl : [o.algorithm.toJson, f.write o.maxSpeed].length = _)
  rw [ofJson?, hrecord]
  simp [Algorithm.ofJson?_toJson, hmaxSpeed]

end Options

/-! ## All that is read and written -/

/-- Network files, requests and options are read back from what is written of them in any spelling, and
    not read when a record lacks a field or has one twice, at any depth. -/
theorem every_spelling_reads_back (hspeed : f.Keeps (f.ofNat 50)) (hmaxSpeed : f.Keeps (f.ofNat 130)) :
    (NetworkFile.spelling f).ReadsBack (NetworkFile.Expressible f) (NetworkFile.toJson f)
        (NetworkFile.ofJson? f) ∧
      Request.spelling.ReadsBack (Request.Expressible f) (Request.toJson f) (Request.ofJson? f) ∧
      (Options.spelling f).ReadsBack (Options.Expressible f) (Options.toJson f) (Options.ofJson? f) :=
  ⟨(NetworkFile.reads hspeed).readsBack fun _ => NetworkFile.ofJson?_toJson,
    (Request.reads f).readsBack fun _ => Request.ofJson?_toJson,
    (Options.reads hmaxSpeed).readsBack fun _ => Options.ofJson?_toJson⟩

/-- A file without its joints in which a place is an array, options as an array that leaves out the
    speed, and a request with two starting points. -/
theorem every_spelling_reads_back_samples :
    let f := NumberFormat.binary64
    let place : Json := .array [f.write 0.1, f.write 50]
    let start := (Location.roadPoint ⟨2, 3⟩).toJson f
    f.Keeps (f.ofNat 50) ∧ f.Keeps (f.ofNat 130) ∧
      NetworkFile.ofJson? f (.ofFields [("roads", .array [.ofFields [("points", .array [place]),
          ("one_way", .bool true), ("is_road", .bool true), ("speed_kmh", f.write 50)]])]) =
        some ⟨[.drivable #[⟨0.1, 50⟩] true 50], []⟩ ∧
      Options.ofJson? f (.array [.ofText "a_star"]) = some ⟨.aStar, 130⟩ ∧
      Request.ofJson? f (.ofFields [("start", start), ("finish", start), ("start", start)]) = none := by
  intro f place start
  have h50 : f.Keeps 50 := by
    unfold NumberFormat.Keeps
    decide +kernel
  have h130 : f.Keeps 130 := by
    unfold NumberFormat.Keeps
    decide +kernel
  have htenth : f.Keeps 0.1 := by
    unfold NumberFormat.Keeps
    decide +kernel
  obtain ⟨hfile, hrequest, hoptions⟩ := every_spelling_reads_back (f := f) h50 h130
  refine ⟨h50, h130, ?_, ?_, ?_⟩
  · have hplace : GeoPoint.spelling.respells (GeoPoint.toJson f ⟨0.1, 50⟩) place :=
      @Spelling.RecordRespells.positional _ [f.write 0.1, f.write 50] rfl
    have hroad : (Road.spelling f).respells (Road.toJson f (.drivable #[⟨0.1, 50⟩] true 50)) _ :=
      .member List.mem_cons_self (@Spelling.ItemRespells.item _ [] [] _ _ hplace)
    have hroads : (NetworkFile.spelling f).respells
        (NetworkFile.toJson f ⟨[.drivable #[⟨0.1, 50⟩] true 50], []⟩) _ :=
      .member List.mem_cons_self (@Spelling.ItemRespells.item _ [] [] _ _ hroad)
    refine hfile.variant ?_ (.tail (.tail (.single hroads) (.permute (.swap _ _ _)))
      (.leaveOut (List.mem_cons_of_mem _ List.mem_cons_self) rfl))
    simp [NetworkFile.Expressible, Road.Expressible, Road.drivable, GeoPoint.Expressible, h50, htenth]
  · have harray : (Options.spelling f).respells (Options.toJson f ⟨.aStar, 130⟩) _ :=
      @Spelling.RecordRespells.positional _ [.ofText "a_star", f.write 130] rfl
    exact hoptions.variant h130 (.tail (.single harray)
      (@Spelling.RecordRespells.drop _ [.ofText "a_star"] _ _ rfl rfl))
  · exact hrequest.broken (.repeated List.mem_cons_self (by decide))

end RoadRouting
