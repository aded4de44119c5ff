import RoadRouting.Command.Value
import RoadRouting.GeoJson
import RoadRouting.Proofs.Codec.RoundTrip
import RoadRouting.Proofs.Result

/-!
# Road points as endpoints

Which texts with a colon name a road point, and what is said of the others. The texts of road points
are among them, whatever blanks are put around their numbers.

* `Spells`: the text of a number on the command line, independently of how it is read.
* `readNat?_trim_eq_some_iff`: a number is read from the texts that spell it, and from no other.
* `road_points_read_back`: the road points that are read, the two errors, and that the road points
  in the feature of a route are read back.
-/

namespace RoadRouting

/-! ## Texts of road points -/

/-- The value of a field of an object. -/
def Json.member? (name : String) : Json → Option Json
  | .object fields => Json.field? name fields
  | _ => none

/-- The texts of the road points in the feature of a route. -/
def Json.roadPointTexts? (feature : Json) : Option (List String) := do
  let properties ← feature.member? "properties"
  let points ← properties.member? "road_points"
  points.listOf? Json.text?

theorem Route.roadPointTexts?_feature (r : Route Float Float) :
    r.feature.roadPointTexts? = some (r.roadPoints.map RoadPoint.text) := by
  have hpoints : r.feature.roadPointTexts? =
      (r.roadPoints.map fun p => Json.ofText p.text).mapM Json.text? := rfl
  rw [hpoints]
  induction r.roadPoints with
  | nil => rfl
  | cons p ps ih => simp [ih]

theorem RoadPoint.toList_text (p : RoadPoint) :
    p.text.toList = (toString p.road).toList ++ ':' :: (toString p.offset).toList := by
  have hcolon : (toString ":").toList = [':'] := rfl
  simp [RoadPoint.text, hcolon]

namespace Command

open Decimal (valueOf)
open Text (trim isBlank)

/-! ## Numbers -/

/-- The text is a number: decimal digits, with or without a plus before them. -/
def IsNumber (cs : List Char) (n : ℕ) : Prop :=
  ∃ digits, (cs = digits ∨ cs = '+' :: digits) ∧ digits ≠ [] ∧ (∀ c ∈ digits, c.isDigit = true) ∧
    Nat.ofDigitChars 10 digits 0 = n

/-- The text is a number between blanks. -/
def Spells (cs : List Char) (n : ℕ) : Prop :=
  ∃ before number after, cs = before ++ number ++ after ∧ (∀ c ∈ before, isBlank c = true) ∧
    IsNumber number n ∧ ∀ c ∈ after, isBlank c = true

/-- The text without a plus at its start. -/
def unsigned : List Char → List Char
  | '+' :: rest => rest
  | cs => cs

theorem unsigned_of_forall_isDigit {cs : List Char} (h : ∀ c ∈ cs, c.isDigit = true) :
    unsigned cs = cs := by
  cases cs with
  | nil => rfl
  | cons c rest =>
    have hc : c ≠ '+' := by
      rintro rfl
      exact absurd (h '+' List.mem_cons_self) (by decide)
    rw [unsigned]
    exact fun _ e => hc (List.cons.inj e).1

theorem eq_unsigned_or (cs : List Char) : cs = unsigned cs ∨ cs = '+' :: unsigned cs := by
  unfold unsigned
  split
  · exact .inr rfl
  · exact .inl rfl

theorem isNumber_iff {cs : List Char} {n : ℕ} : IsNumber cs n ↔ unsigned cs ≠ [] ∧
    (∀ c ∈ unsigned cs, c.isDigit = true) ∧ Nat.ofDigitChars 10 (unsigned cs) 0 = n := by
  constructor
  · -- a plus is no digit, so digits without one stay as they are
    rintro ⟨digits, rfl | rfl, hne, hdigits, hvalue⟩
    · rw [unsigned_of_forall_isDigit hdigits]
      exact ⟨hne, hdigits, hvalue⟩
    · exact ⟨hne, hdigits, hvalue⟩
  · exact fun h => ⟨unsigned cs, eq_unsigned_or cs, h⟩

theorem digits?_eq (cs : List Char) : digits? cs =
    if cs.all Char.isDigit then some (cs.map fun c => c.toNat - '0'.toNat) else none := by
  induction cs with
  | nil => simp [digits?]
  | cons c cs ih =>
    have hcons : digits? (c :: cs) = (if c.isDigit then some (c.toNat - '0'.toNat) else none) >>=
        fun d => digits? cs >>= fun ds => some (d :: ds) := List.mapM_cons
    rw [hcons, ih, List.all_cons]
    cases c.isDigit <;> cases cs.all Char.isDigit <;> rfl

theorem valueOf_map_digits (cs : List Char) :
    valueOf (cs.map fun c => c.toNat - '0'.toNat) = Nat.ofDigitChars 10 cs 0 := by
  rw [valueOf, List.foldl_map]
  rfl

theorem readNat?_eq_some_iff {limit n : ℕ} {cs : List Char} :
    readNat? limit cs = some n ↔ IsNumber cs n ∧ n < limit := by
  have hread : readNat? limit cs = if (unsigned cs).isEmpty then none
      else digits? (unsigned cs) >>= fun ds =>
        if valueOf ds < limit then some (valueOf ds) else none := rfl
  rw [hread, isNumber_iff, digits?_eq, ← List.all_eq_true]
  by_cases hempty : unsigned cs = []
  · simp [hempty]
  · by_cases hdigits : (unsigned cs).all Char.isDigit = true
    · rw [if_neg (by simpa using hempty), if_pos hdigits]
      simp only [Option.bind_eq_bind, Option.bind_some, valueOf_map_digits,
        Option.ite_none_right_eq_some, Option.some.injEq]
      constructor
      · rintro ⟨hlt, rfl⟩
        exact ⟨⟨hempty, hdigits, rfl⟩, hlt⟩
      · rintro ⟨⟨-, -, rfl⟩, hlt⟩
        exact ⟨hlt, rfl⟩
    · simp [hempty, hdigits]

theorem not_isBlank_of_isDigit {c : Char} (h : c.isDigit = true) : isBlank c = false := by
  have hblanks : Text.blanks.all (!·.isDigit) = true := by decide
  by_contra hblank
  have hmem : c ∈ Text.blanks := by simpa [isBlank] using hblank
  have hnot := List.all_eq_true.mp hblanks c hmem
  rw [h] at hnot
  cases hnot

theorem IsNumber.not_isBlank {cs : List Char} {n : ℕ} (h : IsNumber cs n) :
    ∀ c ∈ cs, isBlank c = false := by
  obtain ⟨digits, rfl | rfl, -, hdigits, -⟩ := h
  · exact fun c hc => not_isBlank_of_isDigit (hdigits c hc)
  · rw [List.forall_mem_cons]
    exact ⟨by decide, fun c hc => not_isBlank_of_isDigit (hdigits c hc)⟩

/-- Between the blanks around a text there is a number just where the text spells it. -/
theorem isNumber_trim_iff {cs : List Char} {n : ℕ} : IsNumber (trim cs) n ↔ Spells cs n := by
  constructor
  · intro h
    obtain ⟨before, after, hcs, hbefore, hafter⟩ := Text.eq_blanks_append_trim cs
    exact ⟨before, trim cs, after, hcs, hbefore, h, hafter⟩
  · rintro ⟨before, number, after, rfl, hbefore, hnumber, hafter⟩
    rwa [Text.trim_append hbefore hnumber.not_isBlank hafter]

theorem readNat?_trim_eq_some_iff {limit n : ℕ} {cs : List Char} :
    readNat? limit (trim cs) = some n ↔ Spells cs n ∧ n < limit := by
  rw [readNat?_eq_some_iff, isNumber_trim_iff]

theorem isSome_readNat?_trim_iff {limit : ℕ} {cs : List Char} :
    (readNat? limit (trim cs)).isSome = true ↔ ∃ n < limit, Spells cs n := by
  simp only [Option.isSome_iff_exists, readNat?_trim_eq_some_iff, and_comm]

theorem isNumber_toString (n : ℕ) : IsNumber (toString n).toList n := by
  have hdigits : (toString n).toList = Nat.toDigits 10 n := Nat.toList_repr
  rw [hdigits]
  exact ⟨Nat.toDigits 10 n, .inl rfl, Nat.toDigits_ne_nil,
    fun c hc => Nat.isDigit_of_mem_toDigits (by decide) (by decide) hc,
    Nat.ofDigitChars_toDigits (by decide) (by decide)⟩

theorem IsNumber.colon_not_mem {cs : List Char} {n : ℕ} (h : IsNumber cs n) : ':' ∉ cs := by
  obtain ⟨digits, hcs, -, hdigits, -⟩ := h
  have hdigit : ':' ∉ digits := fun hc => absurd (hdigits ':' hc) (by decide)
  obtain rfl | rfl := hcs
  · exact hdigit
  · simpa using hdigit

theorem Spells.colon_not_mem {cs : List Char} {n : ℕ} (h : Spells cs n) : ':' ∉ cs := by
  obtain ⟨before, number, after, rfl, hbefore, hnumber, hafter⟩ := h
  have hblank : ∀ bs : List Char, (∀ c ∈ bs, isBlank c = true) → ':' ∉ bs :=
    fun bs hbs hc => absurd (hbs ':' hc) (by decide)
  simp [hblank before hbefore, hblank after hafter, hnumber.colon_not_mem]

/-! ## Road points -/

variable {input : String} {left right : List Char}

theorem readEndpoint_of_colon (hinput : input.toList = left ++ ':' :: right) (hleft : ':' ∉ left) :
    readEndpoint input = (readRoadPoint input left right).map .roadPoint := by
  rw [readEndpoint, hinput, Text.splitAt?_append hleft]

theorem readRoadPoint_eq_ok_iff {p : RoadPoint} : readRoadPoint input left right = .ok p ↔
    p.Expressible ∧ Spells left p.road ∧ Spells right p.offset := by
  have hboth : readRoadPoint input left right = .ok p ↔
      readNat? idLimit (trim left) = some p.road ∧
        readNat? idLimit (trim right) = some p.offset := by
    obtain ⟨road, offset⟩ := p
    unfold readRoadPoint
    cases readNat? idLimit (trim left) <;> cases readNat? idLimit (trim right) <;> simp
  rw [hboth, readNat?_trim_eq_some_iff, readNat?_trim_eq_some_iff]
  constructor
  · rintro ⟨⟨hroad, hlt⟩, hoffset, hlt'⟩
    exact ⟨⟨hlt, hlt'⟩, hroad, hoffset⟩
  · rintro ⟨⟨hlt, hlt'⟩, hroad, hoffset⟩
    exact ⟨⟨hroad, hlt⟩, hoffset, hlt'⟩

theorem readRoadPoint_eq_error_iff {e : ValueError} : readRoadPoint input left right = .error e ↔
    (e = .featureId input ∧ ¬ ∃ n < idLimit, Spells left n) ∨
      (e = .pointId input ∧ (∃ n < idLimit, Spells left n) ∧ ¬ ∃ n < idLimit, Spells right n) := by
  rw [← isSome_readNat?_trim_iff, ← isSome_readNat?_trim_iff]
  unfold readRoadPoint
  cases readNat? idLimit (trim left) <;> cases readNat? idLimit (trim right) <;> simp [eq_comm]

/-- The text of a road point is read back, with any blanks around its numbers. -/
theorem readEndpoint_padded {p : RoadPoint} (hp : p.Expressible) (b₁ b₂ b₃ b₄ : List Char)
    (hb : ∀ c ∈ b₁ ++ b₂ ++ b₃ ++ b₄, isBlank c = true) :
    readEndpoint (String.ofList (b₁ ++ (toString p.road).toList ++ b₂ ++
      ':' :: (b₃ ++ (toString p.offset).toList ++ b₄))) = .ok (.roadPoint p) := by
  simp only [List.forall_mem_append] at hb
  obtain ⟨⟨⟨h₁, h₂⟩, h₃⟩, h₄⟩ := hb
  have hroad : Spells (b₁ ++ (toString p.road).toList ++ b₂) p.road :=
    ⟨b₁, _, b₂, rfl, h₁, isNumber_toString p.road, h₂⟩
  have hoffset : Spells (b₃ ++ (toString p.offset).toList ++ b₄) p.offset :=
    ⟨b₃, _, b₄, rfl, h₃, isNumber_toString p.offset, h₄⟩
  rw [readEndpoint_of_colon String.toList_ofList hroad.colon_not_mem, map_eq_ok_iff]
  exact ⟨p, readRoadPoint_eq_ok_iff.mpr ⟨hp, hroad, hoffset⟩, rfl⟩

theorem readEndpoint_text {p : RoadPoint} (hp : p.Expressible) :
    readEndpoint p.text = .ok (.roadPoint p) := by
  have h := readEndpoint_padded hp [] [] [] [] (by simp)
  rwa [List.nil_append, List.nil_append, List.append_nil, List.append_nil, ← p.toList_text,
    String.ofList_toList] at h

/-- A text with a colon is read as a road point just if it spells two numbers of 32 bits, with the
    first colon between them. Else the first of its parts that spells none is named. It is never
    read as a place. The text of a road point is read back, also with blanks around its numbers, and
    so are the road points in the feature of a route. -/
theorem road_points_read_back :
    (∀ input : String, ':' ∈ input.toList → ∃ left right,
      input.toList = left ++ ':' :: right ∧ ':' ∉ left ∧
      (∀ p, readEndpoint input = .ok (.roadPoint p) ↔
        p.Expressible ∧ Spells left p.road ∧ Spells right p.offset) ∧
      (∀ e, readEndpoint input = .error e ↔
        (e = .featureId input ∧ ¬ ∃ n < idLimit, Spells left n) ∨
        (e = .pointId input ∧ (∃ n < idLimit, Spells left n) ∧ ¬ ∃ n < idLimit, Spells right n)) ∧
      ∀ place, readEndpoint input ≠ .ok (.coordinates place)) ∧
    (∀ p : RoadPoint, p.Expressible → ∃ road offset,
      p.text.toList = road ++ ':' :: offset ∧ ':' ∉ road ∧
      ∀ b₁ b₂ b₃ b₄ : List Char, (∀ c ∈ b₁ ++ b₂ ++ b₃ ++ b₄, isBlank c = true) →
        readEndpoint (String.ofList (b₁ ++ road ++ b₂ ++ ':' :: (b₃ ++ offset ++ b₄))) =
          .ok (.roadPoint p)) ∧
    ∀ r : Route Float Float, (∀ p ∈ r.roadPoints, p.Expressible) → ∃ texts,
      r.feature.roadPointTexts? = some texts ∧
      texts.mapM readEndpoint = .ok (r.roadPoints.map .roadPoint) := by
  refine ⟨fun input hcolon => ?_, fun p hp => ?_, fun r hr => ?_⟩
  · obtain ⟨left, right, hsplit, hleft⟩ := List.eq_append_cons_of_mem hcolon
    have hread := readEndpoint_of_colon hsplit hleft
    refine ⟨left, right, hsplit, hleft, fun p => ?_, fun e => ?_, fun place hplace => ?_⟩
    · rw [hread, map_eq_ok_iff]
      simp only [readRoadPoint_eq_ok_iff, Location.roadPoint.injEq, exists_eq_right]
    · rw [hread, map_eq_error_iff, readRoadPoint_eq_error_iff]
    · rw [hread, map_eq_ok_iff] at hplace
      obtain ⟨p, -, hp⟩ := hplace
      cases hp
  · exact ⟨(toString p.road).toList, (toString p.offset).toList, p.toList_text,
      (isNumber_toString p.road).colon_not_mem, readEndpoint_padded hp⟩
  · refine ⟨r.roadPoints.map RoadPoint.text, r.roadPointTexts?_feature, ?_⟩
    rw [List.mapM_map]
    exact mapM_eq_ok_map fun p hp => readEndpoint_text (hr p hp)

theorem road_points_read_back_signed :
    readEndpoint "\u00a0+07 :12" = .ok (.roadPoint ⟨7, 12⟩) ∧
      readEndpoint "7:1:2" = .error (.pointId "7:1:2") := by
  constructor
  · obtain ⟨left, right, hsplit, hleft, hok, -⟩ :=
      road_points_read_back.1 "\u00a0+07 :12" (by decide)
    have hparts : some (left, right) = some (['\u00a0', '+', '0', '7', ' '], ['1', '2']) := by
      rw [← Text.splitAt?_append hleft, ← hsplit]
      decide
    cases hparts
    have hroad : Spells ['\u00a0', '+', '0', '7', ' '] 7 :=
      ⟨['\u00a0'], ['+', '0', '7'], [' '], rfl, List.all_eq_true.mp rfl,
        ⟨['0', '7'], .inr rfl, by decide, List.all_eq_true.mp rfl, rfl⟩, List.all_eq_true.mp rfl⟩
    have hoffset : Spells ['1', '2'] 12 :=
      ⟨[], ['1', '2'], [], rfl, List.all_eq_true.mp rfl,
        ⟨['1', '2'], .inl rfl, by decide, List.all_eq_true.mp rfl, rfl⟩, List.all_eq_true.mp rfl⟩
    exact (hok ⟨7, 12⟩).mpr ⟨⟨by decide, by decide⟩, hroad, hoffset⟩
  · obtain ⟨left, right, hsplit, hleft, -, herror, -⟩ := road_points_read_back.1 "7:1:2" (by decide)
    have hparts : some (left, right) = some (['7'], ['1', ':', '2']) := by
      rw [← Text.splitAt?_append hleft, ← hsplit]
      decide
    cases hparts
    have hroad : Spells ['7'] 7 :=
      ⟨[], ['7'], [], rfl, List.all_eq_true.mp rfl,
        ⟨['7'], .inl rfl, by decide, List.all_eq_true.mp rfl, rfl⟩, List.all_eq_true.mp rfl⟩
    have hoffset : ¬ ∃ n < idLimit, Spells ['1', ':', '2'] n := by
      rintro ⟨n, -, hn⟩
      exact hn.colon_not_mem (by decide)
    exact (herror _).mpr (.inr ⟨rfl, ⟨7, by decide, hroad⟩, hoffset⟩)

end Command

end RoadRouting
