import Mathlib.Data.List.Nodup
import RoadRouting.Proofs.Json.Spelling

/-!
# Reading records in all their spellings

A record is read field by field. A change of its spelling leaves each field as it is, or spells its
value anew, or leaves it out where it holds its default. So a reader that looks at nothing but the
fields, each in the way of its kind, reads the same from all spellings.

* `record?_of_regular`, `record?_of_not_regular`: what is read as a record at all.
* `alters_of_respells`: what a change of spelling does to the fields of a record.
* `Column`: how a field is read as part of a record.
* `ReadsColumns.reads`: a record is read in all its spellings if it is read column by column.
-/

namespace RoadRouting.Json

/-! ## The fields of a record -/

section Members

variable {name : String} {names : List String} {m : Option String × Json}
  {members members' : List (Option String × Json)} {v : Json} {i : Nat}

theorem occurrences_cons : occurrences name (m :: members) =
    occurrences name members + if m.1 = some name then 1 else 0 := by
  simp [occurrences, List.countP_cons]

theorem field?_cons : field? name (m :: members) =
    if m.1 = some name then some m.2 else field? name members := by
  by_cases hm : m.1 = some name <;> simp [field?, hm]

theorem field?_eq_none_iff : field? name members = none ↔ occurrences name members = 0 := by
  simp [field?, occurrences, List.countP_eq_zero]

/-- A field that does not stand twice is found wherever it stands. -/
theorem field?_eq_some_iff (h : occurrences name members ≤ 1) :
    field? name members = some v ↔ (some name, v) ∈ members := by
  induction members with
  | nil => simp [field?]
  | cons m members ih =>
    rw [occurrences_cons] at h
    rw [field?_cons, List.mem_cons]
    by_cases hm : m.1 = some name
    · rw [if_pos hm] at h
      have hnone : ∀ v, (some name, v) ∉ members := by
        intro v hv
        have hzero : occurrences name members = 0 := by omega
        rw [occurrences, List.countP_eq_zero] at hzero
        exact hzero _ hv (by simp)
      rw [if_pos hm, Option.some.injEq, or_iff_left (hnone v)]
      constructor
      · rintro rfl
        rw [← hm]
      · rintro rfl
        rfl
    · rw [if_neg hm] at h
      rw [if_neg hm, ih h, or_iff_right]
      rintro rfl
      exact hm rfl

theorem field?_perm (h : members.Perm members') (hone : occurrences name members ≤ 1) :
    field? name members = field? name members' := by
  have hone' : occurrences name members' ≤ 1 := by
    rwa [occurrences, ← h.countP_eq]
  refine Option.ext fun v => ?_
  rw [field?_eq_some_iff hone, field?_eq_some_iff hone', h.mem_iff]

/-- In an object made of names and values, the field of a name holds the value of the same place. -/
theorem field?_zip {items : List Json} (hnames : names.Nodup) (hlength : items.length = names.length)
    (hi : names[i]? = some name) :
    field? name ((names.zip items).map fun (name, v) => (some name, v)) = items[i]? := by
  induction names generalizing items i with
  | nil => cases hi
  | cons n names ih =>
    cases items with
    | nil => cases hlength
    | cons v items =>
      obtain ⟨hn, hnames⟩ := List.nodup_cons.mp hnames
      rw [List.zip_cons_cons, List.map_cons, field?_cons]
      cases i with
      | zero =>
        obtain rfl := Option.some.inj hi
        rw [if_pos rfl]
        rfl
      | succ i =>
        have hne : n ≠ name := by
          rintro rfl
          exact hn (List.mem_of_getElem? hi)
        rw [if_neg fun h => hne (Option.some.inj h), List.getElem?_cons_succ]
        exact ih hnames (Nat.succ.inj hlength) hi

/-! ## Reading a record -/

/-- A value that is read as a record of the given names. -/
def Regular (names : List String) : Json → Prop
  | object members =>
    (∀ m ∈ members, m.1.isSome = true) ∧ ∀ name ∈ names, occurrences name members ≤ 1
  | array items => items.length ≤ names.length
  | _ => False

/-- The field of a name, which stands at a place of the declaration. -/
def cell? (name : String) (i : Nat) : Json → Option Json
  | object members => field? name members
  | array items => items[i]?
  | _ => none

theorem record?_of_regular (h : v.Regular names) :
    v.record? names = some (names.mapIdx fun i name => v.cell? name i) := by
  cases v with
  | object members =>
    have hall : (members.all (·.1.isSome) && names.all (occurrences · members ≤ 1)) = true := by
      simpa [Regular] using h
    rw [record?, if_pos hall]
    refine congrArg some (List.ext_getElem? fun i => ?_)
    rw [List.getElem?_map, List.getElem?_mapIdx]
    rfl
  | array items =>
    have hle : items.length ≤ names.length := h
    rw [record?, if_pos hle]
    refine congrArg some (List.ext_getElem? fun i => ?_)
    rw [List.getElem?_mapIdx]
    rcases Nat.lt_or_ge i items.length with hi | hi
    · have hi' : i < names.length := Nat.lt_of_lt_of_le hi hle
      rw [List.getElem?_append_left (by rwa [List.length_map]), List.getElem?_map,
        List.getElem?_eq_getElem hi']
      simp [cell?, hi]
    · rw [List.getElem?_append_right (by rwa [List.length_map]), List.length_map,
        List.getElem?_replicate]
      rcases Nat.lt_or_ge i names.length with hi' | hi'
      · rw [if_pos (by omega), List.getElem?_eq_getElem hi']
        simp [cell?, hi]
      · rw [if_neg (by omega), List.getElem?_eq_none hi', Option.map_none]
  | null => exact h.elim
  | bool => exact h.elim
  | number => exact h.elim
  | string => exact h.elim

theorem record?_of_not_regular (h : ¬ v.Regular names) : v.record? names = none := by
  cases v with
  | object members =>
    refine if_neg fun hall => h ?_
    simpa [Regular] using hall
  | array items => exact if_neg h
  | null => rfl
  | bool => rfl
  | number => rfl
  | string => rfl

/-- An object made of names and values is read as the record of the values. -/
theorem record?_zip {items : List Json} (hnames : names.Nodup) (hlength : items.length = names.length) :
    (ofFields (names.zip items)).record? names = some (items.map some) := by
  have hreg : (ofFields (names.zip items)).Regular names := by
    refine ⟨List.forall_mem_map.mpr fun _ _ => rfl, fun name _ => ?_⟩
    calc occurrences name ((names.zip items).map fun (name, v) => (some name, v))
        = ((names.zip items).map (·.1)).count name := by
          simp [occurrences, List.countP_map, List.count, Function.comp_def]
      _ = names.count name := by rw [List.map_fst_zip (Nat.le_of_eq hlength.symm)]
      _ ≤ 1 := List.nodup_iff_count_le_one.mp hnames name
  rw [record?_of_regular hreg]
  refine congrArg some (List.ext_getElem? fun i => ?_)
  rw [List.getElem?_mapIdx, List.getElem?_map]
  rcases Nat.lt_or_ge i names.length with hi | hi
  · have hcell : field? names[i] ((names.zip items).map fun (name, v) => (some name, v)) = items[i]? :=
      field?_zip hnames hlength (List.getElem?_eq_getElem hi)
    rw [List.getElem?_eq_getElem hi, Option.map_some, ofFields, cell?, hcell,
      List.getElem?_eq_getElem (hlength ▸ hi), Option.map_some]
  · rw [List.getElem?_eq_none hi, List.getElem?_eq_none (hlength ▸ hi)]
    rfl

end Members

/-! ## Fields in another spelling -/

/-- What becomes of the value of a field when a record is spelled anew. -/
inductive Field.Alters (field : Field) : Option Json → Option Json → Prop
  | same (cell : Option Json) : Alters field cell cell
  | respelled {v v' : Json} : field.spelling.respells v v' → Alters field (some v) (some v')
  | omitted {v : Json} : field.default = some v → Alters field (some v) none

section Alters

variable {fields : List Field} {field : Field} {members members' : List (Option String × Json)}
  {before after items : List Json} {name : String} {v v' d : Json}

/-- The values of the fields of a record become those of another spelling, which is read as a record as
    well. -/
structure Alters (fields : List Field) (v v' : Json) : Prop where
  regular : v'.Regular (fields.map (·.name))
  cell : ∀ {i : Nat} {field : Field}, fields[i]? = some field →
    field.Alters (v.cell? field.name i) (v'.cell? field.name i)

theorem regular_cons_iff {names : List String} :
    (object ((some name, v) :: members)).Regular names ↔ (object members).Regular names ∧
      (name ∈ names → occurrences name members = 0) := by
  simp only [Regular, List.forall_mem_cons, Option.isSome_some, true_and, occurrences_cons,
    Option.some.injEq]
  constructor
  · rintro ⟨htext, hone⟩
    refine ⟨⟨htext, fun n hn => Nat.le_trans (Nat.le_add_right _ _) (hone n hn)⟩, fun hn => ?_⟩
    have := hone name hn
    rw [if_pos rfl] at this
    omega
  · rintro ⟨⟨htext, hone⟩, hzero⟩
    refine ⟨htext, fun n hn => ?_⟩
    split
    case isTrue heq =>
      subst heq
      have := hzero hn
      omega
    case isFalse => exact hone n hn

theorem alters_permute (h : members.Perm members')
    (hreg : (object members).Regular (fields.map (·.name))) :
    Alters fields (object members) (object members') where
  regular := by
    refine ⟨fun m hm => hreg.1 m (h.mem_iff.mpr hm), fun name hname => ?_⟩
    rw [occurrences, ← h.countP_eq]
    exact hreg.2 name hname
  cell {i field} hi := by
    have hname : field.name ∈ fields.map (·.name) := List.mem_map_of_mem (List.mem_of_getElem? hi)
    rw [cell?, cell?, field?_perm h (hreg.2 _ hname)]
    exact .same _

theorem alters_add (hname : name ∉ fields.map (·.name))
    (hreg : (object members).Regular (fields.map (·.name))) :
    Alters fields (object members) (object ((some name, v) :: members)) where
  regular := regular_cons_iff.mpr ⟨hreg, fun h => absurd h hname⟩
  cell {i field} hi := by
    rw [cell?, cell?, field?_cons, if_neg]
    · exact .same _
    · rintro heq
      obtain rfl := Option.some.inj heq
      exact hname (List.mem_map_of_mem (List.mem_of_getElem? hi))

theorem alters_leaveOut (hnames : (fields.map (·.name)).Nodup) (hfield : field ∈ fields)
    (hdefault : field.default = some d)
    (hreg : (object ((some field.name, d) :: members)).Regular (fields.map (·.name))) :
    Alters fields (object ((some field.name, d) :: members)) (object members) where
  regular := (regular_cons_iff.mp hreg).1
  cell {i field'} hi := by
    rw [cell?, cell?, field?_cons]
    split
    case isTrue heq =>
      obtain rfl := List.inj_on_of_nodup_map hnames hfield (List.mem_of_getElem? hi)
        (Option.some.inj heq)
      rw [field?_eq_none_iff.mpr ((regular_cons_iff.mp hreg).2 (List.mem_map_of_mem hfield))]
      exact .omitted hdefault
    case isFalse => exact .same _

theorem alters_member (hnames : (fields.map (·.name)).Nodup) (hfield : field ∈ fields)
    (hv : field.spelling.respells v v')
    (hreg : (object ((some field.name, v) :: members)).Regular (fields.map (·.name))) :
    Alters fields (object ((some field.name, v) :: members))
      (object ((some field.name, v') :: members)) where
  regular := regular_cons_iff.mpr (regular_cons_iff.mp hreg)
  cell {i field'} hi := by
    rw [cell?, cell?, field?_cons, field?_cons]
    split
    case isTrue heq =>
      obtain rfl := List.inj_on_of_nodup_map hnames hfield (List.mem_of_getElem? hi)
        (Option.some.inj heq)
      exact .respelled hv
    case isFalse => exact .same _

theorem alters_positional (hnames : (fields.map (·.name)).Nodup)
    (hlength : items.length = fields.length) :
    Alters fields (ofFields ((fields.map (·.name)).zip items)) (array items) where
  regular := Nat.le_of_eq (by rw [hlength, List.length_map])
  cell {i field} hi := by
    rw [ofFields, cell?, cell?, field?_zip hnames (by rw [hlength, List.length_map])
      (by rw [List.getElem?_map, hi, Option.map_some])]
    exact .same _

theorem alters_drop (hfield : fields[items.length]? = some field) (hdefault : field.default = some d) :
    Alters fields (array (items ++ [d])) (array items) where
  regular := by
    rw [Regular, List.length_map]
    exact Nat.le_of_lt (List.getElem?_eq_some_iff.mp hfield).1
  cell {i field'} hi := by
    rw [cell?, cell?]
    rcases Nat.lt_trichotomy i items.length with hlt | rfl | hgt
    · rw [List.getElem?_append_left hlt]
      exact .same _
    · obtain rfl := Option.some.inj (hfield.symm.trans hi)
      rw [List.getElem?_concat_length, List.getElem?_eq_none (Nat.le_refl _)]
      exact .omitted hdefault
    · have hend : (items ++ [d]).length ≤ i := by
        rw [List.length_append, List.length_singleton]
        exact hgt
      rw [List.getElem?_eq_none hend, List.getElem?_eq_none (Nat.le_of_lt hgt)]
      exact .same _

theorem alters_element (hfield : fields[before.length]? = some field)
    (hv : field.spelling.respells v v')
    (hreg : (array (before ++ v :: after)).Regular (fields.map (·.name))) :
    Alters fields (array (before ++ v :: after)) (array (before ++ v' :: after)) where
  regular := by
    have hlength : (before ++ v' :: after).length = (before ++ v :: after).length := by simp
    rw [Regular, hlength]
    exact hreg
  cell {i field'} hi := by
    rw [cell?, cell?]
    rcases Nat.lt_trichotomy i before.length with hlt | rfl | hgt
    · rw [List.getElem?_append_left hlt, List.getElem?_append_left hlt]
      exact .same _
    · obtain rfl := Option.some.inj (hfield.symm.trans hi)
      simp only [List.getElem?_append_right (Nat.le_refl _), Nat.sub_self, List.getElem?_cons_zero]
      exact .respelled hv
    · obtain ⟨k, rfl⟩ : ∃ k, i = before.length + (k + 1) := ⟨i - before.length - 1, by omega⟩
      simp only [List.getElem?_append_right (Nat.le_add_right _ _), Nat.add_sub_cancel_left,
        List.getElem?_cons_succ]
      exact .same _

/-- A change of spelling keeps a record readable, and each of its fields as it is, or replaces its value
    by another spelling, or leaves it out where it has its default. -/
theorem alters_of_respells (hnames : (fields.map (·.name)).Nodup)
    (hreg : v.Regular (fields.map (·.name))) (h : (Spelling.record fields).respells v v') :
    Alters fields v v' := by
  cases h with
  | permute hperm => exact alters_permute hperm hreg
  | add hname => exact alters_add hname hreg
  | leaveOut hfield hdefault => exact alters_leaveOut hnames hfield hdefault hreg
  | member hfield hv => exact alters_member hnames hfield hv hreg
  | positional hlength => exact alters_positional hnames hlength
  | drop hfield hdefault => exact alters_drop hfield hdefault
  | element hfield hv => exact alters_element hfield hv hreg

end Alters

/-! ## Columns -/

/-- A field of a record that is read as a value of a type: which contents of the field the value
    allows. -/
structure Column (α : Type) where
  field : Field
  /-- What the field may hold when the record is read as the value, nothing where it is left out. -/
  holds : α → Option Json → Prop
  keeps : ∀ {a cell cell'}, field.Alters cell cell' → holds a cell → holds a cell'
  fails : ∀ {a v}, field.spelling.broken v → ¬ holds a (some v)
  required : ∀ {a}, field.default = none → ¬ holds a none

namespace Column

variable {α β : Type} {read : Json → Option β} {s : Spelling}

/-- A field without a default, which is read as a part of the value. -/
def ofRequired (name : String) (h : s.Reads read) (part : α → β) : Column α where
  field := ⟨name, none, s⟩
  holds a cell := ∃ v, cell = some v ∧ read v = some (part a)
  keeps {a cell cell'} halters hcell := by
    cases halters with
    | same => exact hcell
    | respelled hv =>
      obtain ⟨v, hv', hread⟩ := hcell
      obtain rfl := Option.some.inj hv'
      exact ⟨_, rfl, h.keeps hv hread⟩
    | omitted hdefault => cases hdefault
  fails {a v} hbroken hcell := by
    obtain ⟨v', hv', hread⟩ := hcell
    obtain rfl := Option.some.inj hv'
    rw [h.fails hbroken] at hread
    cases hread
  required _ hcell := by
    obtain ⟨v, hv, -⟩ := hcell
    cases hv

/-- A field with a default, which is read as a part of the value. -/
def ofOptional (name : String) (h : s.Reads read) {default : Json} {b : β}
    (hdefault : read default = some b) (part : α → β) : Column α where
  field := ⟨name, some default, s⟩
  holds a cell := cell.elim (some b) read = some (part a)
  keeps {a cell cell'} halters hcell := by
    cases halters with
    | same => exact hcell
    | respelled hv => exact h.keeps hv hcell
    | omitted hd =>
      obtain rfl := Option.some.inj hd
      exact hdefault.symm.trans hcell
  fails {a v} hbroken hcell := by
    have hnone : read v = some (part a) := hcell
    rw [h.fails hbroken] at hnone
    cases hnone
  required hnone := by cases hnone

end Column

/-! ## Reading records -/

section Reads

variable {α : Type} {read : Json → Option α} {columns : List (Column α)} {v v' : Json} {a : α}

/-- A value is read from a record exactly where every column holds what the value allows. -/
def ReadsColumns (columns : List (Column α)) (read : Json → Option α) : Prop :=
  ∀ v a, read v = some a ↔ v.Regular ((columns.map (·.field)).map (·.name)) ∧
    ∀ (i : Nat) (column : Column α), columns[i]? = some column →
      column.holds a (v.cell? column.field.name i)

theorem forall_getElem?_cons {M : Nat → α → Prop} {x : α} {l : List α} :
    (∀ i y, (x :: l)[i]? = some y → M i y) ↔
      M 0 x ∧ ∀ i y, l[i]? = some y → M (i + 1) y := by
  constructor
  · exact fun h => ⟨h 0 x rfl, fun i y hy => h (i + 1) y hy⟩
  · rintro ⟨hx, hl⟩ i y hy
    cases i with
    | zero =>
      obtain rfl := Option.some.inj hy
      exact hx
    | succ i => exact hl i y hy

/-- It is enough to look at the values of the fields that stand in a record, one for each column. -/
theorem ReadsColumns.of_cells
    (hnone : ∀ v, v.record? ((columns.map (·.field)).map (·.name)) = none → read v = none)
    (hsome : ∀ v a (cell : Nat → Option Json), v.record? ((columns.map (·.field)).map (·.name)) =
        some (columns.mapIdx fun i _ => cell i) →
      (read v = some a ↔ ∀ (i : Nat) (column : Column α), columns[i]? = some column →
        column.holds a (cell i))) : ReadsColumns columns read := by
  intro v a
  by_cases hreg : v.Regular ((columns.map (·.field)).map (·.name))
  · have hcells : v.record? ((columns.map (·.field)).map (·.name)) = some (columns.mapIdx
        fun i _ => (columns[i]?).bind fun column => v.cell? column.field.name i) := by
      rw [record?_of_regular hreg]
      refine congrArg some (List.ext_getElem? fun i => ?_)
      simp only [List.getElem?_mapIdx, List.getElem?_map]
      cases columns[i]? <;> rfl
    rw [hsome v a _ hcells, and_iff_right hreg]
    refine forall_congr' fun i => forall_congr' fun column => ?_
    constructor
    · intro h hi
      have hcell := h hi
      rwa [hi] at hcell
    · intro h hi
      rw [hi]
      exact h hi
  · rw [hnone v (record?_of_not_regular hreg)]
    constructor
    · intro h
      cases h
    · exact fun h => absurd h.1 hreg

/-- No value is read from a record that is broken. -/
theorem ReadsColumns.fails (h : ReadsColumns columns read)
    (hbroken : (Spelling.record (columns.map (·.field))).broken v) : read v = none := by
  rw [Option.eq_none_iff_forall_ne_some]
  intro a ha
  obtain ⟨hreg, hholds⟩ := (h v a).mp ha
  have hcolumn : ∀ {i : Nat} {field : Field}, (columns.map (·.field))[i]? = some field →
      ∃ column : Column α, column.field = field ∧ column.holds a (v.cell? field.name i) := by
    intro i field hi
    rw [List.getElem?_map, Option.map_eq_some_iff] at hi
    obtain ⟨column, hi, rfl⟩ := hi
    exact ⟨column, rfl, hholds i column hi⟩
  cases hbroken with
  | repeated hfield hlt =>
    exact absurd (hreg.2 _ (List.mem_map_of_mem hfield)) (Nat.not_le.mpr hlt)
  | missing hfield hdefault hzero =>
    obtain ⟨i, hi⟩ := List.mem_iff_getElem?.mp hfield
    obtain ⟨column, rfl, hcell⟩ := hcolumn hi
    rw [cell?, field?_eq_none_iff.mpr hzero] at hcell
    exact column.required hdefault hcell
  | short hi hdefault hle =>
    obtain ⟨column, rfl, hcell⟩ := hcolumn hi
    rw [cell?, List.getElem?_eq_none hle] at hcell
    exact column.required hdefault hcell
  | member hfield hmem hbroken =>
    obtain ⟨i, hi⟩ := List.mem_iff_getElem?.mp hfield
    obtain ⟨column, rfl, hcell⟩ := hcolumn hi
    rw [cell?, (field?_eq_some_iff (hreg.2 _ (List.mem_map_of_mem hfield))).mpr hmem] at hcell
    exact column.fails hbroken hcell
  | element hi hv hbroken =>
    obtain ⟨column, rfl, hcell⟩ := hcolumn hi
    rw [cell?, hv] at hcell
    exact column.fails hbroken hcell

/-- A record is read in all its spellings, and not when it is broken. -/
theorem ReadsColumns.reads (h : ReadsColumns columns read)
    (hnames : ((columns.map (·.field)).map (·.name)).Nodup) :
    (Spelling.record (columns.map (·.field))).Reads read where
  keeps {v v' a} hstep ha := by
    obtain ⟨hreg, hholds⟩ := (h v a).mp ha
    have halters := alters_of_respells hnames hreg hstep
    refine (h v' a).mpr ⟨halters.regular, fun i column hi => ?_⟩
    have hfield : (columns.map (·.field))[i]? = some column.field := by
      rw [List.getElem?_map, hi, Option.map_some]
    exact column.keeps (halters.cell hfield) (hholds i column hi)
  fails := h.fails

end Reads

end RoadRouting.Json
