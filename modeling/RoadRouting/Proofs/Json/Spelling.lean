import Mathlib.Logic.Relation
import RoadRouting.Json.Basic

/-!
# Spellings of a value

What is read from JSON can be spelled in many ways. The fields of a record stand in any order, unknown
ones stand between them, and those with a default may be left out. Or the record is the array of its
fields in their order, which may leave out the last ones that have a default. But no known field stands
twice, and none without a default is missing. All of this applies wherever a record stands, also deep
inside of other records and lists.

* `Json.Spelling`: how the values of a type are spelled anew, and which values are broken.
* `Spelling.list`, `Spelling.tagged`, `Spelling.record`: the spellings of composite types.
* `Spelling.Variant`: any number of changes of spelling.
* `Spelling.Reads`: what is read does not depend on the spelling, and nothing broken is read.
* `Spelling.ReadsBack`: what is written is read back from all its spellings.
-/

namespace RoadRouting.Json

/-- The spellings of the values of a type. -/
structure Spelling where
  /-- One change of spelling: the second value says what the first one says. -/
  respells : Json → Json → Prop
  /-- A record in the value lacks a field, or has one twice. -/
  broken : Json → Prop

/-- A field of a record. -/
structure Field where
  name : String
  /-- What the field holds where it is left out. A field without a default must be there. -/
  default : Option Json
  spelling : Spelling

/-! ## Changes of spelling -/

namespace Spelling

/-- Values that have one spelling. -/
def plain : Spelling := ⟨fun _ _ => False, fun _ => False⟩

section List

/-- An item of a list is spelled anew. -/
inductive ItemRespells (s : Spelling) : Json → Json → Prop
  | item {before after : List Json} {v v' : Json} : s.respells v v' →
      ItemRespells s (.array (before ++ v :: after)) (.array (before ++ v' :: after))

/-- An item of a list is broken. -/
inductive ItemBroken (s : Spelling) : Json → Prop
  | item {items : List Json} {v : Json} : v ∈ items → s.broken v → ItemBroken s (.array items)

/-- Lists of values. -/
def list (s : Spelling) : Spelling := ⟨s.ItemRespells, s.ItemBroken⟩

end List

section Tagged

/-- What is held under the name of a case is spelled anew. -/
inductive CaseRespells (cases : List (String × Spelling)) : Json → Json → Prop
  | content {name : String} {s : Spelling} {v v' : Json} : (name, s) ∈ cases → s.respells v v' →
      CaseRespells cases (.object [(some name, v)]) (.object [(some name, v')])

/-- What is held under the name of a case is broken. -/
inductive CaseBroken (cases : List (String × Spelling)) : Json → Prop
  | content {name : String} {s : Spelling} {v : Json} : (name, s) ∈ cases → s.broken v →
      CaseBroken cases (.object [(some name, v)])

/-- Values of one of several cases, each an object with one field that has the name of the case. -/
def tagged (cases : List (String × Spelling)) : Spelling := ⟨CaseRespells cases, CaseBroken cases⟩

end Tagged

section Record

/-- A record is spelled anew. Fields are added, left out and spelled anew at the front, to which any
    field can be moved. -/
inductive RecordRespells (fields : List Field) : Json → Json → Prop
  | permute {members members' : List (Option String × Json)} : members.Perm members' →
      RecordRespells fields (.object members) (.object members')
  | add {members : List (Option String × Json)} {name : String} {v : Json} :
      name ∉ fields.map (·.name) →
      RecordRespells fields (.object members) (.object ((some name, v) :: members))
  | leaveOut {members : List (Option String × Json)} {field : Field} {v : Json} : field ∈ fields →
      field.default = some v →
      RecordRespells fields (.object ((some field.name, v) :: members)) (.object members)
  | member {members : List (Option String × Json)} {field : Field} {v v' : Json} :
      field ∈ fields → field.spelling.respells v v' →
      RecordRespells fields (.object ((some field.name, v) :: members))
        (.object ((some field.name, v') :: members))
  | positional {items : List Json} : items.length = fields.length →
      RecordRespells fields (.ofFields ((fields.map (·.name)).zip items)) (.array items)
  | drop {items : List Json} {field : Field} {v : Json} : fields[items.length]? = some field →
      field.default = some v → RecordRespells fields (.array (items ++ [v])) (.array items)
  | element {before after : List Json} {field : Field} {v v' : Json} :
      fields[before.length]? = some field → field.spelling.respells v v' →
      RecordRespells fields (.array (before ++ v :: after)) (.array (before ++ v' :: after))

/-- A record has a field twice, lacks one that has no default, or has a broken one. -/
inductive RecordBroken (fields : List Field) : Json → Prop
  | repeated {members : List (Option String × Json)} {field : Field} : field ∈ fields →
      1 < occurrences field.name members → RecordBroken fields (.object members)
  | missing {members : List (Option String × Json)} {field : Field} : field ∈ fields →
      field.default = none → occurrences field.name members = 0 →
      RecordBroken fields (.object members)
  | short {items : List Json} {field : Field} {i : Nat} : fields[i]? = some field →
      field.default = none → items.length ≤ i → RecordBroken fields (.array items)
  | member {members : List (Option String × Json)} {field : Field} {v : Json} : field ∈ fields →
      (some field.name, v) ∈ members → field.spelling.broken v →
      RecordBroken fields (.object members)
  | element {items : List Json} {field : Field} {i : Nat} {v : Json} : fields[i]? = some field →
      items[i]? = some v → field.spelling.broken v → RecordBroken fields (.array items)

/-- Records with the given fields. -/
def record (fields : List Field) : Spelling := ⟨RecordRespells fields, RecordBroken fields⟩

end Record

/-- Any number of changes of spelling. -/
def Variant (s : Spelling) : Json → Json → Prop := Relation.ReflTransGen s.respells

/-- What is read does not depend on the spelling, and nothing is read from a broken value. -/
structure Reads {α : Type} (read : Json → Option α) (s : Spelling) : Prop where
  keeps : ∀ {v v' a}, s.respells v v' → read v = some a → read v' = some a
  fails : ∀ {v}, s.broken v → read v = none

namespace Reads

variable {α : Type} {read : Json → Option α} {s : Spelling} {v v' : Json} {a : α}

theorem variant (h : Reads read s) (hv : s.Variant v v') (ha : read v = some a) :
    read v' = some a := by
  induction hv with
  | refl => exact ha
  | tail _ hstep ih => exact h.keeps hstep ih

theorem plain (read : Json → Option α) : Reads read .plain := ⟨False.elim, False.elim⟩

/-- A list is read item by item. -/
theorem list (h : Reads read s) : Reads (listOf? read) s.list where
  keeps {v v' items} hstep hread := by
    obtain @⟨before, after, v, v', hv⟩ := hstep
    simp only [listOf?, List.mapM_append, List.mapM_cons, Option.bind_eq_bind,
      Option.bind_eq_some_iff] at hread ⊢
    obtain ⟨as, has, bs, ⟨a, ha, hbs⟩, hitems⟩ := hread
    exact ⟨as, has, bs, ⟨a, h.keeps hv ha, hbs⟩, hitems⟩
  fails {v} hbroken := by
    obtain @⟨items, v, hv, hbroken⟩ := hbroken
    obtain ⟨before, after, rfl⟩ := List.append_of_mem hv
    have hnone := h.fails hbroken
    rw [Option.eq_none_iff_forall_ne_some]
    intro as has
    simp only [listOf?, List.mapM_append, List.mapM_cons, Option.bind_eq_bind,
      Option.bind_eq_some_iff, hnone, reduceCtorEq, false_and, exists_false, and_false] at has

/-- What is read can be made part of another value. -/
theorem map {β : Type} (h : Reads read s) (g : α → β) : Reads (fun v => (read v).map g) s where
  keeps {v v' b} hstep hread := by
    obtain ⟨a, ha, rfl⟩ := Option.map_eq_some_iff.mp hread
    rw [h.keeps hstep ha, Option.map_some]
  fails hbroken := by rw [h.fails hbroken, Option.map_none]

end Reads

/-- What is written of the values of a type is read back, in any spelling, and nothing is read from a
    broken value. -/
structure ReadsBack {α : Type} (s : Spelling) (expressible : α → Prop) (write : α → Json)
    (read : Json → Option α) : Prop where
  same : ∀ {a}, expressible a → read (write a) = some a
  variant : ∀ {a v}, expressible a → s.Variant (write a) v → read v = some a
  broken : ∀ {v}, s.broken v → read v = none

theorem Reads.readsBack {α : Type} {s : Spelling} {expressible : α → Prop} {write : α → Json}
    {read : Json → Option α} (h : s.Reads read)
    (hwrite : ∀ a, expressible a → read (write a) = some a) :
    s.ReadsBack expressible write read where
  same := hwrite _
  variant ha hv := h.variant hv (hwrite _ ha)
  broken := h.fails

end Spelling

/-- A list is read back if its items are. -/
theorem listOf?_map {α : Type} {read : Json → Option α} {write : α → Json} {l : List α}
    (h : ∀ a ∈ l, read (write a) = some a) : listOf? read (array (l.map write)) = some l := by
  rw [listOf?]
  induction l with
  | nil => rfl
  | cons a l ih =>
    obtain ⟨ha, hl⟩ := List.forall_mem_cons.mp h
    rw [List.map_cons, List.mapM_cons, ha, ih hl]
    rfl

end RoadRouting.Json
