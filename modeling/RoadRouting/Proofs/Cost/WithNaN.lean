import Mathlib.Algebra.Order.BigOperators.Group.List
import Mathlib.Algebra.Order.Group.Nat
import RoadRouting.Proofs.Cost.Ranked
import RoadRouting.Proofs.Graph.Walk

/-!
# Costs that are no number

The arithmetic of binary64 knows a value that is no number: it is neither below nor above anything, a
sum with it is no number either, and the order of a frontier puts it at one of its two ends. An
estimator yields it where a distance overflows.

* `WithNaN`: the numbers of some type of costs, and a value that is none of them.
* `WithNaN.instRanked`: a frontier can sort them all.
* `Graph.numbers`: a graph with only those edges whose weight is a number.
* `Graph.Domain.numbers`, `Graph.Mirrored.numbers`: what it keeps of the graph.
-/

namespace RoadRouting

variable {ε W : Type} {first : Bool}

/-- The numbers of some type of costs, and one more value. In the order of a frontier it comes before
    all numbers if it is `first`, and after them otherwise. -/
inductive WithNaN (first : Bool) (W : Type) where
  | number (w : W)
  | nan
deriving Repr, DecidableEq

namespace WithNaN

/-- The number, if the value is one. -/
def number? : WithNaN first W → Option W
  | number w => some w
  | nan => none

section Operations

variable [Cost W]

/-- The sum, no number if one of the two is none. -/
def add : WithNaN first W → WithNaN first W → WithNaN first W
  | number a, number b => number (a + b)
  | _, _ => nan

/-- The first is below the second, and both are numbers. -/
def Less : WithNaN first W → WithNaN first W → Prop
  | number a, number b => a < b
  | _, _ => False

/-- The first is not above the second, and both are numbers. -/
def AtMost : WithNaN first W → WithNaN first W → Prop
  | number a, number b => a ≤ b
  | _, _ => False

/-- The order of a frontier. -/
def rank : WithNaN first W → WithNaN first W → Ordering
  | number a, number b => Cost.rank a b
  | number _, nan => if first then .gt else .lt
  | nan, number _ => if first then .lt else .gt
  | nan, nan => .eq

/-- The comparison of numbers decides that of all values. -/
def decideLess : (a b : WithNaN first W) → Decidable (Less a b)
  | number a, number b => Cost.decideLT a b
  | number _, nan => isFalse id
  | nan, _ => isFalse id

/-- The comparison of numbers decides that of all values. -/
def decideAtMost : (a b : WithNaN first W) → Decidable (AtMost a b)
  | number a, number b => Cost.decideLE a b
  | number _, nan => isFalse id
  | nan, _ => isFalse id

instance instCost : Cost (WithNaN first W) where
  zero := number 0
  add := add
  lt := Less
  le := AtMost
  infinity := number Cost.infinity
  rank := rank
  decideLT := decideLess
  decideLE := decideAtMost

variable {a b : WithNaN first W} {x y : W}

@[simp] theorem number_lt_number : (number x : WithNaN first W) < number y ↔ x < y := Iff.rfl

@[simp] theorem number_add_number : (number x + number y : WithNaN first W) = number (x + y) := rfl

/-- Two values compare only as numbers. -/
theorem lt_iff : a < b ↔ ∃ x y, a = number x ∧ b = number y ∧ x < y := by
  constructor
  · intro h
    cases a with
    | nan => exact h.elim
    | number x =>
      cases b with
      | nan => exact h.elim
      | number y => exact ⟨x, y, rfl, rfl, h⟩
  · rintro ⟨x, y, rfl, rfl, h⟩
    exact h

/-- A sum is a number if both summands are. -/
theorem add_eq_number_iff {z : W} :
    a + b = number z ↔ ∃ x y, a = number x ∧ b = number y ∧ x + y = z := by
  constructor
  · intro h
    cases a with
    | nan => cases h
    | number x =>
      cases b with
      | nan => cases h
      | number y => exact ⟨x, y, rfl, rfl, number.inj h⟩
  · rintro ⟨x, y, rfl, rfl, rfl⟩
    rfl

end Operations

section Ranked

variable [Cost W] [RankedCost W] {a b c : WithNaN first W}

theorem swap_rank : (Cost.rank a b).swap = Cost.rank b a := by
  cases a with
  | number x =>
    cases b with
    | number y => exact (RankedCost.rank_trans (W := W)).eq_swap.symm
    | nan => cases first <;> rfl
  | nan =>
    cases b with
    | number y => cases first <;> rfl
    | nan => rfl

/-- All numbers are on the same side of what is no number. -/
theorem rank_isLE_trans (hab : (Cost.rank a b).isLE = true) (hbc : (Cost.rank b c).isLE = true) :
    (Cost.rank a c).isLE = true := by
  cases a with
  | nan =>
    cases c with
    | nan => rfl
    | number z =>
      cases b with
      | nan => exact hbc
      | number y => exact hab
  | number x =>
    cases c with
    | nan =>
      cases b with
      | nan => exact hab
      | number y => exact hbc
    | number z =>
      cases b with
      | number y => exact (RankedCost.rank_trans (W := W)).isLE_trans hab hbc
      | nan =>
        cases first with
        | true => cases hab
        | false => cases hbc

instance instRanked : RankedCost (WithNaN first W) where
  lt_irrefl a h := by
    obtain ⟨x, y, hx, hy, hxy⟩ := lt_iff.mp h
    rw [hx] at hy
    cases hy
    exact RankedCost.lt_irrefl _ hxy
  lt_trans := by
    intro a b c hab hbc
    obtain ⟨x, y, rfl, rfl, hxy⟩ := lt_iff.mp hab
    obtain ⟨y', z, hy, rfl, hyz⟩ := lt_iff.mp hbc
    cases hy
    exact RankedCost.lt_trans (W := W) hxy hyz
  lt_infinity := by
    intro a b hab
    obtain ⟨x, y, rfl, rfl, hxy⟩ := lt_iff.mp hab
    exact RankedCost.lt_infinity (W := W) hxy
  rank_trans :=
    { eq_swap := swap_rank.symm
      isLE_trans := rank_isLE_trans }

end Ranked

/-- Of two numbers one is below the other, or they are the same. -/
theorem eq_of_not_lt [LinearOrderedAddCommMonoidWithTop W] {a b : WithNaN first W}
    (ha : a < Cost.infinity) (hb : b < Cost.infinity) (hab : ¬ a < b) (hba : ¬ b < a) : a = b := by
  obtain ⟨x, -, rfl, -, -⟩ := lt_iff.mp ha
  obtain ⟨y, -, rfl, -, -⟩ := lt_iff.mp hb
  exact congrArg number (le_antisymm (not_lt.mp hba) (not_lt.mp hab))

/-- A sum with infinity is infinite or no number. -/
theorem not_add_infinity_lt [LinearOrderedAddCommMonoidWithTop W] {a b : WithNaN first W} :
    ¬ a + Cost.infinity < b := by
  intro h
  obtain ⟨x, y, hsum, -, hlt⟩ := lt_iff.mp h
  obtain ⟨u, v, -, hv, rfl⟩ := add_eq_number_iff.mp hsum
  cases hv
  exact not_top_lt (lt_of_eq_of_lt (add_top u).symm hlt)

end WithNaN

/-! ## Graphs -/

/-- The edge, if its weight is a number. -/
def Edge.number? (e : Edge (WithNaN first W)) : Option (Edge W) :=
  e.weight.number?.map (Edge.mk e.target)

@[simp] theorem Edge.number?_number (v : Nat) (w : W) :
    (⟨v, .number w⟩ : Edge (WithNaN first W)).number? = some ⟨v, w⟩ := rfl

@[simp] theorem Edge.number?_nan (v : Nat) :
    (⟨v, .nan⟩ : Edge (WithNaN first W)).number? = none := rfl

theorem Edge.number?_eq_some_iff {e : Edge (WithNaN first W)} {v : Nat} {w : W} :
    e.number? = some ⟨v, w⟩ ↔ e = ⟨v, .number w⟩ := by
  obtain ⟨target, weight⟩ := e
  cases weight <;> simp

/-- The weights that are numbers. -/
theorem Edge.weightsTo_numbers (v : Nat) (es : List (Edge (WithNaN first W))) :
    Edge.weightsTo v (es.filterMap Edge.number?) =
      (Edge.weightsTo v es).filterMap WithNaN.number? := by
  induction es with
  | nil => rfl
  | cons e es ih =>
    obtain ⟨u, w⟩ := e
    unfold weightsTo at ih ⊢
    cases w <;> by_cases hu : u = v <;> simp [List.filterMap_cons, hu, ih, WithNaN.number?]

namespace Graph

/-- The graph without the edges whose weight is no number. -/
def numbers (g : Graph ε (WithNaN first W)) : Graph ε W where
  nodes := g.nodes
  edges d n := (g.edges d n).map (List.filterMap Edge.number?)
  edges_eq_nil := by
    intro d n es hn h
    cases hes : g.edges d n with
    | error x =>
      rw [hes] at h
      cases h
    | ok es' =>
      rw [hes, g.edges_eq_nil hn hes] at h
      cases h
      rfl

variable {g : Graph ε (WithNaN first W)} {P : Nat → Prop} {d : Direction} {n v : Nat} {w : W}

theorem edgesOrNone_numbers (g : Graph ε (WithNaN first W)) (d : Direction) (n : Nat) :
    g.numbers.edgesOrNone d n = (g.edgesOrNone d n).filterMap Edge.number? := by
  have hedges : g.numbers.edges d n = (g.edges d n).map (List.filterMap Edge.number?) := rfl
  rw [edgesOrNone, edgesOrNone, hedges]
  cases g.edges d n <;> rfl

theorem mem_edgesOrNone_numbers :
    ⟨v, w⟩ ∈ g.numbers.edgesOrNone d n ↔ ⟨v, .number w⟩ ∈ g.edgesOrNone d n := by
  rw [edgesOrNone_numbers, List.mem_filterMap]
  constructor
  · rintro ⟨e, he, heq⟩
    rwa [Edge.number?_eq_some_iff.mp heq] at he
  · exact fun he => ⟨_, he, Edge.number?_eq_some_iff.mpr rfl⟩

theorem edgeCount_numbers_le (g : Graph ε (WithNaN first W)) (d : Direction) :
    g.numbers.edgeCount d ≤ g.edgeCount d := by
  have hnodes : g.numbers.nodes = g.nodes := rfl
  rw [edgeCount, edgeCount, hnodes, List.length_flatMap, List.length_flatMap]
  refine List.sum_le_sum fun n _ => ?_
  rw [edgesOrNone_numbers]
  exact List.length_filterMap_le _ _

theorem Domain.numbers (h : g.Domain P) : g.numbers.Domain P where
  lists hn d := by
    obtain ⟨es, hes⟩ := h.lists hn d
    refine ⟨es.filterMap Edge.number?, ?_⟩
    show (g.edges d _).map _ = _
    rw [hes]
    rfl
  stays {n} hn {d e} he := by
    obtain ⟨v, w⟩ := e
    exact h.stays hn (mem_edgesOrNone_numbers.mp he)

theorem Mirrored.numbers (h : g.Mirrored P) : g.numbers.Mirrored P := by
  intro u v hu hv
  rw [edgesOrNone_numbers, edgesOrNone_numbers, Edge.weightsTo_numbers, Edge.weightsTo_numbers]
  exact (h u v hu hv).filterMap _

end Graph

end RoadRouting
