import Mathlib.Algebra.BigOperators.Group.List.Basic
import Mathlib.Data.List.Flatten
import RoadRouting.Proofs.Graph.Walk
import RoadRouting.Proofs.Search.Trail
import RoadRouting.Search.BestFirst
import RoadRouting.Search.TwoSided

/-!
# One side of a search

All searches treat a frontier and labels alike: they take the first entry, drop it if it is stale,
and otherwise settle its node and offer the far end of each of its edges the way through it. They
differ in which offers they accept and in the order of the frontier, which a `Policy` tells.

* `Side.Advance`: one step of one side.
* `Side.Advance.budget_lt`: a step uses up entries of the frontier or edges not yet followed.
* `Side.Linked`: parents are joined to their children by edges, whatever the costs are.
-/

namespace RoadRouting.Search

open TwoSided (Side)
open BestFirst (isStale)

variable {ε W : Type} [Cost W]

/-- Which offers a search accepts, and what it sorts its frontier by. -/
structure Policy (W : Type) where
  /-- A way of the first cost replaces a known way of the second. -/
  accepts : W → W → Bool
  /-- The estimated total of a way of some cost to a node. -/
  total : Nat → W → W

namespace TwoSided.Side

/-! ## Steps -/

/-- The far end of the edge is not settled, and the way through `via` is one to accept. -/
def admits (π : Policy W) (via : Entry W) (s : Side W) (edge : Edge W) : Bool :=
  !(s.labels.of edge.target).settled &&
    π.accepts (via.cost + edge.weight) (s.labels.of edge.target).cost

/-- The far end of the edge is labelled with the way through `via`. -/
def accept (π : Policy W) (via : Entry W) (s : Side W) (edge : Edge W) : Side W where
  labels := s.labels.insert edge.target ⟨via.cost + edge.weight, named? via.node, false⟩
  frontier := s.frontier.push
    ⟨edge.target, via.cost + edge.weight, π.total edge.target (via.cost + edge.weight)⟩

/-- Offers the far end of the edge the way through `via`. -/
def offer (π : Policy W) (via : Entry W) (s : Side W) (edge : Edge W) : Side W :=
  if s.admits π via edge then s.accept π via edge else s

/-- The node of `e` is settled, and the frontier keeps `rest`. -/
def settle (s : Side W) (e : Entry W) (rest : Frontier W) : Side W where
  labels := s.labels.insert e.node { s.labels.of e.node with settled := true }
  frontier := rest

/-- The node of `e` is settled, and its edges are followed. -/
def expand (π : Policy W) (s : Side W) (e : Entry W) (rest : Frontier W) (es : List (Edge W)) :
    Side W :=
  es.foldl (offer π e) (s.settle e rest)

/-- One entry is taken from the frontier. -/
inductive Advance (g : Graph ε W) (d : Direction) (π : Policy W) : Side W → Side W → Prop
  | drop {s : Side W} {e : Entry W} {rest : Frontier W} : s.frontier = e :: rest →
      isStale s.labels e = true → Advance g d π s ⟨rest, s.labels⟩
  | expand {s : Side W} {e : Entry W} {rest : Frontier W} {es : List (Edge W)} :
      s.frontier = e :: rest → isStale s.labels e = false → g.edges d e.node = .ok es →
      Advance g d π s (s.expand π e rest es)

variable {g : Graph ε W} {d : Direction} {π : Policy W} {s s' : Side W} {e via : Entry W}
  {rest : Frontier W} {edge : Edge W} {es : List (Edge W)} {n : Nat}

theorem admits_iff : s.admits π via edge = true ↔ (s.labels.of edge.target).settled = false ∧
    π.accepts (via.cost + edge.weight) (s.labels.of edge.target).cost = true := by
  simp [admits]

theorem isStale_eq_false_iff {labels : Labels W} : isStale labels e = false ↔
    (labels.of e.node).settled = false ∧ ¬ (labels.of e.node).cost < e.cost := by
  simp [isStale]

/-- What holds once the node is settled, and is kept by every accepted offer, holds after the
    expansion. -/
theorem expand_induct {M : Side W → Prop} (hsettle : M (s.settle e rest))
    (haccept : ∀ (s : Side W), M s → ∀ edge ∈ es, s.admits π e edge = true →
      M (s.accept π e edge)) : M (s.expand π e rest es) := by
  refine List.foldlRecOn es _ hsettle fun s hs edge hedge => ?_
  rw [offer]
  split
  case isTrue h => exact haccept s hs edge hedge h
  case isFalse => exact hs

@[simp] theorem of_settle : (s.settle e rest).labels.of n =
    if e.node = n then { s.labels.of e.node with settled := true } else s.labels.of n :=
  Labels.of_insert ..

@[simp] theorem parent_of_settle :
    ((s.settle e rest).labels.of n).parent = (s.labels.of n).parent := by
  rw [of_settle]
  split
  case isTrue h => rw [← h]
  case isFalse => rfl

@[simp] theorem cost_of_settle :
    ((s.settle e rest).labels.of n).cost = (s.labels.of n).cost := by
  rw [of_settle]
  split
  case isTrue h => rw [← h]
  case isFalse => rfl

theorem settled_of_settle : ((s.settle e rest).labels.of n).settled =
    (decide (e.node = n) || (s.labels.of n).settled) := by
  rw [of_settle]
  split <;> simp [*]

theorem settled_settle_node : ((s.settle e rest).labels.of e.node).settled = true := by
  rw [of_settle, if_pos rfl]

@[simp] theorem of_accept : (s.accept π via edge).labels.of n =
    if edge.target = n then ⟨via.cost + edge.weight, named? via.node, false⟩
    else s.labels.of n :=
  Labels.of_insert ..

/-- An accepted offer changes no label of a settled node. -/
theorem of_accept_of_settled (h : s.admits π via edge = true)
    (hn : (s.labels.of n).settled = true) :
    (s.accept π via edge).labels.of n = s.labels.of n := by
  rw [of_accept, if_neg]
  rintro rfl
  rw [(admits_iff.mp h).1] at hn
  cases hn

theorem settled_of_accept (h : s.admits π via edge = true) :
    ((s.accept π via edge).labels.of n).settled = (s.labels.of n).settled := by
  rw [of_accept]
  split
  case isTrue hn => rw [← hn, (admits_iff.mp h).1]
  case isFalse => rfl

theorem settled_of_expand : ((s.expand π e rest es).labels.of n).settled =
    (decide (e.node = n) || (s.labels.of n).settled) := by
  refine expand_induct (M := fun s' => (s'.labels.of n).settled = _) settled_of_settle ?_
  intro s' hs' edge _ h
  rw [settled_of_accept h, hs']

/-! ## The work that is left -/

/-- The number of edges at nodes that are not settled. -/
def unsettledEdges (g : Graph ε W) (d : Direction) (labels : Labels W) : Nat :=
  ((g.nodes.filter fun n => !(labels.of n).settled).flatMap (g.edgesOrNone d)).length

/-- Each step takes one entry from the frontier, and each edge puts at most one into it. -/
def budget (g : Graph ε W) (d : Direction) (s : Side W) : Nat :=
  s.frontier.length + unsettledEdges g d s.labels

theorem unsettledEdges_congr {labels labels' : Labels W}
    (h : ∀ n, (labels'.of n).settled = (labels.of n).settled) :
    unsettledEdges g d labels' = unsettledEdges g d labels := by
  simp only [unsettledEdges, h]

theorem unsettledEdges_le (labels : Labels W) : unsettledEdges g d labels ≤ g.edgeCount d :=
  (List.filter_sublist.flatMap _).length_le

/-- Settling a node takes its edges out of the count. -/
theorem unsettledEdges_settle (h : (s.labels.of e.node).settled = false) :
    unsettledEdges g d (s.settle e rest).labels + (g.edgesOrNone d e.node).length ≤
      unsettledEdges g d s.labels := by
  let isNode : Nat → Bool := fun n => decide (e.node = n)
  let nodes := g.nodes.filter fun n => !(s.labels.of n).settled
  have hfilter : (g.nodes.filter fun n => !((s.settle e rest).labels.of n).settled) =
      nodes.filter fun n => !isNode n := by
    rw [List.filter_filter]
    simp only [settled_of_settle, Bool.not_or, isNode]
  have hsplit := ((List.filter_append_perm isNode nodes).flatMap_right (g.edgesOrNone d)).length_eq
  rw [List.flatMap_append, List.length_append] at hsplit
  have hnode : (g.edgesOrNone d e.node).length ≤
      ((nodes.filter isNode).flatMap (g.edgesOrNone d)).length := by
    by_cases hn : e.node ∈ g.nodes
    · have hmem : e.node ∈ nodes.filter isNode := by
        simp [nodes, isNode, hn, h]
      obtain ⟨before, after, heq⟩ := List.append_of_mem hmem
      rw [heq, List.flatMap_append, List.flatMap_cons, List.length_append, List.length_append]
      omega
    · -- a node that the graph does not list has no edges
      have hnil : g.edgesOrNone d e.node = [] := by
        rw [Graph.edgesOrNone]
        split
        case h_1 es hes => exact g.edges_eq_nil hn hes
        case h_2 => rfl
      rw [hnil]
      exact Nat.zero_le _
  have hcount : unsettledEdges g d s.labels = (nodes.flatMap (g.edgesOrNone d)).length := rfl
  rw [unsettledEdges, hfilter, hcount]
  omega

theorem budget_offer_le (edge : Edge W) :
    (s.offer π via edge).budget g d ≤ s.budget g d + 1 := by
  rw [offer]
  split
  case isTrue h =>
    rw [budget, budget, unsettledEdges_congr fun n => settled_of_accept h, accept,
      Frontier.length_push]
    omega
  case isFalse => exact Nat.le_succ _

theorem budget_offers_le (via : Entry W) (es : List (Edge W)) (s : Side W) :
    (es.foldl (offer π via) s).budget g d ≤ s.budget g d + es.length := by
  induction es generalizing s with
  | nil => exact Nat.le_refl _
  | cons edge es ih =>
    have hedge : (s.offer π via edge).budget g d ≤ s.budget g d + 1 := budget_offer_le edge
    have hes := ih (s.offer π via edge)
    rw [List.foldl_cons, List.length_cons]
    omega

theorem Advance.budget_lt (h : Advance g d π s s') : s'.budget g d < s.budget g d := by
  cases h with
  | drop hf _ =>
    rw [budget, budget, hf, List.length_cons]
    dsimp only
    omega
  | @expand e rest es hf hs hes =>
    have hnode : unsettledEdges g d (s.settle e rest).labels + es.length ≤
        unsettledEdges g d s.labels := by
      rw [← Graph.edgesOrNone_eq hes]
      exact unsettledEdges_settle (isStale_eq_false_iff.mp hs).1
    calc (s.expand π e rest es).budget g d
        ≤ (s.settle e rest).budget g d + es.length := budget_offers_le e es _
      _ = rest.length + (unsettledEdges g d (s.settle e rest).labels + es.length) :=
          Nat.add_assoc ..
      _ < (e :: rest).length + unsettledEdges g d s.labels := by
          rw [List.length_cons]
          omega
      _ = s.budget g d := by rw [budget, hf]

/-! ## Parents and edges -/

/-- Every parent is joined to its child by an edge, and is another node. The nodes belong to `P`. -/
structure Linked (g : Graph ε W) (d : Direction) (P : Nat → Prop) (s : Side W) : Prop where
  entry : ∀ e ∈ s.frontier, P e.node
  parent : ∀ {n p}, (s.labels.of n).parent = some p →
    P p ∧ P n ∧ p ≠ n ∧ ∃ e ∈ g.edgesOrNone d p, e.target = n

namespace Linked

variable {P : Nat → Prop}

theorem settle (h : s.Linked g d P) (hf : s.frontier = e :: rest) :
    (s.settle e rest).Linked g d P where
  entry x hx := h.entry x (Frontier.mem_of_mem_rest hf hx)
  parent hp := h.parent (by rwa [parent_of_settle] at hp)

theorem accept (h : s.Linked g d P) (hg : g.Domain P) (hvia : P via.node)
    (hsettled : (s.labels.of via.node).settled = true) (hedge : edge ∈ g.edgesOrNone d via.node)
    (hadmits : s.admits π via edge = true) : (s.accept π via edge).Linked g d P where
  entry x hx := by
    rcases Frontier.mem_push.mp hx with rfl | hx
    · exact hg.stays hvia hedge
    · exact h.entry x hx
  parent {n p} hp := by
    rw [of_accept] at hp
    split at hp
    case isFalse => exact h.parent hp
    case isTrue hn =>
      subst hn
      obtain rfl : via.node = p := eq_of_named? hp
      refine ⟨hvia, hg.stays hvia hedge, ?_, edge, hedge, rfl⟩
      -- the node of `via` is settled, and the far end of the edge is not
      intro heq
      rw [heq, (admits_iff.mp hadmits).1] at hsettled
      cases hsettled

theorem advance (h : s.Linked g d P) (hg : g.Domain P) (ha : Advance g d π s s') :
    s'.Linked g d P := by
  cases ha with
  | drop hf _ =>
    exact ⟨fun x hx => h.entry x (Frontier.mem_of_mem_rest hf hx), h.parent⟩
  | @expand e rest es hf _ hes =>
    have hP : P e.node := h.entry e (Frontier.front_mem hf)
    refine (expand_induct (M := fun s' => s'.Linked g d P ∧
      (s'.labels.of e.node).settled = true) ⟨h.settle hf, settled_settle_node⟩ ?_).1
    intro s' ⟨hs', hset'⟩ edge hedge hadmits
    rw [← Graph.edgesOrNone_eq hes] at hedge
    exact ⟨hs'.accept hg hP hset' hedge hadmits, by rwa [settled_of_accept hadmits]⟩

end Linked

end TwoSided.Side

end RoadRouting.Search
