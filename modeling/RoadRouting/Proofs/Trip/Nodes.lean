import RoadRouting.Proofs.Network.Around
import RoadRouting.Trip.Basic

/-!
# The nodes of a trip

A trip between existing road points of a consistent network has the joints of the network and the
nodes of its two endpoints. Each of these nodes has road points of its own, so a road point tells
its node.

* `Trip.Proper`: what a trip between two existing road points is made of.
* `Trip.IsNode`: the joints and the two nodes of the endpoints.
* `Trip.nodeOf?`: the node of a road point.
* `Trip.Proper.eq_or_mem_joint`: two points of one node are the same or belong to one joint.
* `Trip.Proper.points_spec`: the points of a node are the road points that tell this node.
-/

namespace RoadRouting.Trip

variable {K W : Type} {t : Trip K} {x : RoadPoint} {n j : Nat}

/-- The network is consistent, the endpoints exist, and each of them is a joint or has the number
    reserved for it, except that equal endpoints are one node. -/
structure Proper (t : Trip K) : Prop where
  consistent : t.network.Consistent
  start_valid : t.network.hasPoint t.start.point = true
  finish_valid : t.network.hasPoint t.finish.point = true
  start_reserved : t.start.reserved = t.network.joints.count
  finish_reserved : t.finish.reserved = t.network.joints.count + 1
  start_node : t.start.node =
    (t.network.owners.find? t.start.point).getD t.network.joints.count
  finish_node : t.finish.node =
    (if t.start.point = t.finish.point then some t.start.node
      else t.network.owners.find? t.finish.point).getD (t.network.joints.count + 1)

theorem proper_between {net : Network K} {p q : RoadPoint} (hnet : net.Consistent)
    (hp : net.hasPoint p = true) (hq : net.hasPoint q = true) : (between net p q).Proper where
  consistent := hnet
  start_valid := hp
  finish_valid := hq
  start_reserved := rfl
  finish_reserved := rfl
  start_node := rfl
  finish_node := rfl

/-- The joints of the network and the nodes of the endpoints. -/
def IsNode (t : Trip K) (n : Nat) : Prop :=
  n < t.network.joints.count ∨ n = t.start.node ∨ n = t.finish.node

theorem isNode_start : t.IsNode t.start.node := .inr (.inl rfl)

theorem isNode_finish : t.IsNode t.finish.node := .inr (.inr rfl)

/-- The node that a road point belongs to. -/
def nodeOf? (t : Trip K) (x : RoadPoint) : Option Nat :=
  match t.network.owners.find? x with
  | some j => some j
  | none =>
    if x = t.start.point then some t.network.joints.count
    else if x = t.finish.point then some (t.network.joints.count + 1)
    else none

theorem nodeOf?_of_owner (h : t.network.owners.find? x = some j) : t.nodeOf? x = some j := by
  rw [nodeOf?, h]

theorem nodeOf?_of_free (h : t.network.owners.find? x = none) : t.nodeOf? x =
    if x = t.start.point then some t.network.joints.count
    else if x = t.finish.point then some (t.network.joints.count + 1)
    else none := by
  rw [nodeOf?, h]

theorem exists_nodeOf?_iff : (∃ n, t.nodeOf? x = some n) ↔
    (∃ j, t.network.owners.find? x = some j) ∨ x = t.start.point ∨ x = t.finish.point := by
  cases hx : t.network.owners.find? x with
  | some j => simp [nodeOf?_of_owner hx]
  | none =>
    rw [nodeOf?_of_free hx]
    split
    case isTrue hs => simp [hs]
    case isFalse hs =>
      split
      case isTrue hf => simp [hf]
      case isFalse hf => simp [hs, hf]

theorem nodeOf?_eq_joint_iff (hn : n < t.network.joints.count) :
    t.nodeOf? x = some n ↔ t.network.owners.find? x = some n := by
  cases hx : t.network.owners.find? x with
  | some j => rw [nodeOf?_of_owner hx]
  | none =>
    rw [nodeOf?_of_free hx]
    split
    · simp
      omega
    · split <;> simp
      omega

namespace Proper

theorem nodeOf?_start (h : t.Proper) : t.nodeOf? t.start.point = some t.start.node := by
  rw [h.start_node]
  cases hx : t.network.owners.find? t.start.point with
  | some j => rw [nodeOf?_of_owner hx, Option.getD_some]
  | none => rw [nodeOf?_of_free hx, if_pos rfl, Option.getD_none]

theorem nodeOf?_finish (h : t.Proper) : t.nodeOf? t.finish.point = some t.finish.node := by
  rw [h.finish_node]
  by_cases heq : t.start.point = t.finish.point
  · rw [if_pos heq, ← heq, h.nodeOf?_start, Option.getD_some]
  · rw [if_neg heq]
    cases hx : t.network.owners.find? t.finish.point with
    | some j => rw [nodeOf?_of_owner hx, Option.getD_some]
    | none =>
      rw [nodeOf?_of_free hx, if_neg (Ne.symm heq), if_pos rfl, Option.getD_none]

theorem valid_of_nodeOf? (h : t.Proper) (hx : t.nodeOf? x = some n) :
    t.network.hasPoint x = true := by
  rcases exists_nodeOf?_iff.mp ⟨n, hx⟩ with ⟨j, hj⟩ | rfl | rfl
  · exact h.consistent.valid hj
  · exact h.start_valid
  · exact h.finish_valid

theorem isNode_of_nodeOf? (h : t.Proper) (hx : t.nodeOf? x = some n) : t.IsNode n := by
  rcases exists_nodeOf?_iff.mp ⟨n, hx⟩ with ⟨j, hj⟩ | rfl | rfl
  · rw [nodeOf?_of_owner hj] at hx
    cases hx
    exact .inl (h.consistent.lt_count hj)
  · rw [h.nodeOf?_start] at hx
    exact .inr (.inl (Option.some.inj hx).symm)
  · rw [h.nodeOf?_finish] at hx
    exact .inr (.inr (Option.some.inj hx).symm)

/-- A node is a joint, or the number reserved for an endpoint that is no joint. -/
theorem isNode_cases (h : t.Proper) (hn : t.IsNode n) : n < t.network.joints.count ∨
    (n = t.network.joints.count ∧ t.network.owners.find? t.start.point = none) ∨
    (n = t.network.joints.count + 1 ∧ t.network.owners.find? t.finish.point = none ∧
      t.finish.point ≠ t.start.point) := by
  have hstart : t.start.node < t.network.joints.count ∨
      (t.start.node = t.network.joints.count ∧
        t.network.owners.find? t.start.point = none) := by
    rw [h.start_node]
    cases hx : t.network.owners.find? t.start.point with
    | some j => exact .inl (h.consistent.lt_count hx)
    | none => exact .inr ⟨rfl, rfl⟩
  rcases hn with hn | rfl | rfl
  · exact .inl hn
  · exact hstart.imp_right .inl
  · rw [h.finish_node]
    by_cases heq : t.start.point = t.finish.point
    · rw [if_pos heq]
      exact hstart.imp_right .inl
    · rw [if_neg heq]
      cases hx : t.network.owners.find? t.finish.point with
      | some j => exact .inl (h.consistent.lt_count hx)
      | none => exact .inr (.inr ⟨rfl, rfl, Ne.symm heq⟩)

theorem lt_nodeCount (h : t.Proper) (hn : t.IsNode n) : n < t.nodeCount := by
  rw [nodeCount]
  rcases h.isNode_cases hn with hn | ⟨rfl, -⟩ | ⟨rfl, -⟩ <;> omega

theorem nodeOf?_eq_first_iff (h : t.Proper) : t.nodeOf? x = some t.network.joints.count ↔
    t.network.owners.find? x = none ∧ x = t.start.point := by
  cases hx : t.network.owners.find? x with
  | some j =>
    have := h.consistent.lt_count hx
    rw [nodeOf?_of_owner hx]
    simp
    omega
  | none =>
    rw [nodeOf?_of_free hx]
    by_cases hs : x = t.start.point
    · simp [hs]
    · by_cases hf : x = t.finish.point <;> simp [hs, hf]

theorem nodeOf?_eq_second_iff (h : t.Proper) : t.nodeOf? x = some (t.network.joints.count + 1) ↔
    t.network.owners.find? x = none ∧ x = t.finish.point ∧ x ≠ t.start.point := by
  cases hx : t.network.owners.find? x with
  | some j =>
    have := h.consistent.lt_count hx
    rw [nodeOf?_of_owner hx]
    simp
    omega
  | none =>
    rw [nodeOf?_of_free hx]
    by_cases hs : x = t.start.point
    · simp [hs]
    · by_cases hf : x = t.finish.point <;> simp [hs, hf]

/-- The points of a node are those of one joint, unless there is only one of them. -/
theorem eq_or_mem_joint (h : t.Proper) {y : RoadPoint} (hx : t.nodeOf? x = some n)
    (hy : t.nodeOf? y = some n) :
    x = y ∨ ∃ j ps, t.network.joints.points j = .ok ps ∧ x ∈ ps ∧ y ∈ ps := by
  rcases h.isNode_cases (h.isNode_of_nodeOf? hx) with hn | ⟨rfl, -⟩ | ⟨rfl, -, -⟩
  · obtain ⟨ps, hps⟩ := Network.exists_points hn
    rw [nodeOf?_eq_joint_iff hn, ← h.consistent.mem_points_iff hps] at hx hy
    exact .inr ⟨n, ps, hps, hx, hy⟩
  · rw [h.nodeOf?_eq_first_iff] at hx hy
    exact .inl (hx.2.trans hy.2.symm)
  · rw [h.nodeOf?_eq_second_iff] at hx hy
    exact .inl (hx.2.1.trans hy.2.1.symm)

/-- Every node has its road points, and these are the ones that tell the node. -/
theorem points_spec (h : t.Proper) (hn : t.IsNode n) :
    ∃ ps, t.points n = .ok ps ∧ ps.Nodup ∧ ∀ x, x ∈ ps ↔ t.nodeOf? x = some n := by
  unfold points
  rw [h.start_reserved, h.finish_reserved]
  rcases h.isNode_cases hn with hn | ⟨rfl, hfree⟩ | ⟨rfl, hfree, hne⟩
  · obtain ⟨ps, hps⟩ := Network.exists_points hn
    refine ⟨ps, ?_, h.consistent.nodup hps, fun x => ?_⟩
    · rw [if_neg (by omega), if_neg (by omega), hps]
    · rw [nodeOf?_eq_joint_iff hn, h.consistent.mem_points_iff hps]
  · refine ⟨[t.start.point], if_pos rfl, List.nodup_singleton _, fun x => ?_⟩
    rw [h.nodeOf?_eq_first_iff, List.mem_singleton]
    constructor
    · rintro rfl
      exact ⟨hfree, rfl⟩
    · exact fun hx => hx.2
  · refine ⟨[t.finish.point], ?_, List.nodup_singleton _, fun x => ?_⟩
    · rw [if_neg (by omega), if_pos rfl]
    · rw [h.nodeOf?_eq_second_iff, List.mem_singleton]
      constructor
      · rintro rfl
        exact ⟨hfree, rfl, hne⟩
      · exact fun hx => hx.2.1

/-! ## Endpoints that are nodes of their own -/

theorem start_isVirtual_iff (h : t.Proper) :
    t.start.isVirtual = true ↔ t.network.owners.find? t.start.point = none := by
  rw [Endpoint.isVirtual, beq_iff_eq, h.start_node, h.start_reserved]
  cases hx : t.network.owners.find? t.start.point with
  | some j =>
    have := h.consistent.lt_count hx
    simp
    omega
  | none => simp

theorem finish_isVirtual_iff (h : t.Proper) : t.finish.isVirtual = true ↔
    t.network.owners.find? t.finish.point = none ∧ t.finish.point ≠ t.start.point := by
  have hnode := h.nodeOf?_finish
  rw [Endpoint.isVirtual, beq_iff_eq, h.finish_reserved]
  constructor
  · intro heq
    rw [heq, h.nodeOf?_eq_second_iff] at hnode
    exact ⟨hnode.1, hnode.2.2⟩
  · intro hfree
    rw [h.nodeOf?_eq_second_iff.mpr ⟨hfree.1, rfl, hfree.2⟩] at hnode
    exact (Option.some.inj hnode).symm

end Proper

end RoadRouting.Trip
