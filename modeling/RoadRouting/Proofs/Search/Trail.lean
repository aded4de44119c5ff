import Mathlib.Data.List.Chain
import Mathlib.Data.List.Perm.Subperm
import RoadRouting.Search.Labels

/-!
# The way back along parents

`Labels.trail` follows parents for at most as many steps as there are labels. Whatever the labels
say, each node of a trail is the parent of the one before it. When every parent on the way is
settled and the way ends, the bound is never reached.

* `Labels.isChain_trail`: a trail goes from parent to parent.
* `Labels.Traced`: the nodes on the way back, without a bound on their number.
* `Labels.Traced.nodup`: no node occurs twice on a way back that ends.
* `Labels.Traced.trail_eq`: the trail is the whole way back.
-/

namespace RoadRouting.Search.Labels

variable {W : Type} [Cost W] {labels : Labels W} {m n p : Nat} {l l' : List Nat}

theorem of_eq_of_getElem? {label : Label W} (h : labels[n]? = some label) :
    labels.of n = label := by
  rw [of, Std.TreeMap.getD_eq_getD_getElem?, h, Option.getD_some]

theorem of_eq_unmet_of_getElem? (h : labels[n]? = none) : labels.of n = .unmet := by
  rw [of, Std.TreeMap.getD_eq_getD_getElem?, h, Option.getD_none]

/-- Only a label that is stored differs from that of a node that was never met. -/
theorem getElem?_of_ne_unmet (h : labels.of n ≠ .unmet) : labels[n]? = some (labels.of n) := by
  cases hn : labels[n]? with
  | none => exact absurd (of_eq_unmet_of_getElem? hn) h
  | some label => rw [of_eq_of_getElem? hn]

theorem ne_unmet_of_settled (h : (labels.of n).settled = true) : labels.of n ≠ .unmet := by
  intro hn
  rw [hn] at h
  cases h

theorem mem_of_settled (h : (labels.of n).settled = true) : n ∈ labels := by
  rw [Std.TreeMap.mem_iff_isSome_getElem?, getElem?_of_ne_unmet (ne_unmet_of_settled h),
    Option.isSome_some]

@[simp] theorem of_start (origin : Nat) :
    of (start origin : Labels W) n = if origin = n then .origin else .unmet := by
  rw [start, of_insert]
  split
  · rfl
  · exact of_eq_unmet_of_getElem? Std.TreeMap.getElem?_emptyc

/-! ## Parents -/

theorem climb_of_parent (h : (labels.of n).parent = some p) (steps : Nat) :
    labels.climb (steps + 1) n = p :: labels.climb steps p := by
  have hn : labels[n]? = some (labels.of n) := by
    apply getElem?_of_ne_unmet
    intro hn
    rw [hn] at h
    cases h
  rw [climb, hn]
  cases hl : labels.of n with
  | mk cost parent settled =>
    rw [hl] at h
    cases h
    rfl

theorem climb_of_no_parent (h : (labels.of n).parent = none) (steps : Nat) :
    labels.climb steps n = [] := by
  cases steps with
  | zero => rfl
  | succ steps =>
    rw [climb]
    cases hn : labels[n]? with
    | none => rfl
    | some label =>
      rw [of_eq_of_getElem? hn] at h
      obtain ⟨cost, parent, settled⟩ := label
      cases h
      rfl

theorem isChain_climb (steps n : Nat) :
    (n :: labels.climb steps n).IsChain fun child p => (labels.of child).parent = some p := by
  induction steps generalizing n with
  | zero => exact List.isChain_singleton n
  | succ steps ih =>
    cases hn : (labels.of n).parent with
    | none =>
      rw [climb_of_no_parent hn]
      exact List.isChain_singleton n
    | some p =>
      rw [climb_of_parent hn]
      exact List.isChain_cons_cons.mpr ⟨hn, ih p⟩

theorem isChain_trail (n : Nat) :
    (n :: labels.trail n).IsChain fun child p => (labels.of child).parent = some p :=
  isChain_climb _ _

/-! ## Ways back that end -/

/-- Parents lead back from `n` through the settled nodes `l` to a node without a parent. -/
inductive Traced (labels : Labels W) : Nat → List Nat → Prop
  | root {n : Nat} : (labels.of n).parent = none → Traced labels n []
  | next {n p : Nat} {l : List Nat} : (labels.of n).parent = some p →
      (labels.of p).settled = true → Traced labels p l → Traced labels n (p :: l)

namespace Traced

theorem unique (h : labels.Traced n l) (h' : labels.Traced n l') : l = l' := by
  induction h generalizing l' with
  | root hn =>
    cases h' with
    | root => rfl
    | next hp => rw [hn] at hp; cases hp
  | next hp _ _ ih =>
    cases h' with
    | root hn => rw [hn] at hp; cases hp
    | next hp' _ ht =>
      rw [hp] at hp'
      cases hp'
      rw [ih ht]

theorem exists_shorter (h : labels.Traced n l) (hm : m ∈ l) :
    ∃ l', labels.Traced m l' ∧ l'.length < l.length := by
  induction h with
  | root => cases hm
  | @next n p l _ _ ht ih =>
    rcases List.mem_cons.mp hm with rfl | hm
    · exact ⟨l, ht, Nat.lt_succ_self _⟩
    · obtain ⟨l', ht', hlt⟩ := ih hm
      exact ⟨l', ht', Nat.lt_succ_of_lt hlt⟩

/-- A node on its own way back would have two ways back of different lengths. -/
theorem not_mem (h : labels.Traced n l) : n ∉ l := by
  intro hn
  obtain ⟨l', h', hlt⟩ := h.exists_shorter hn
  rw [h.unique h'] at hlt
  exact Nat.lt_irrefl _ hlt

theorem nodup (h : labels.Traced n l) : (n :: l).Nodup := by
  induction h with
  | root => exact List.nodup_cons.mpr ⟨List.not_mem_nil, List.nodup_nil⟩
  | next hp hs ht ih => exact List.nodup_cons.mpr ⟨(Traced.next hp hs ht).not_mem, ih⟩

theorem settled_of_mem (h : labels.Traced n l) (hm : m ∈ l) :
    (labels.of m).settled = true := by
  induction h with
  | root => cases hm
  | next _ hs _ ih =>
    rcases List.mem_cons.mp hm with rfl | hm
    · exact hs
    · exact ih hm

theorem length_le (h : labels.Traced n l) : l.length ≤ labels.size := by
  have hsub : l ⊆ labels.keys := fun m hm =>
    Std.TreeMap.mem_keys.mpr (mem_of_settled (h.settled_of_mem hm))
  rw [← Std.TreeMap.length_keys]
  exact ((List.nodup_cons.mp h.nodup).2.subperm hsub).length_le

theorem climb_eq (h : labels.Traced n l) {steps : Nat} (hl : l.length ≤ steps) :
    labels.climb steps n = l := by
  induction h generalizing steps with
  | root hn => exact climb_of_no_parent hn steps
  | next hp _ _ ih =>
    cases steps with
    | zero => cases hl
    | succ steps => rw [climb_of_parent hp, ih (Nat.le_of_succ_le_succ hl)]

theorem trail_eq (h : labels.Traced n l) : labels.trail n = l := h.climb_eq h.length_le

end Traced

end RoadRouting.Search.Labels
