import Mathlib.Data.List.Perm.Subperm
import Mathlib.Data.Set.Finite.Lattice
import Mathlib.Data.Set.Finite.Lemmas
import Mathlib.Data.Set.Finite.List
import RoadRouting.Proofs.Graph.Walk

/-!
# Distances

Without negative weights a walk that comes back to a node can be cut short there. So in a graph with
finitely many nodes some walk costs least, however many walks there are.

* `Graph.Distance`: the least cost of a walk, infinite if no walk costs less than that.
* `Graph.Walk.exists_nodup`: a walk that visits no node twice, and costs no more.
* `Graph.exists_distance`: any two nodes have a distance.
* `Graph.Walk.transfer`: a walk is followed wherever its edges are listed.
* `Graph.Distance.congr`: graphs that follow each other's walks have the same distances.
-/

namespace RoadRouting.Graph

variable {ε ε' W : Type} [LinearOrderedAddCommMonoidWithTop W] {g : Graph ε W} {g' : Graph ε' W}
  {P : Nat → Prop} {d : Direction} {origin last u v m : Nat} {nodes : List Nat} {c : W}

/-- The least cost of a walk from one node to another, infinite when no walk is of finite cost. -/
def Distance (g : Graph ε W) (u v : Nat) (c : W) : Prop :=
  IsLeast (insert ⊤ {c | ∃ nodes, g.Walk .outgoing u nodes v c}) c

/-! ## Shortcuts -/

namespace Walk

/-- A walk has come to each of its nodes at no greater cost. -/
theorem upTo (hg : g.Domain P) (hw : g.NonNegative P) (ho : P origin)
    (h : g.Walk d origin nodes last c) (hm : m ∈ nodes) :
    ∃ nodes' c', g.Walk d origin nodes' m c' ∧ c' ≤ c ∧ nodes' <+: nodes := by
  induction h with
  | here =>
    obtain rfl := List.mem_singleton.mp hm
    exact ⟨_, _, .here, le_rfl, List.prefix_rfl⟩
  | @step nodes u v c w hwalk he ih =>
    rcases List.mem_append.mp hm with hm | hm
    · obtain ⟨nodes', c', hwalk', hle, hprefix⟩ := ih hm
      have hnonneg : 0 ≤ w := hw _ (hwalk.last_mem_domain hg ho) d _ he
      exact ⟨nodes', c', hwalk', le_trans hle (le_add_of_nonneg_right hnonneg),
        hprefix.trans (List.prefix_append _ _)⟩
    · obtain rfl := List.mem_singleton.mp hm
      exact ⟨_, _, .step hwalk he, le_rfl, List.prefix_rfl⟩

theorem exists_nodup (hg : g.Domain P) (hw : g.NonNegative P) (ho : P origin)
    (h : g.Walk d origin nodes last c) :
    ∃ nodes' c', g.Walk d origin nodes' last c' ∧ c' ≤ c ∧ nodes'.Nodup := by
  induction h with
  | here => exact ⟨_, _, .here, le_rfl, List.nodup_singleton _⟩
  | @step nodes u v c w hwalk he ih =>
    obtain ⟨nodes₁, c₁, hwalk₁, hle₁, hnodup⟩ := ih
    have hle : c₁ + w ≤ c + w := add_le_add_left hle₁ w
    by_cases hv : v ∈ nodes₁
    · -- the walk has been at `v` before
      have hstep : g.Walk d origin (nodes₁ ++ [v]) v (c₁ + w) := .step hwalk₁ he
      have hnonneg : 0 ≤ w := hw _ (hwalk.last_mem_domain hg ho) d _ he
      obtain ⟨nodes₂, c₂, hwalk₂, hle₂, hprefix⟩ := hwalk₁.upTo hg hw ho hv
      exact ⟨nodes₂, c₂, hwalk₂, le_trans hle₂ (le_trans (le_add_of_nonneg_right hnonneg) hle),
        hnodup.sublist hprefix.sublist⟩
    · refine ⟨_, _, .step hwalk₁ he, hle, ?_⟩
      rw [← List.concat_eq_append]
      exact hnodup.concat hv

/-- A walk in the domain of a graph is one in every graph that lists its edges. -/
theorem transfer (hg : g.Domain P) (ho : P origin)
    (hsub : ∀ n, P n → g.edgesOrNone d n ⊆ g'.edgesOrNone d n)
    (h : g.Walk d origin nodes last c) : g'.Walk d origin nodes last c := by
  induction h with
  | here => exact .here
  | step hwalk he ih => exact .step ih (hsub _ (hwalk.last_mem_domain hg ho) he)

end Walk

/-! ## Least costs -/

/-- Walks of bounded length end in finitely many ways. -/
theorem finite_walks (g : Graph ε W) (d : Direction) (origin n : Nat) :
    {x : Nat × W | ∃ nodes, g.Walk d origin nodes x.1 x.2 ∧ nodes.length ≤ n}.Finite := by
  induction n with
  | zero =>
    refine Set.finite_empty.subset ?_
    rintro x ⟨nodes, hwalk, hlength⟩
    have hnil := List.eq_nil_of_length_eq_zero (Nat.le_zero.mp hlength)
    have hhead := hwalk.head?_nodes
    rw [hnil] at hhead
    cases hhead
  | succ n ih =>
    let next : Nat × W → Set (Nat × W) := fun x =>
      (fun e => (e.target, x.2 + e.weight)) '' {e | e ∈ g.edgesOrNone d x.1}
    have hnext : ∀ x, (next x).Finite := fun x => (List.finite_toSet _).image _
    refine ((ih.biUnion fun x _ => hnext x).insert (origin, 0)).subset ?_
    rintro ⟨last, c⟩ ⟨nodes, hwalk, hlength⟩
    cases hwalk with
    | here => exact .inl rfl
    | @step nodes u _ c w hwalk he =>
      rw [List.length_append] at hlength
      exact .inr (Set.mem_biUnion (x := (u, c)) ⟨nodes, hwalk, Nat.le_of_succ_le_succ hlength⟩
        ⟨_, he, rfl⟩)

/-- In a graph without negative weights whose nodes are bounded, any two nodes have a distance. -/
theorem exists_distance {bound : Nat} (hg : g.Domain P) (hw : g.NonNegative P)
    (hbound : ∀ n, P n → n < bound) (hu : P u) (v : Nat) : ∃ c, g.Distance u v c := by
  let short : Set W := insert ⊤
    {c | ∃ nodes, g.Walk .outgoing u nodes v c ∧ nodes.length ≤ bound}
  have hfinite : short.Finite := by
    refine (((finite_walks g .outgoing u bound).image Prod.snd).subset ?_).insert ⊤
    rintro c ⟨nodes, hwalk, hlength⟩
    exact ⟨(v, c), ⟨nodes, hwalk, hlength⟩, rfl⟩
  obtain ⟨c, hc, hleast⟩ := Set.exists_min_image short id hfinite ⟨⊤, .inl rfl⟩
  refine ⟨c, hc.imp_right fun ⟨nodes, hwalk, _⟩ => ⟨nodes, hwalk⟩, ?_⟩
  rintro c' (rfl | ⟨nodes, hwalk⟩)
  · exact le_top
  · obtain ⟨nodes₁, c₁, hwalk₁, hle, hnodup⟩ := hwalk.exists_nodup hg hw hu
    have hsub : nodes₁ ⊆ List.range bound := by
      intro n hn
      obtain ⟨_, _, hwalk₂, -⟩ := hwalk₁.upTo hg hw hu hn
      exact List.mem_range.mpr (hbound n (hwalk₂.last_mem_domain hg hu))
    have hlength := (hnodup.subperm hsub).length_le
    rw [List.length_range] at hlength
    exact le_trans (hleast c₁ (.inr ⟨nodes₁, hwalk₁, hlength⟩)) hle

/-- A graph has the distances of another one, if each of them follows the walks of the other at no
    greater cost. -/
theorem Distance.congr
    (hto : ∀ {nodes c}, g.Walk .outgoing u nodes v c →
      ∃ nodes' c', g'.Walk .outgoing u nodes' v c' ∧ c' ≤ c)
    (hfrom : ∀ {nodes c}, g'.Walk .outgoing u nodes v c →
      ∃ nodes' c', g.Walk .outgoing u nodes' v c' ∧ c' ≤ c)
    (h : g.Distance u v c) : g'.Distance u v c := by
  have hle : ∀ {nodes c'}, g'.Walk .outgoing u nodes v c' → c ≤ c' := by
    intro nodes c' hwalk
    obtain ⟨nodes₁, c₁, hwalk₁, hle⟩ := hfrom hwalk
    exact le_trans (h.2 (.inr ⟨nodes₁, hwalk₁⟩)) hle
  constructor
  · rcases h.1 with htop | ⟨nodes, hwalk⟩
    · exact .inl htop
    · obtain ⟨nodes', c', hwalk', hle'⟩ := hto hwalk
      rw [le_antisymm (hle hwalk') hle']
      exact .inr ⟨nodes', hwalk'⟩
  · rintro c' (rfl | ⟨nodes, hwalk⟩)
    · exact le_top
    · exact hle hwalk

end RoadRouting.Graph
