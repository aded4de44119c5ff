import RoadRouting.Proofs.Network.Drive
import RoadRouting.Proofs.Trip.Edges

/-!
# Drives and walks

The graph of a trip leaves out all road points that are neither joints nor endpoints. Nothing is
lost: a walk in the graph is a drive along the legs of its edges, and a drive costs no less than a
walk to the node at which it ends. In between two nodes, a drive has cost no less than the leg from
the last node to where it is.

* `Trip.Proper.drive_of_walk`: a walk is a drive of the same cost.
* `Trip.Near`: how a drive is followed by a walk.
* `Trip.Near.move`: a move keeps the walk near.
* `Trip.Proper.walk_of_drive`: a drive that ends at a node costs no less than some walk.
-/

namespace RoadRouting.Trip

variable {K W : Type} [LinearOrderedAddCommMonoidWithTop W] {t : Trip K} {est : Estimator K W}
  {d : Direction} {l : Leg} {x : RoadPoint} {u v : Nat} {nodes : List Nat} {c c' w : W}

/-! ## Edges and legs -/

theorem Proper.edge_of_joins (ht : t.Proper) (hest : t.network.Priced est)
    (hsource : t.nodeOf? l.source = some u) (htarget : t.nodeOf? l.target = some v)
    (hjoins : t.Joins d l) : ⟨v, t.toll est l⟩ ∈ (t.graph est).edgesOrNone d u := by
  obtain ⟨L, hL, hedges⟩ := ht.edgesOrNone_eq hest (ht.isNode_of_nodeOf? hsource) d
  rw [hedges]
  refine List.mem_map.mpr ⟨l, (hL.mem_iff l).mpr ⟨hsource, ⟨v, htarget⟩, hjoins⟩, ?_⟩
  rw [edgeOver, htarget, Option.getD_some]

theorem Proper.joins_of_edge (ht : t.Proper) (hest : t.network.Priced est) (hu : t.IsNode u)
    (h : ⟨v, w⟩ ∈ (t.graph est).edgesOrNone d u) : ∃ l, t.nodeOf? l.source = some u ∧
      t.nodeOf? l.target = some v ∧ t.Joins d l ∧ w = t.toll est l := by
  obtain ⟨L, hL, hedges⟩ := ht.edgesOrNone_eq hest hu d
  rw [hedges] at h
  obtain ⟨l, hl, heq⟩ := List.mem_map.mp h
  obtain ⟨hsource, ⟨v', hv'⟩, hjoins⟩ := (hL.mem_iff l).mp hl
  rw [edgeOver, hv', Option.getD_some, Edge.mk.injEq] at heq
  exact ⟨l, hsource, heq.1 ▸ hv', hjoins, heq.2.symm⟩

theorem toll_nonneg (h : est.NonNegative) (l : Leg) : 0 ≤ t.toll est l := by
  rw [toll]
  split <;> exact Network.price_nonneg h _

theorem Proper.nonNegative (ht : t.Proper) (hest : t.network.Priced est)
    (h : est.NonNegative) : (t.graph est).NonNegative t.IsNode := by
  intro u hu d e he
  obtain ⟨l, -, -, -, hw⟩ := ht.joins_of_edge hest hu he
  rw [hw]
  exact toll_nonneg h l

/-! ## Walks are drives -/

/-- A drive that ends at a point of a node goes on to every other point of the node for nothing. -/
theorem Proper.change (ht : t.Proper) {s x y : RoadPoint} (hx : t.nodeOf? x = some u)
    (hy : t.nodeOf? y = some u) (h : t.network.Drive est s x c) : t.network.Drive est s y c := by
  rcases ht.eq_or_mem_joint hx hy with rfl | ⟨j, ps, hps, hx, hy⟩
  · exact h
  · exact .change h hps hx hy

/-- A walk is a drive from every point of its first node to every point of its last. -/
theorem Proper.drive_of_walk (ht : t.Proper) (hest : t.network.Metered est) {s : RoadPoint}
    {origin : Nat} (hs : t.nodeOf? s = some origin)
    (h : (t.graph est).Walk .outgoing origin nodes u c) (hx : t.nodeOf? x = some u) :
    t.network.Drive est s x c := by
  induction h generalizing x with
  | here => exact ht.change hs hx .stay
  | @step nodes u v c w hwalk he ih =>
    have hu : t.IsNode u :=
      hwalk.last_mem_domain (ht.domain hest.priced) (ht.isNode_of_nodeOf? hs)
    obtain ⟨l, hsource, htarget, hjoins, rfl⟩ := ht.joins_of_edge hest.priced hu he
    have hdrive := (ih hsource).along hest hjoins.1 (ht.valid_of_nodeOf? hsource)
      (ht.valid_of_nodeOf? htarget)
    rw [toll_eq_price hest.symmetric]
    exact ht.change htarget hx hdrive

/-! ## Drives are followed by walks -/

/-- A walk leads to the node of the point `x`, or to a node with a leg to `x` on which there is no
    other node. It costs no more than `c`, the leg included. -/
inductive Near (t : Trip K) (est : Estimator K W) (x : RoadPoint) (c : W) : Prop
  | node {u : Nat} {nodes : List Nat} {c' : W} : t.nodeOf? x = some u →
      (t.graph est).Walk .outgoing t.start.node nodes u c' → c' ≤ c → Near t est x c
  | leg {l : Leg} {u : Nat} {nodes : List Nat} {c' : W} : l.target = x → t.nodeOf? x = none →
      t.nodeOf? l.source = some u → t.network.Drives .outgoing l →
      (∀ o, (l.first < o ∧ o < l.last) ∨ (l.last < o ∧ o < l.first) →
        t.nodeOf? ⟨l.road, o⟩ = none) →
      (t.graph est).Walk .outgoing t.start.node nodes u c' →
      c' + t.network.price est l ≤ c → Near t est x c

/-- A leg with no node in between: its end is near. If the end is a node, there is an edge. -/
theorem Near.of_leg (ht : t.Proper) (hest : t.network.Metered est)
    (hsource : t.nodeOf? l.source = some u) (hdrives : t.network.Drives .outgoing l)
    (hfree : ∀ o, (l.first < o ∧ o < l.last) ∨ (l.last < o ∧ o < l.first) →
      t.nodeOf? ⟨l.road, o⟩ = none)
    (hwalk : (t.graph est).Walk .outgoing t.start.node nodes u c')
    (hle : c' + t.network.price est l ≤ c) : t.Near est l.target c := by
  cases htarget : t.nodeOf? l.target with
  | none => exact .leg rfl htarget hsource hdrives hfree hwalk hle
  | some v =>
    have hclear : t.network.owners.Clear l.road l.first l.last := by
      intro o ho
      cases howner : t.network.owners.find? ⟨l.road, o⟩ with
      | none => rfl
      | some j =>
        have hnone := hfree o ho
        rw [nodeOf?_of_owner howner] at hnone
        cases hnone
    have hedge := ht.edge_of_joins hest.priced hsource htarget ⟨hdrives, .inl hclear⟩
    rw [toll_eq_price hest.symmetric] at hedge
    exact .node htarget (.step hwalk hedge) hle

/-- A move to a neighbouring point. The leg from the last node grows or shrinks by one point, or the
    move is back at that node. -/
theorem Near.move (ht : t.Proper) (hest : t.network.Metered est) (h : t.Near est l.source c)
    (hdrives : t.network.Drives .outgoing l)
    (hnext : l.last = l.first + 1 ∨ l.first = l.last + 1)
    (hvalid : t.network.hasPoint l.source = true)
    (htarget : t.network.hasPoint l.target = true) :
    t.Near est l.target (c + t.network.price est l) := by
  cases h with
  | node hnode hwalk hle =>
    refine .of_leg ht hest hnode hdrives (fun o ho => ?_) hwalk (add_le_add_left hle _)
    omega
  | @leg l₀ u nodes c' hx hnone hsource hdrives₀ hfree hwalk hle =>
    obtain ⟨r, a, b⟩ := l₀
    obtain ⟨r', b', o⟩ := l
    obtain ⟨rfl, rfl⟩ : r = r' ∧ b = b' := RoadPoint.mk.inj hx
    have hnext' : o = b + 1 ∨ b = o + 1 := hnext
    by_cases hback : a = o
    · -- back at the last node
      subst hback
      have hleg : c' ≤ c := le_trans (le_add_of_nonneg_right (hest.price_nonneg _)) hle
      exact .node hsource hwalk (le_trans hleg (le_add_of_nonneg_right (hest.price_nonneg _)))
    · -- one point further away from the last node, or closer to it
      have hne : a ≠ b := by
        obtain ⟨-, -, -, hne, -⟩ := hdrives₀
        exact hne
      have hdrives' : t.network.Drives .outgoing ⟨r, a, o⟩ :=
        hdrives₀.retarget hback (by show a < o ↔ a < b; omega)
      refine .of_leg (l := ⟨r, a, o⟩) ht hest hsource hdrives' (fun o' ho' => ?_) hwalk ?_
      · have hbetween : (a < o' ∧ o' < o) ∨ (o < o' ∧ o' < a) := ho'
        by_cases hb : o' = b
        · rw [hb]
          exact hnone
        · exact hfree o' (by show (a < o' ∧ o' < b) ∨ (b < o' ∧ o' < a); omega)
      · calc c' + t.network.price est ⟨r, a, o⟩
            ≤ c' + (t.network.price est ⟨r, a, b⟩ + t.network.price est ⟨r, b, o⟩) :=
              add_le_add_right (hest.price_triangle hback (ht.valid_of_nodeOf? hsource) hvalid
                htarget) c'
          _ = c' + t.network.price est ⟨r, a, b⟩ + t.network.price est ⟨r, b, o⟩ :=
              (add_assoc _ _ _).symm
          _ ≤ c + t.network.price est ⟨r, b, o⟩ := add_le_add_left hle _

/-- Every drive from the start is followed by a walk. -/
theorem Proper.near_of_drive (ht : t.Proper) (hest : t.network.Metered est)
    (h : t.network.Drive est t.start.point x c) : t.Near est x c := by
  induction h with
  | stay => exact .node ht.nodeOf?_start .here le_rfl
  | @ahead r i road c w _ hroad hroutable hlt hw ih =>
    rw [← Network.price_of_weight (l := ⟨r, i, i + 1⟩) hroad hw]
    have hsource : t.Near est (⟨r, i, i + 1⟩ : Leg).source c := ih
    refine Near.move ht hest hsource ⟨road, hroad, hroutable, ?_, fun _ => ?_⟩ (.inl rfl)
      (Network.hasPoint_iff.mpr ⟨road, hroad, Nat.lt_of_succ_lt hlt⟩)
      (Network.hasPoint_iff.mpr ⟨road, hroad, hlt⟩)
    · exact Nat.ne_of_lt (Nat.lt_succ_self i)
    · simp
  | @back r i road c w _ hroad hroutable htwo hlt hw ih =>
    rw [← Network.price_of_weight (l := ⟨r, i + 1, i⟩) hroad hw]
    have hsource : t.Near est (⟨r, i + 1, i⟩ : Leg).source c := ih
    refine Near.move ht hest hsource ⟨road, hroad, hroutable, ?_, fun hone => ?_⟩ (.inr rfl)
      (Network.hasPoint_iff.mpr ⟨road, hroad, hlt⟩)
      (Network.hasPoint_iff.mpr ⟨road, hroad, Nat.lt_of_succ_lt hlt⟩)
    · exact Nat.ne_of_gt (Nat.lt_succ_self i)
    · rw [htwo] at hone
      cases hone
  | @change j ps p q c _ hps hp hq ih =>
    rw [ht.consistent.mem_points_iff hps] at hp hq
    cases ih with
    | node hnode hwalk hle =>
      rw [nodeOf?_of_owner hp] at hnode
      cases hnode
      exact .node (nodeOf?_of_owner hq) hwalk hle
    | leg _ hnone =>
      rw [nodeOf?_of_owner hp] at hnone
      cases hnone

/-- A drive that ends at a point of a node costs no less than some walk to the node. -/
theorem Proper.walk_of_drive (ht : t.Proper) (hest : t.network.Metered est)
    (h : t.network.Drive est t.start.point x c) (hx : t.nodeOf? x = some u) :
    ∃ nodes c', (t.graph est).Walk .outgoing t.start.node nodes u c' ∧ c' ≤ c := by
  cases ht.near_of_drive hest h with
  | node hnode hwalk hle =>
    rw [hx] at hnode
    cases hnode
    exact ⟨_, _, hwalk, hle⟩
  | leg _ hnone =>
    rw [hx] at hnone
    cases hnone

end RoadRouting.Trip
