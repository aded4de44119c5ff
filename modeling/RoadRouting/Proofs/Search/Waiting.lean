import RoadRouting.Proofs.Search.Exploration
import RoadRouting.Proofs.Search.FrontierOrder

/-!
# What waits in a frontier

Entries are never removed when a cheaper one for the same node arrives, so a frontier holds more
than the labels tell. What it holds beside is stale. Every node that was met and is not settled
waits under the cost of its label.

* `Side.Waiting`: the nodes that were met wait in the frontier, among stale entries.
* `Side.Waiting.drop`, `Side.Waiting.settle`, `Side.Waiting.accept`: every part of a step keeps this.
* `Side.Waiting.front_notAfter`: no node that waits is taken before the entry in front.
-/

namespace RoadRouting.Search.TwoSided.Side

open BestFirst (isStale)

variable {W : Type} [Cost W] {π : Policy W} {P M M' : Nat → Prop} {s : Side W} {e via : Entry W}
  {rest : Frontier W} {edge : Edge W} {n : Nat}

/-- The nodes of `M` wait in the frontier until they are settled, each under the cost of its label.
    No entry costs less than the label of its node. -/
structure Waiting (π : Policy W) (P M : Nat → Prop) (s : Side W) : Prop where
  entry : ∀ e ∈ s.frontier, P e.node ∧ M e.node ∧ e.total = π.total e.node e.cost ∧
    (e.cost = (s.labels.of e.node).cost ∨ (s.labels.of e.node).cost < e.cost)
  live : ∀ {n}, (s.labels.of n).settled = false → M n →
    ∃ e ∈ s.frontier, e.node = n ∧ e.cost = (s.labels.of n).cost
  sorted : Frontier.Sorted s.frontier

namespace Waiting

theorem congr (h : s.Waiting π P M) (hM : ∀ n, M' n ↔ M n) : s.Waiting π P M' := by
  obtain rfl : M' = M := funext fun n => propext (hM n)
  exact h

/-- An entry that is not stale holds the cost of its node. -/
theorem cost_eq (h : s.Waiting π P M) (he : e ∈ s.frontier) (hs : isStale s.labels e = false) :
    (s.labels.of e.node).cost = e.cost :=
  ((h.entry e he).2.2.2.resolve_right (isStale_eq_false_iff.mp hs).2).symm

theorem settle (h : s.Waiting π P M) (hf : s.frontier = e :: rest) :
    (s.settle e rest).Waiting π P M where
  entry x hx := by
    rw [cost_of_settle]
    exact h.entry x (Frontier.mem_of_mem_rest hf hx)
  live {n} hn hM := by
    rw [settled_of_settle, Bool.or_eq_false_iff, decide_eq_false_iff_not] at hn
    rw [cost_of_settle]
    obtain ⟨x, hx, hnode, hcost⟩ := h.live hn.2 hM
    rw [hf] at hx
    rcases List.mem_cons.mp hx with rfl | hx
    · exact absurd hnode hn.1
    · exact ⟨x, hx, hnode, hcost⟩
  sorted := (h.sorted.uncons hf).2

variable [RankedCost W]

theorem drop (h : s.Waiting π P M) (hf : s.frontier = e :: rest)
    (hs : isStale s.labels e = true) : Waiting π P M ⟨rest, s.labels⟩ where
  entry x hx := h.entry x (Frontier.mem_of_mem_rest hf hx)
  live {n} hn hM := by
    obtain ⟨x, hx, hnode, hcost⟩ := h.live hn hM
    rw [hf] at hx
    rcases List.mem_cons.mp hx with rfl | hx
    · -- the stale entry is not the one that holds the cost of its node
      rw [isStale, hnode, hn, hcost] at hs
      simp [RankedCost.lt_irrefl] at hs
    · exact ⟨x, hx, hnode, hcost⟩
  sorted := (h.sorted.uncons hf).2

/-- The far end of an edge has been met once the offer is accepted. -/
theorem accept (h : s.Waiting π P M) (htarget : P edge.target)
    (hcheaper : via.cost + edge.weight < (s.labels.of edge.target).cost)
    (hM : ∀ n, M' n ↔ edge.target = n ∨ M n) : (s.accept π via edge).Waiting π P M' where
  entry x hx := by
    rcases Frontier.mem_push.mp hx with rfl | hx
    · refine ⟨htarget, (hM _).mpr (.inl rfl), rfl, .inl ?_⟩
      rw [of_accept, if_pos rfl]
    · obtain ⟨hP, hmet, htotal, hcosts⟩ := h.entry x hx
      refine ⟨hP, (hM _).mpr (.inr hmet), htotal, ?_⟩
      rw [of_accept]
      split
      case isTrue hn =>
        -- older entries of the far end are stale from now on
        rw [hn] at hcheaper
        rcases hcosts with hcosts | hcosts
        · exact .inr (hcosts ▸ hcheaper)
        · exact .inr (RankedCost.lt_trans hcheaper hcosts)
      case isFalse => exact hcosts
  live {n} hn hmet := by
    rw [of_accept] at hn ⊢
    split at hn
    case isTrue heq =>
      rw [if_pos heq]
      exact ⟨_, Frontier.mem_push.mpr (.inl rfl), heq, rfl⟩
    case isFalse hne =>
      rw [if_neg hne]
      obtain ⟨x, hx, hnode, hcost⟩ := h.live hn (((hM n).mp hmet).resolve_left hne)
      exact ⟨x, Frontier.mem_push.mpr (.inr hx), hnode, hcost⟩
  sorted := h.sorted.push _

/-- The entry in front is taken no later than that of any other node which waits. -/
theorem front_notAfter (h : s.Waiting π P M) (hf : s.frontier = e :: rest)
    (hn : (s.labels.of n).settled = false) (hM : M n) :
    e.NotAfter ⟨n, (s.labels.of n).cost, π.total n (s.labels.of n).cost⟩ := by
  obtain ⟨x, hx, hnode, hcost⟩ := h.live hn hM
  have hwaits : x = ⟨n, (s.labels.of n).cost, π.total n (s.labels.of n).cost⟩ := by
    rw [← hcost, ← hnode, ← (h.entry x hx).2.2.1]
  rw [← hwaits]
  exact h.sorted.head_notAfter hf hx

end Waiting

end RoadRouting.Search.TwoSided.Side
