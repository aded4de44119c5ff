import RoadRouting.Edge
import Std.Data.TreeMap

/-!
# Labels of a search

What a search knows of the nodes it has come across: the cost of the cheapest way found so far,
the node before it on that way, and whether the search has settled the node.

* `Labels.of`: the label of a node, which costs infinity before the node is met.
* `Labels.trail`: the nodes on the way back to the origin.
-/

namespace RoadRouting.Search

variable {W : Type}

/-- What is known of one node. -/
structure Label (W : Type) where
  cost : W
  /-- The node before this one on the way found, absent at the origin. -/
  parent : Option Nat
  /-- The node has been taken from the frontier, and its edges have been followed. -/
  settled : Bool
deriving Repr

/-- The label of a node that has not been met. -/
def Label.unmet [Cost W] : Label W := ⟨Cost.infinity, none, false⟩

/-- The label of the node at which a search begins. -/
def Label.origin [Cost W] : Label W := ⟨0, none, false⟩

/-- The labels of the nodes met so far. -/
abbrev Labels (W : Type) := Std.TreeMap Nat (Label W)

namespace Labels

/-- The label of a node. -/
def of [Cost W] (labels : Labels W) (node : Nat) : Label W := labels.getD node .unmet

/-- The labels at the start of a search from `origin`. -/
def start [Cost W] (origin : Nat) : Labels W := (∅ : Labels W).insert origin .origin

@[simp] theorem of_insert [Cost W] (labels : Labels W) (n m : Nat) (l : Label W) :
    of (labels.insert n l) m = if n = m then l else labels.of m := by
  simp [of, Std.TreeMap.getD_insert]

/-- Follows at most `steps` parents from `node`. The result begins with the parent of `node` and
    leaves `node` out. -/
def climb (labels : Labels W) : (steps : Nat) → (node : Nat) → List Nat
  | 0, _ => []
  | steps + 1, node =>
    match labels[node]? with
    | some ⟨_, some parent, _⟩ => parent :: climb labels steps parent
    | _ => []

/-- The nodes from `node` back to the origin, `node` left out. No way visits more nodes than have
    labels. -/
def trail (labels : Labels W) (node : Nat) : List Nat := labels.climb labels.size node

end Labels

end RoadRouting.Search
