/-!
# Ranges of code points

A class of characters is a table of ranges of code points, each with its first and its last, by
increasing order. A character is looked for by halving what is left of the table.

* `CodeRanges`: the tables.
* `CodeRanges.covers`: the test for one character.
* `CodeRanges.mem_of_covers`: what is found lies in a range of the table.
-/

namespace RoadRouting.Text

/-- The first and last code points of ranges, by increasing order. -/
structure CodeRanges where
  ranges : Array (Nat × Nat)

namespace CodeRanges

/-- Looks for a code point in the ranges from `low` below `high`, which are halved `steps` times
    at most. -/
def search (t : CodeRanges) (code : Nat) : (steps : Nat) → (low high : Nat) → Bool
  | 0, _, _ => false
  | steps + 1, low, high =>
    let middle := (low + high) / 2
    match t.ranges[middle]? with
    | none => false
    | some (first, last) =>
      if high ≤ low then false
      else if code < first then t.search code steps low middle
      else if last < code then t.search code steps (middle + 1) high
      else true

/-- The character is in one of the ranges. -/
def covers (t : CodeRanges) (c : Char) : Bool :=
  t.search c.toNat (t.ranges.size.log2 + 1) 0 t.ranges.size

theorem mem_of_search {t : CodeRanges} {code steps low high : Nat}
    (h : t.search code steps low high = true) : ∃ r ∈ t.ranges, r.1 ≤ code ∧ code ≤ r.2 := by
  induction steps generalizing low high with
  | zero => simp [search] at h
  | succ steps ih =>
    rw [search] at h
    split at h
    · simp at h
    · rename_i first last found
      split at h
      · simp at h
      · split at h
        · exact ih h
        · split at h
          · exact ih h
          · exact ⟨(first, last), Array.mem_of_getElem? found, by simp only; omega⟩

/-- What is found lies in a range of the table. -/
theorem mem_of_covers {t : CodeRanges} {c : Char} (h : t.covers c = true) :
    ∃ r ∈ t.ranges, r.1 ≤ c.toNat ∧ c.toNat ≤ r.2 := mem_of_search h

end CodeRanges

end RoadRouting.Text
