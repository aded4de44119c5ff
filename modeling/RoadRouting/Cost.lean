/-!
# Travel costs

Searches, edge lists and route shapes compare and add costs and never look inside them, so they
are written for any type with the operations of `Cost`. The program runs them on binary64
seconds. An exact ordered type with an infinity makes them objects of arithmetic.

The comparisons `<` and `≤` are those of the numbers: a value that is not a number is neither
below nor above anything. The order `rank` places every value, so that a frontier is sorted
whatever it holds.
-/

namespace RoadRouting

/-- The operations of travel costs. -/
class Cost (W : Type) extends Zero W, Add W, LT W, LE W where
  /-- The cost of what cannot be travelled. -/
  infinity : W
  /-- The order in which a frontier hands out its entries. -/
  rank : W → W → Ordering
  decideLT : (a b : W) → Decidable (a < b)
  decideLE : (a b : W) → Decidable (a ≤ b)

instance Cost.instDecidableLT [c : Cost W] : DecidableLT W := c.decideLT

instance Cost.instDecidableLE [c : Cost W] : DecidableLE W := c.decideLE

/-- Seconds as binary64 numbers. In the order of the frontier, what is not a number comes before
    every number. -/
instance Cost.instFloat : Cost Float where
  zero := 0.0
  infinity := 1.0 / 0.0
  rank a b :=
    if a < b then .lt
    else if b < a then .gt
    else compare (!a.isNaN) (!b.isNaN)
  decideLT := Float.decLt
  decideLE := Float.decLe

end RoadRouting
