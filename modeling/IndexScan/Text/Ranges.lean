/-!
Classes of characters given as tables of closed ranges of code points.
-/

namespace IndexScan.Text

/-- Whether `c` lies in one of the closed ranges of `table`. -/
def inRanges (table : List (Nat × Nat)) (c : Char) : Bool :=
  table.any fun r => r.1 ≤ c.toNat && c.toNat ≤ r.2

end IndexScan.Text
