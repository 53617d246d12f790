/-!
Cutting a text at every occurrence of a mark.
-/

namespace IndexScan.Text

/-- The pieces of `xs` between occurrences of `mark`; one more than there are occurrences. -/
def pieces {α : Type} [DecidableEq α] (mark : α) (xs : List α) : List (List α) :=
  go [] xs
where
  /-- `piece` holds the piece being read, last item first. -/
  go (piece : List α) : List α → List (List α)
    | [] => [piece.reverse]
    | x :: rest => if x = mark then piece.reverse :: go [] rest else go (x :: piece) rest

end IndexScan.Text
