import IndexScan.Console.Table

/-!
The console: what printing marked-up text and tables writes on lines of 80 cells.
-/

namespace IndexScan.Console

/-- The cells of a line. -/
def lineWidth : Nat := 80

/-- Lines with their ends. -/
def endLines (lines : List (List Char)) : List Char :=
  lines.flatMap fun line => line ++ ['\n']

/-- What printing marked-up text writes. -/
def print (markup : String) : Except Markup.Fault String :=
  (Markup.render markup.toList).map fun text =>
    String.ofList (endLines (wrap lineWidth .none .fold text))

/-- What printing a table writes; lines that are too long are cut. -/
def printTable (box : Box) (t : Table) : Except Markup.Fault String :=
  (t.lines box lineWidth).map fun lines =>
    String.ofList (endLines (lines.map (truncate lineWidth .fold)))

end IndexScan.Console
