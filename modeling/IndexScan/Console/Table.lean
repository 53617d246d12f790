import IndexScan.Console.Markup
import IndexScan.Console.Wrap
import IndexScan.Number.Nearest

/-!
Tables drawn in boxes. Every cell is marked-up text between two spaces. Columns are as
wide as their widest cell; when that is too much, the widest columns give way first.
-/

namespace IndexScan.Console

open IndexScan.Text

/-- A table: its title, the heads of its columns, and its rows. -/
structure Table where
  title : String
  heads : List String
  rows : List (List String)

/-- The characters of a horizontal line of a box. -/
structure Rule where
  left : Char
  line : Char
  cross : Char
  right : Char
  deriving DecidableEq, Repr

/-- The characters that a table is drawn with: its horizontal lines, and what stands between the cells
of the head and of the rows below it. -/
structure Box where
  top : Rule
  middle : Rule
  bottom : Rule
  headDivider : Char
  divider : Char
  deriving DecidableEq, Repr

/-- The box with a heavy head. -/
def Box.heavy : Box :=
  ⟨⟨'┏', '━', '┳', '┓'⟩, ⟨'┡', '━', '╇', '┩'⟩, ⟨'└', '─', '┴', '┘'⟩, '┃', '│'⟩

/-- The box of ASCII characters. -/
def Box.ascii : Box :=
  ⟨⟨'+', '-', '-', '+'⟩, ⟨'|', '-', '+', '|'⟩, ⟨'+', '-', '-', '+'⟩, '|', '|'⟩

namespace Table

/-- The number of columns: a row longer than the heads adds columns without a head. -/
def columnCount (t : Table) : Nat :=
  t.rows.foldl (fun n row => max n row.length) t.heads.length

/-- How the cells of a column are set: those after the first to the right, and those of a column
without a head to the left. -/
def justifyOf (t : Table) (column : Nat) : Justify :=
  if column = 0 ∨ t.heads.length ≤ column then .left else .right

/-- The cells of a column, its head first. -/
def column (t : Table) (i : Nat) : List String :=
  t.heads.getD i "" :: t.rows.map fun row => row.getD i ""

/-- The columns with their cells' text. The fault is that of the first cell, column by column. -/
def columns (t : Table) : Except Markup.Fault (List (List (List Char))) :=
  (List.range t.columnCount).mapM fun i =>
    (t.column i).mapM fun cell => Markup.render cell.toList

/-- The texts of a table in the order in which they are read. A table without columns shows none. -/
def texts (t : Table) : List String :=
  if t.columnCount = 0 then []
  else (List.range t.columnCount).flatMap t.column ++ [t.title]

/-- The spaces beside a cell. -/
def padding : Nat := 2

/-- The width that a cell asks for, if `limit` is the most there is. -/
def cellWidth (limit : Nat) (cs : List Char) : Nat :=
  if limit < padding + 1 then limit
  else
    let widest := (Lines.ofText cs).foldl (fun n line => max n (cells line)) 0
    min (min widest limit + padding) limit

/-- The width that a column asks for. -/
def columnWidth (limit : Nat) (column : List (List Char)) : Nat :=
  if limit < 1 then 0 else column.foldl (fun n cs => max n (cellWidth limit cs)) 0

/-- The sum of widths. -/
def total (widths : List Nat) : Nat :=
  widths.foldr (· + ·) 0

/-- Takes `excess` from values in proportion to the shares given with them, where `shares` is the
sum of the shares to come; each value is given with its share and the most it may lose. -/
def reduceBy (excess shares : Nat) : List (Nat × Nat × Nat) → List Nat
  | [] => []
  | (share, most, value) :: rest =>
    if share ≠ 0 ∧ 0 < shares then
      let lost := min most (nearest (share * excess) shares)
      (value - lost) :: reduceBy (excess - lost) (shares - share) rest
    else value :: reduceBy excess shares rest

/-- Takes `excess` from values in proportion to their shares; a value that may lose nothing has no
share. -/
def reduce (excess : Nat) (parts : List (Nat × Nat × Nat)) : List Nat :=
  let parts := parts.map fun (share, most, value) => (if most = 0 then 0 else share, most, value)
  let shares := total (parts.map (·.1))
  if shares = 0 then parts.map (·.2.2) else reduceBy excess shares parts

/-- Narrows the widest columns to the width of the next widest until the sum is at most `limit`,
in `fuel` rounds at most. -/
def collapse (limit : Nat) : Nat → List Nat → List Nat
  | 0, widths => widths
  | fuel + 1, widths =>
    if total widths = 0 ∨ total widths ≤ limit then widths
    else
      let widest := widths.foldl max 0
      let second := (widths.map fun w => if w = widest then 0 else w).foldl max 0
      let step := widest - second
      if step = 0 then widths
      else
        collapse limit fuel (reduce (total widths - limit)
          (widths.map fun w => (if w = widest then 1 else 0, min (total widths - limit) step, w)))

/-- The widths of the columns when all of them may take `limit` cells. -/
def widths (limit : Nat) (columns : List (List (List Char))) : List Nat :=
  let asked := columns.map fun c => max 1 (columnWidth limit c)
  if total asked ≤ limit then asked
  else
    let narrow := collapse limit (total asked + 1) asked
    let excess := total narrow - limit
    let narrow := if excess = 0 then narrow
      else reduce excess (narrow.map fun w => (1, w, w))
    (columns.zip narrow).map fun (c, w) => columnWidth w c

/-- The lines of a cell in a column of the given width, each as wide as the column. -/
def cellLines (width : Nat) (justify : Justify) (cs : List Char) : List (List Char) :=
  if width ≤ padding then []
  else
    (wrap (width - padding) justify .ellipsis cs).map fun line =>
      ' ' :: setCells (width - padding) line ++ [' ']

/-- The lines of a row, without its edges: each cell is filled with blank lines, above it in the
head and below it elsewhere. -/
def rowLines (isHead : Bool) (divider : Char) (cells : List (Nat × List (List Char))) :
    List (List Char) :=
  let height := cells.foldl (fun n c => max n c.2.length) 1
  let filled := cells.map fun (width, lines) =>
    let blank := List.replicate (height - lines.length) (List.replicate width ' ')
    if isHead then blank ++ lines else lines ++ blank
  (List.range height).map fun i =>
    divider :: [divider].intercalate (filled.map fun lines => lines.getD i []) ++ [divider]

/-- A horizontal line of the box. -/
def drawRule (r : Rule) (widths : List Nat) : List Char :=
  r.left :: [r.cross].intercalate (widths.map fun w => List.replicate w r.line) ++ [r.right]

/-- The lines of a table on a console of the given width. -/
def lines (box : Box) (consoleWidth : Nat) (t : Table) : Except Markup.Fault (List (List Char)) := do
  if t.columnCount = 0 then return [[]]
  let columns ← t.columns
  let edges := t.columnCount + 1
  let widths := widths (consoleWidth - edges) columns
  let title ← Markup.render t.title.toList
  let titleLines := if t.title.isEmpty then []
    else wrap (total widths + edges) .center .fold title
  let row (isHead : Bool) (i : Nat) : List (List Char) :=
    rowLines isHead (if isHead then box.headDivider else box.divider)
      ((List.range t.columnCount).map fun c =>
        let width := widths.getD c 0
        (width, cellLines width (t.justifyOf c) ((columns.getD c []).getD i [])))
  let body := (List.range t.rows.length).flatMap fun i => row false (i + 1)
  return titleLines ++ [drawRule box.top widths] ++ row true 0 ++ [drawRule box.middle widths] ++ body
    ++ [drawRule box.bottom widths]

end Table

end IndexScan.Console
