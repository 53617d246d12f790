import IndexScan.Console.CellWidth
import IndexScan.Text.Blank

/-!
Measuring and cutting text in cells. A joiner hides the width of the character after it, and the
emoji variation selector widens some characters; marks without a width stay with the character in
front of them.
-/

namespace IndexScan.Console

open IndexScan.Text

/-- The zero-width joiner. -/
def joiner : Char := Char.ofNat 0x200D

/-- The variation selector that asks for an emoji. -/
def emojiSelector : Char := Char.ofNat 0xFE0F

/-- The cells that `cs` takes, where `last` is the last character with a width that can still be
widened. -/
def cellsAfter (last : Option Char) : List Char → Nat
  | [] => 0
  | [c] =>
    if c = joiner then 0
    else if c = emojiSelector then (if last.any (inRanges widenedRanges) then 1 else 0)
    else charWidth c
  | c :: d :: rest =>
    if c = joiner then cellsAfter last rest
    else if c = emojiSelector then
      (if last.any (inRanges widenedRanges) then 1 else 0) + cellsAfter none (d :: rest)
    else
      charWidth c + cellsAfter (if charWidth c = 0 then last else some c) (d :: rest)

/-- The number of cells that a text takes. -/
def cells (cs : List Char) : Nat :=
  cellsAfter none cs

/-- Characters that stay together, last one first, and the cells they take. -/
abbrev Cluster := List Char × Nat

/-- The clusters of `cs` behind those of `found`, last cluster first throughout; `last` is the last
character with a width that can still be widened, and the first `skip` characters join the last
cluster unmeasured. -/
def clustersAfter (found : List Cluster) (last : Option Char) (skip : Nat) :
    List Char → List Cluster
  | [] => found
  | c :: rest =>
    match found, skip with
    | (cs, width) :: found, skip + 1 => clustersAfter ((c :: cs, width) :: found) last skip rest
    | [], _ =>
      let width := if c = joiner ∨ c = emojiSelector then 0 else charWidth c
      clustersAfter [([c], width)] (if width = 0 then last else some c) 0 rest
    | (cs, width) :: found, 0 =>
      if c = joiner then clustersAfter ((c :: cs, width) :: found) last 1 rest
      else if c = emojiSelector then
        if last.any (inRanges widenedRanges) then
          clustersAfter ((c :: cs, width + 1) :: found) none 0 rest
        else clustersAfter ((c :: cs, width) :: found) last 0 rest
      else if charWidth c = 0 then clustersAfter ((c :: cs, width) :: found) last 0 rest
      else clustersAfter (([c], charWidth c) :: (cs, width) :: found) (some c) 0 rest

/-- The clusters of a text in order. -/
def clusters (cs : List Char) : List Cluster :=
  (clustersAfter [] none 0 cs).reverse.map fun (cs, width) => (cs.reverse, width)

/-- The start of the clusters that takes exactly `total` cells; a cluster that only half fits
gives way to a space. -/
def takeCells (total : Nat) : List Cluster → List Char
  | [] => []
  | (cs, width) :: rest =>
    if total = 0 then []
    else if width ≤ total then cs ++ takeCells (total - width) rest
    else [' ']

/-- `cs` cut or filled with spaces so that it takes `total` cells. -/
def setCells (total : Nat) (cs : List Char) : List Char :=
  let size := cells cs
  if size = total then cs
  else if size < total then cs ++ List.replicate (total - size) ' '
  else takeCells total (clusters cs)

/-- The lines of clusters, each of at most `width` cells; `line` holds the line being filled, which
takes `size` cells. A last line without any width is left out. -/
def foldClusters (width : Nat) (line : List Char) (size : Nat) : List Cluster → List (List Char)
  | [] => if size = 0 then [] else [line]
  | (cs, w) :: rest =>
    if width < size + w then line :: foldClusters width cs w rest
    else foldClusters width (line ++ cs) (size + w) rest

/-- The pieces of `cs` when it is folded to `width` cells. -/
def foldCells (width : Nat) (cs : List Char) : List (List Char) :=
  foldClusters width [] 0 (clusters cs)

end IndexScan.Console
