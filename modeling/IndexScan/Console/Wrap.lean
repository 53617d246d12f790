import IndexScan.Console.Cells
import IndexScan.Text.Lines
import IndexScan.Text.Pieces

/-!
Wrapping text to a width in cells. A line breaks between words; a word that fits on no line is
folded, or cut and marked with an ellipsis.
-/

namespace IndexScan.Console

open IndexScan.Text

/-- What becomes of what does not fit on a line. -/
inductive Overflow where
  | fold
  | ellipsis
  deriving DecidableEq, Repr

/-- How the lines of a text are set. -/
inductive Justify where
  /-- Lines end where their text ends. -/
  | none
  | left
  | center
  | right
  deriving DecidableEq, Repr

/-- The distance between tab stops. -/
def tabSize : Nat := 8

/-- `cs` with every tab replaced by spaces up to the next tab stop; `part` holds the text since the
last tab, last character first, which begins at cell `position`. -/
def expandTabs (position : Nat) (part : List Char) : List Char → List Char
  | [] => part.reverse
  | c :: rest =>
    if c = '\t' then
      let text := part.reverse ++ [' ']
      let stop := position + cells text
      let fill := (tabSize - stop % tabSize) % tabSize
      text ++ List.replicate fill ' ' ++ expandTabs (stop + fill) [] rest
    else expandTabs position (c :: part) rest

/-- The words of a line, each with the blanks behind it; blanks at the start belong to the first.
`word` holds the word being read, last character first. -/
def wordsWithBlanks (word : List Char) : List Char → List (List Char)
  | [] => if word.all isBlank then [] else [word.reverse]
  | c :: rest =>
    if !isBlank c && word.head?.any isBlank && !word.all isBlank then
      word.reverse :: wordsWithBlanks [c] rest
    else wordsWithBlanks (c :: word) rest

/-- The places at which a line of the given words breaks. The next word begins at `start`, and the
words since the last break take `offset` cells. -/
def breaks (width : Nat) (overflow : Overflow) (start offset : Nat) :
    List (List Char) → List Nat
  | [] => []
  | word :: rest =>
    let size := cells (trimRight isBlank word)
    let next := start + word.length
    if offset + size ≤ width then
      breaks width overflow next (offset + cells word) rest
    else if width < size then
      match overflow with
      | .ellipsis =>
        (if start = 0 then [] else [start]) ++ breaks width overflow next (cells word) rest
      | .fold =>
        let pieces := foldCells width word
        let starts := pieces.dropLast.foldl
          (fun (found : List Nat) piece => found ++ [found.getLast?.getD start + piece.length])
          [start]
        let places := if pieces.isEmpty then [] else starts
        let offset := (pieces.getLast?.map cells).getD offset
        places.filter (0 < ·) ++ breaks width overflow next offset rest
    else if 0 < offset ∧ 0 < start then
      start :: breaks width overflow next (cells word) rest
    else breaks width overflow next offset rest

/-- The parts of `cs` between the places `at`, which are counted from `from`. -/
def cutAt (start : Nat) (cs : List Char) : List Nat → List (List Char)
  | [] => [cs]
  | place :: places => cs.take (place - start) :: cutAt place (cs.drop (place - start)) places

/-- `line` without as many of its blanks at the end as it has characters beyond `width`. -/
def dropExcessBlanks (width : Nat) (line : List Char) : List Char :=
  let blanks := (line.reverse.takeWhile isBlank).length
  line.take (line.length - min blanks (line.length - width))

/-- `line` cut to `width` cells. -/
def truncate (width : Nat) (overflow : Overflow) (line : List Char) : List Char :=
  if cells line ≤ width then line
  else
    match overflow with
    | .ellipsis => setCells (width - 1) line ++ ['…']
    | .fold => setCells width line

/-- `line` set in `width` cells. -/
def justified (width : Nat) (overflow : Overflow) (line : List Char) : Justify → List Char
  | .none => line
  | .left =>
    let line := truncate width overflow line
    line ++ List.replicate (width - cells line) ' '
  | .center =>
    let line := truncate width overflow (trimRight isBlank line)
    let line := List.replicate ((width - cells line) / 2) ' ' ++ line
    line ++ List.replicate (width - cells line) ' '
  | .right =>
    let line := truncate width overflow (trimRight isBlank line)
    List.replicate (width - cells line) ' ' ++ line

/-- The lines of a text in `width` cells. -/
def wrap (width : Nat) (justify : Justify) (overflow : Overflow) (cs : List Char) :
    List (List Char) :=
  (pieces '\n' cs).flatMap fun line =>
    let line := if line.contains '\t' then expandTabs 0 [] line else line
    (cutAt 0 line (breaks width overflow 0 0 (wordsWithBlanks [] line))).map fun line =>
      truncate width overflow
        (justified width overflow (dropExcessBlanks width line) justify)

end IndexScan.Console
