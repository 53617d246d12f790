import IndexScan.Yaml.Token.Name

/-!
Reading scalars: plain ones, quoted ones, and blocks. Lines of a scalar are joined by a space;
empty lines stand for line breaks.
-/

namespace IndexScan.Yaml

/-- Characters as code points. -/
def pointsOf (cs : List Char) : Points := cs.map Char.toNat

/-- What joins two lines of a scalar, where `broken` is the break between them and `empty` are the
breaks of the empty lines that follow. -/
def joined (broken empty : List Char) : List Char :=
  if broken ≠ ['\n'] then broken ++ empty
  else if empty.isEmpty then [' ']
  else empty

/-! ### Plain scalars -/

/-- The breaks of the empty lines ahead, unless a line that separates documents ends them; `fuel`
steps at most. -/
def plainBreaks : Nat → Cursor → Option (List Char) × Cursor
  | 0, c => (some [], c)
  | fuel + 1, c =>
    if c.peek = ' ' then plainBreaks fuel c.next
    else if isBreak c.peek then
      let (broken, c) := c.lineBreak
      if c.atSeparator then (none, c)
      else
        let (breaks, c) := plainBreaks fuel c
        (breaks.map (broken ++ ·), c)
    else (some [], c)

/-- What stands between two parts of a plain scalar, whether it holds a line break, and the cursor
behind it. -/
def plainSpaces (c : Cursor) : List Char × Bool × Cursor :=
  let (blanks, c) := c.span (· == ' ')
  if isBreak c.peek then
    let (broken, c) := c.lineBreak
    if c.atSeparator then ([], true, c)
    else
      match plainBreaks (c.rest.length + 1) c with
      | (none, c) => ([], true, c)
      | (some empty, c) => (joined broken empty, true, c)
  else (blanks, false, c)

/-- The length of the part of a plain scalar that begins at `cs`. -/
def plainLength (inFlow : Bool) : List Char → Nat
  | [] => 0
  | c :: rest =>
    let after := rest.headD endMark
    if isBlankOrEnd c then 0
    else if c = ':' ∧ (isBlankOrEnd after
        ∨ (inFlow ∧ [',', '[', ']', '\x7b', '\x7d'].contains after)) then 0
    else if inFlow ∧ [',', '?', '[', ']', '\x7b', '\x7d'].contains c then 0
    else plainLength inFlow rest + 1

/-- A plain scalar: its text, where it ends, and whether a line break follows. -/
structure PlainText where
  text : List Char
  stop : Mark
  broken : Bool

/-- Reads the parts of a plain scalar, `fuel` of them at most; `spaces` stands in front of the next
part, and a part must not begin left of `indent` outside of flow collections. If no part follows, the
scalar ends as `ending` does. -/
def scanPlainParts (inFlow : Bool) (indent : Int) (spaces : List Char) (ending : PlainText) :
    Nat → Cursor → PlainText × Cursor
  | 0, c => (ending, c)
  | fuel + 1, c =>
    let length := plainLength inFlow c.rest
    if c.peek = '#' ∨ length = 0 then (ending, c)
    else
      let part := c.rest.take length
      let c := c.forward length
      let stop := c.mark
      let (gap, broken, c) := plainSpaces c
      let ending : PlainText := ⟨[], stop, broken⟩
      let (later, c) :=
        if gap.isEmpty ∨ c.peek = '#' ∨ (!inFlow ∧ c.column < indent) then (ending, c)
        else scanPlainParts inFlow indent gap ending fuel c
      ({ later with text := spaces ++ part ++ later.text }, c)

/-- Reads a plain scalar; also says whether a line break follows it. -/
def scanPlain (inFlow : Bool) (indent : Int) (c : Cursor) : Token × Bool × Cursor :=
  let start := c.mark
  let (plain, c) :=
    scanPlainParts inFlow (indent + 1) [] ⟨[], start, false⟩ (c.rest.length + 1) c
  (⟨.scalar (pointsOf plain.text) true, start, plain.stop⟩, plain.broken, c)

/-! ### Quoted scalars -/

/-- The character that a one-letter escape stands for. -/
def escaped? (c : Char) : Option Char :=
  match c with
  | '0' => some (Char.ofNat 0)
  | 'a' => some (Char.ofNat 7)
  | 'b' => some (Char.ofNat 8)
  | 't' => some '\t'
  | '\t' => some '\t'
  | 'n' => some '\n'
  | 'v' => some (Char.ofNat 11)
  | 'f' => some (Char.ofNat 12)
  | 'r' => some '\r'
  | 'e' => some (Char.ofNat 27)
  | ' ' => some ' '
  | '"' => some '"'
  | '\\' => some '\\'
  | '/' => some '/'
  | 'N' => some (Char.ofNat 0x85)
  | '_' => some (Char.ofNat 0xA0)
  | 'L' => some (Char.ofNat 0x2028)
  | 'P' => some (Char.ofNat 0x2029)
  | _ => none

/-- The number of digits that an escape of a code point takes. -/
def escapeLength? (c : Char) : Option Nat :=
  match c with
  | 'x' => some 2
  | 'u' => some 4
  | 'U' => some 8
  | _ => none

/-- The breaks of the empty lines ahead, `fuel` steps at most. -/
def quotedBreaks (start : Mark) : Nat → Cursor → Except Error (List Char × Cursor)
  | 0, c => .ok ([], c)
  | fuel + 1, c =>
    if c.atSeparator then malformed .quotedScalar start .documentSeparator c
    else
      let c := c.skip fun ch => ch == ' ' || ch == '\t'
      if isBreak c.peek then do
        let (broken, c) := c.lineBreak
        let (breaks, c) ← quotedBreaks start fuel c
        return (broken ++ breaks, c)
      else .ok ([], c)

/-- Whether `c` stands for itself between quotes of either kind. -/
def isOrdinary (c : Char) : Bool :=
  !isBlankOrEnd c && c != '\'' && c != '"' && c != '\\'

/-- The code point that the escape ahead, behind its backslash, stands for, if it stands for one;
an escaped line break stands for the breaks that follow it. -/
def scanEscape (start : Mark) (c : Cursor) : Except Error (Points × Cursor) :=
  let ch := c.peek
  match escaped? ch, escapeLength? ch with
  | some e, _ => .ok ([e.toNat], c.next)
  | none, some length =>
    let c := c.next
    match hexAhead c length with
    | .error found => malformed .doubleQuotedScalar start (.badHexEscape length found) c
    | .ok value =>
      if 0x80000000 ≤ value then .error (.scalar .hugeCodePoint)
      else if 0x110000 ≤ value then .error (.scalar .codePoint)
      else .ok ([value], c.forward length)
  | none, none =>
    if isBreak ch then do
      let c := c.lineBreak.2
      let (breaks, c) ← quotedBreaks start (c.rest.length + 1) c
      return (pointsOf breaks, c)
    else malformed .doubleQuotedScalar start (.unknownEscape ch) c

/-- Reads what stands between quotes up to the next blank or the closing quote, in `fuel` steps at
most. -/
def quotedText (double : Bool) (start : Mark) : Nat → Cursor → Except Error (Points × Cursor)
  | 0, c => .ok ([], c)
  | fuel + 1, c => do
    let (plain, c) := c.span isOrdinary
    let ch := c.peek
    let on (found : Points) (c : Cursor) : Except Error (Points × Cursor) := do
      let (rest, c) ← quotedText double start fuel c
      return (pointsOf plain ++ found ++ rest, c)
    if !double ∧ ch = '\'' ∧ c.peekAt 1 = '\'' then on ['\''.toNat] (c.forward 2)
    else if (double ∧ ch = '\'') ∨ (!double ∧ (ch = '"' ∨ ch = '\\')) then on [ch.toNat] c.next
    else if double ∧ ch = '\\' then
      let (found, c) ← scanEscape start c.next
      on found c
    else return (pointsOf plain, c)

/-- Reads the blanks and line breaks between two words in quotes. -/
def quotedSpaces (start : Mark) (c : Cursor) : Except Error (Points × Cursor) :=
  let (blanks, c) := c.span fun ch => ch == ' ' || ch == '\t'
  if c.rest.isEmpty then malformed .quotedScalar start .endOfStream c
  else if isBreak c.peek then do
    let (broken, c) := c.lineBreak
    let (empty, c) ← quotedBreaks start (c.rest.length + 1) c
    return (pointsOf (joined broken empty), c)
  else .ok (pointsOf blanks, c)

/-- Reads a quoted scalar from behind its opening quote, in `fuel` steps at most. -/
def quotedParts (double : Bool) (start : Mark) : Nat → Cursor → Except Error (Points × Cursor)
  | 0, c => .ok ([], c)
  | fuel + 1, c => do
    let (text, c) ← quotedText double start (c.rest.length + 1) c
    if c.peek = (if double then '"' else '\'') then return (text, c.next)
    else
      let (spaces, c) ← quotedSpaces start c
      let (rest, c) ← quotedParts double start fuel c
      return (text ++ spaces ++ rest, c)

/-- Reads a quoted scalar. -/
def scanQuoted (double : Bool) (c : Cursor) : Except Error (Token × Cursor) := do
  let start := c.mark
  let (text, c) ← quotedParts double start (c.rest.length + 1) c.next
  return (⟨.scalar text false, start, c.mark⟩, c)

/-! ### Block scalars -/

/-- What the last line breaks of a block become. -/
inductive Chomping where
  /-- None of them is kept. -/
  | strip
  /-- One of them is kept. -/
  | clip
  /-- All of them are kept. -/
  | keep
  deriving DecidableEq, Repr

/-- Reads an indentation indicator, if a digit is ahead. -/
def scanIncrement (start : Mark) (c : Cursor) : Except Error (Option Nat × Cursor) :=
  if c.peek.isDigit then
    if c.peek = '0' then malformed .blockScalar start .zeroIndentation c
    else .ok (some (c.peek.toNat - '0'.toNat), c.next)
  else .ok (none, c)

/-- Reads a chomping indicator, if one is ahead. -/
def scanChomping (c : Cursor) : Option Chomping × Cursor :=
  if c.peek = '+' then (some .keep, c.next)
  else if c.peek = '-' then (some .strip, c.next)
  else (none, c)

/-- Reads the indicators of a block, in either order. -/
def scanIndicators (start : Mark) (c : Cursor) :
    Except Error (Chomping × Option Nat × Cursor) := do
  let (first, c) := scanChomping c
  let (increment, c) ← scanIncrement start c
  let (second, c) := if first.isNone && increment.isSome then scanChomping c else (none, c)
  if isSpaceOrEnd c.peek then return ((first.or second).getD .clip, increment, c)
  else malformed .blockScalar start (.expectedIndicators c.peek) c

/-- The breaks of the empty lines ahead, the largest column reached by their spaces, and the cursor
behind them; `fuel` steps at most. -/
def blockIndentation (most : Nat) : Nat → Cursor → List Char × Nat × Mark × Cursor
  | 0, c => ([], most, c.mark, c)
  | fuel + 1, c =>
    if c.peek = ' ' then
      let c := c.next
      blockIndentation (max most c.column) fuel c
    else if isBreak c.peek then
      let (broken, c) := c.lineBreak
      let (breaks, most, stop, c) := blockIndentation most fuel c
      (broken ++ breaks, most, stop, c)
    else ([], most, c.mark, c)

/-- Behind the spaces ahead, up to column `indent`. -/
def skipIndent (indent : Nat) (c : Cursor) : Cursor :=
  c.forward (min (indent - c.column) ((c.rest.takeWhile (· == ' ')).length))

/-- The breaks of the empty lines ahead in a block of the given indentation. -/
def blockBreaks (indent : Nat) : Nat → Cursor → List Char × Cursor
  | 0, c => ([], c)
  | fuel + 1, c =>
    let c := skipIndent indent c
    if isBreak c.peek then
      let (broken, c) := c.lineBreak
      let (breaks, c) := blockBreaks indent fuel c
      (broken ++ breaks, c)
    else ([], c)

/-- Reads the lines of a block, `fuel` of them at most, behind the empty lines `breaks`. Gives the
text, the last line break, the breaks of the empty lines at the end, and the cursor. -/
def blockLines (folded : Bool) (indent : Nat) (breaks : List Char) :
    Nat → Cursor → List Char × List Char × List Char × Cursor
  | 0, c => ([], [], breaks, c)
  | fuel + 1, c =>
    if c.column ≠ indent ∨ c.rest.isEmpty then ([], [], breaks, c)
    else
      let startsPlain := c.peek ≠ ' ' ∧ c.peek ≠ '\t'
      let (line, c) := c.span fun ch => !isBreakOrEnd ch
      let (broken, c) := c.lineBreak
      let (empty, c) := blockBreaks indent (c.rest.length + 1) c
      if c.column = indent ∧ !c.rest.isEmpty then
        let between :=
          if folded ∧ broken = ['\n'] ∧ startsPlain ∧ c.peek ≠ ' ' ∧ c.peek ≠ '\t' then
            if empty.isEmpty then [' '] else []
          else broken
        let (rest, last, tail, c) := blockLines folded indent empty fuel c
        (breaks ++ line ++ between ++ rest, last, tail, c)
      else (breaks ++ line, broken, empty, c)

/-- Reads a block scalar in a collection of the given indentation. -/
def scanBlock (folded : Bool) (indent : Int) (c : Cursor) : Except Error (Token × Cursor) := do
  let start := c.mark
  let (chomping, increment, c) ← scanIndicators start c.next
  let c ← scanLineEnd .blockScalar start c
  let least := (max (indent + 1) 1).toNat
  let (breaks, indent, c) := match increment with
    | none =>
      let (breaks, most, _, c) := blockIndentation 0 (c.rest.length + 1) c
      (breaks, max least most, c)
    | some n =>
      let indent := least + n - 1
      let (breaks, c) := blockBreaks indent (c.rest.length + 1) c
      (breaks, indent, c)
  let (text, last, tail, c) := blockLines folded indent breaks (c.rest.length + 1) c
  let text := match chomping with
    | .strip => text
    | .clip => text ++ last
    | .keep => text ++ last ++ tail
  return (⟨.scalar (pointsOf text) false, start, c.mark⟩, c)

end IndexScan.Yaml
