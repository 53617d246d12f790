import IndexScan.Text.Decimal
import IndexScan.Yaml.Tag

/-!
Writing of texts as scalars. A text is written as it is where it reads back so; else between single
quotes; and between double quotes where only escapes will do. Long lines are folded at spaces.
-/

namespace IndexScan.Yaml.Writer

/-- Lines are folded behind this column. -/
def width : Nat := 80

/-- What begins a line that continues a scalar. -/
def indent : List Char := [' ', ' ']

/-! ### Which style a text needs -/

/-- Whether a text is free of characters that only an escape can write. -/
def isSimple (cs : List Char) : Bool :=
  cs.all fun c => c == '\n' || (0x20 ≤ c.toNat && c.toNat ≤ 0x7E)

/-- Whether a space and a line feed stand side by side. -/
def hasSpaceAtBreak : List Char → Bool
  | a :: b :: rest =>
    (a == ' ' && b == '\n') || (a == '\n' && b == ' ') || hasSpaceAtBreak (b :: rest)
  | _ => false

/-- Whether a text can stand between single quotes. -/
def allowsSingle (cs : List Char) : Bool :=
  isSimple cs && !hasSpaceAtBreak cs

/-- Whether what follows a character is a space, a line feed or nothing. -/
def endsWord (cs : List Char) : Bool :=
  match cs with
  | [] => true
  | c :: _ => c == ' ' || c == '\n'

/-- Whether the first characters of a text mean something else to a reader. -/
def beginsAsIndicator (cs : List Char) : Bool :=
  match cs with
  | [] => false
  | c :: rest =>
    "#,[]\x7b\x7d&*!|>'\"%@\x60".toList.contains c
      || ((c == '?' || c == ':' || c == '-') && endsWord rest)
      || cs.take 3 == ['-', '-', '-'] || cs.take 3 == ['.', '.', '.']

/-- Whether a text holds a colon that ends a word or a number sign that begins one, behind its first
character. -/
def holdsIndicator : List Char → Bool
  | a :: b :: rest =>
    (b == ':' && endsWord rest) || (b == '#' && endsWord [a]) || holdsIndicator (b :: rest)
  | _ => false

/-- Whether a text can be written as it is: it is one line without blanks at its ends, no part of it
means something else, and it does not look like a value of another type. -/
def allowsPlain (cs : List Char) : Bool :=
  isSimple cs && !cs.contains '\n' && cs.head? != some ' ' && cs.getLast? != some ' '
    && !beginsAsIndicator cs && !holdsIndicator cs
    && Tag.ofPlain (cs.map Char.toNat) == .str

/-! ### The styles -/

/-- A text with single spaces between words turned into line ends where the line is full. Line feeds
are doubled, and so are single quotes if `isQuoted`. The next column is `column`, and `before` is the
character in front. -/
def folded (isQuoted : Bool) (column : Nat) (before : Option Char) : List Char → List Char
  | [] => []
  | c :: rest =>
    if c = ' ' then
      if width < column ∧ before ≠ none ∧ before ≠ some ' ' ∧ rest ≠ [] ∧ rest.head? ≠ some ' ' then
        '\n' :: indent ++ folded isQuoted indent.length (some c) rest
      else ' ' :: folded isQuoted (column + 1) (some c) rest
    else if c = '\n' then
      let first := if before = some '\n' then [] else ['\n']
      let last := if rest.head? = some '\n' then [] else indent
      first ++ '\n' :: last ++ folded isQuoted indent.length (some c) rest
    else if c = '\'' ∧ isQuoted then '\'' :: '\'' :: folded isQuoted (column + 2) (some c) rest
    else c :: folded isQuoted (column + 1) (some c) rest

/-- The letters of one-letter escapes. -/
def escapeLetters : List (Nat × Char) :=
  [(0x00, '0'), (0x07, 'a'), (0x08, 'b'), (0x09, 't'), (0x0A, 'n'), (0x0B, 'v'), (0x0C, 'f'),
   (0x0D, 'r'), (0x1B, 'e'), (0x22, '"'), (0x5C, '\\'), (0x85, 'N'), (0xA0, '_'), (0x2028, 'L'),
   (0x2029, 'P')]

/-- Hexadecimal digits in upper case. -/
def upperHex (digits n : Nat) : List Char :=
  (Decimal.hex digits n).map Char.toUpper

/-- The escape of a character, if it needs one. -/
def escape? (c : Char) : Option (List Char) :=
  match escapeLetters.find? fun e => e.1 = c.toNat with
  | some (_, letter) => some ['\\', letter]
  | none =>
    let n := c.toNat
    if 0x20 ≤ n ∧ n ≤ 0x7E then none
    else if n ≤ 0xFF then some ('\\' :: 'x' :: upperHex 2 n)
    else if n ≤ 0xFFFF then some ('\\' :: 'u' :: upperHex 4 n)
    else some ('\\' :: 'U' :: upperHex 8 n)

/-- The end of a line within double quotes; a space that follows is escaped. -/
def escapedBreak (next : Option Char) : List Char :=
  '\\' :: '\n' :: indent ++ (if next = some ' ' then ['\\'] else [])

/-- The column behind an escaped line end. -/
def columnAfterBreak (next : Option Char) : Nat :=
  indent.length + (if next = some ' ' then 1 else 0)

/-- A text with escapes, and line ends where the line is full: in front of a space, and at the ends of
escapes. The next column is `column`; `isFirst` at the start of the text, and `inWord` behind a
character that is written as it is. -/
def escaped (column : Nat) (isFirst inWord : Bool) : List Char → List Char
  | [] => []
  | c :: rest =>
    let mayBreak := !isFirst && !rest.isEmpty
    match escape? c with
    | some e =>
      let column := column + e.length
      if mayBreak ∧ width + 1 < column then
        e ++ escapedBreak rest.head?
          ++ escaped (columnAfterBreak rest.head?) false false rest
      else e ++ escaped column false false rest
    | none =>
      if mayBreak ∧ (c = ' ' ∨ !inWord) ∧ width < column then
        escapedBreak (some c) ++ c :: escaped (columnAfterBreak (some c) + 1) false true rest
      else c :: escaped (column + 1) false true rest

/-- The scalar that a text is written as, from a column on. -/
def scalar (column : Nat) (cs : List Char) : List Char :=
  if allowsPlain cs then folded false column none cs
  else if allowsSingle cs then '\'' :: folded true (column + 1) none cs ++ ['\'']
  else '"' :: escaped (column + 1) true false cs ++ ['"']

end IndexScan.Yaml.Writer
