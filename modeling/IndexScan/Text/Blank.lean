import IndexScan.Text.Ranges

/-!
Blank characters. Two classes are in use: the blanks that surround a written integer, and the
larger class that separates words.
-/

namespace IndexScan.Text

/-- Blanks beyond ASCII. -/
def wideBlankRanges : List (Nat × Nat) :=
  [(0x85, 0x85), (0xA0, 0xA0), (0x1680, 0x1680), (0x2000, 0x200A), (0x2028, 0x2029),
   (0x202F, 0x202F), (0x205F, 0x205F), (0x3000, 0x3000)]

/-- The blanks that may surround a written integer: space, tab, the line and page ends of ASCII,
and every blank beyond ASCII. -/
def isNumeralBlank (c : Char) : Bool :=
  c.toNat == 0x20 || (0x09 ≤ c.toNat && c.toNat ≤ 0x0D) || inRanges wideBlankRanges c

/-- The blanks that separate words: those around an integer and the four ASCII separators. -/
def isBlank (c : Char) : Bool :=
  isNumeralBlank c || (0x1C ≤ c.toNat && c.toNat ≤ 0x1F)

/-- `cs` without the characters of `drop` at its start. -/
def trimLeft (drop : Char → Bool) (cs : List Char) : List Char :=
  cs.dropWhile drop

/-- `cs` without the characters of `drop` at its end. -/
def trimRight (drop : Char → Bool) (cs : List Char) : List Char :=
  (cs.reverse.dropWhile drop).reverse

/-- `cs` without the characters of `drop` at either end. -/
def trim (drop : Char → Bool) (cs : List Char) : List Char :=
  trimRight drop (trimLeft drop cs)

/-- The words of `cs`: its longest runs of characters that are not blank. -/
def words (cs : List Char) : List (List Char) :=
  go [] cs
where
  /-- `word` holds the word being read, last character first. -/
  go (word : List Char) : List Char → List (List Char)
    | [] => if word.isEmpty then [] else [word.reverse]
    | c :: rest =>
      if isBlank c then
        if word.isEmpty then go [] rest else word.reverse :: go [] rest
      else go (c :: word) rest

end IndexScan.Text
