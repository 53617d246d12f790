import IndexScan.Json.Basic
import IndexScan.Number.Shortest
import IndexScan.Text.Decimal

/-!
Writing a document as ASCII text: indented by two spaces a level, or on one line. An integer that
is too long to be written ends the text early, and what was written before it is still known.
-/

namespace IndexScan.Json

/-- Text that is written in order; `complete` says whether it was written to its end. -/
structure Written where
  text : List Char
  complete : Bool

namespace Written

/-- Complete text. -/
def of (cs : List Char) : Written := ⟨cs, true⟩

/-- Text that ends before an integer too long to be written. -/
def broken : Written := ⟨[], false⟩

/-- What is written after incomplete text is lost. -/
def append (a b : Written) : Written :=
  if a.complete then ⟨a.text ++ b.text, b.complete⟩ else a

instance : Append Written := ⟨append⟩

end Written

/-- The escape of a code point below `0x10000`. -/
def unitEscape (n : Nat) : List Char :=
  '\\' :: 'u' :: Decimal.hex 4 n

/-- The escape of a code point, two surrogates if it needs them. -/
def pointEscape (n : Nat) : List Char :=
  if n < 0x10000 then unitEscape n
  else unitEscape (0xD800 + (n - 0x10000) / 0x400) ++ unitEscape (0xDC00 + (n - 0x10000) % 0x400)

/-- One code point between quotes: printable ASCII as it is, anything else escaped. -/
def quotedPoint (n : Nat) : List Char :=
  if n = 0x22 then ['\\', '"']
  else if n = 0x5C then ['\\', '\\']
  else if n = 0x0A then ['\\', 'n']
  else if n = 0x0D then ['\\', 'r']
  else if n = 0x09 then ['\\', 't']
  else if n = 0x08 then ['\\', 'b']
  else if n = 0x0C then ['\\', 'f']
  else if 0x20 ≤ n ∧ n < 0x7F then [Char.ofNat n]
  else pointEscape n

/-- A text between quotes. -/
def quoted (s : String) : List Char :=
  '"' :: s.toList.flatMap (fun c => quotedPoint c.toNat) ++ ['"']

/-- How the parts of a document are set apart: what stands in front of an item at a level, and
between a key and its value. -/
structure Layout where
  newline : Nat → List Char
  betweenItems : List Char
  afterKey : List Char

/-- Two spaces a level. -/
def Layout.indented : Layout :=
  ⟨fun level => '\n' :: List.replicate (2 * level) ' ', [','], [':', ' ']⟩

/-- All on one line. -/
def Layout.line : Layout :=
  ⟨fun _ => [], [',', ' '], [':', ' ']⟩

/-- An integer of at most `limit` digits. -/
def writtenInt (limited : Bool) (n : Int) : Written :=
  if limited && !Decimal.fits n then .broken else .of (Decimal.ofInt n)

mutual

/-- A document at a level; with `limited`, integers that are too long end it. -/
def written (l : Layout) (limited : Bool) (level : Nat) : Json → Written
  | null => .of "null".toList
  | bool b => .of (if b then "true" else "false").toList
  | int n => writtenInt limited n
  | float x => .of (x.text .document).toList
  | str s => .of (quoted s)
  | brokenText ps => .of ('"' :: ps.flatMap quotedPoint ++ ['"'])
  | arr [] => .of ['[', ']']
  | arr (x :: xs) =>
    .of ('[' :: l.newline (level + 1)) ++ written l limited (level + 1) x
      ++ writtenItems l limited level xs
  | obj [] => .of ['\x7b', '\x7d']
  | obj ((k, x) :: ms) =>
    .of ('\x7b' :: l.newline (level + 1) ++ quoted k ++ l.afterKey)
      ++ written l limited (level + 1) x ++ writtenMembers l limited level ms

/-- The items after the first, and the closing bracket. -/
def writtenItems (l : Layout) (limited : Bool) (level : Nat) : List Json → Written
  | [] => .of (l.newline level ++ [']'])
  | x :: xs =>
    .of (l.betweenItems ++ l.newline (level + 1)) ++ written l limited (level + 1) x
      ++ writtenItems l limited level xs

/-- The members after the first, and the closing brace. -/
def writtenMembers (l : Layout) (limited : Bool) (level : Nat) : List (String × Json) → Written
  | [] => .of (l.newline level ++ ['\x7d'])
  | (k, x) :: ms =>
    .of (l.betweenItems ++ l.newline (level + 1) ++ quoted k ++ l.afterKey)
      ++ written l limited (level + 1) x ++ writtenMembers l limited level ms

end

/-- The indented text of a document. -/
def render (x : Json) : Written :=
  written .indented true 0 x

/-- A document on one line, integers of any length included. -/
def compact (x : Json) : String :=
  String.ofList (written .line false 0 x).text

end IndexScan.Json
