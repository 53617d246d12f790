import IndexScan.Text.Blank
import IndexScan.Text.Decimal
import IndexScan.Text.Digit

/-!
Reading an integer from free text. A numeral may be surrounded by blanks, may carry one sign, and
consists of decimal digits of any script with single underscores between them. More than
`Decimal.limit` digits are refused, leading zeros counted.
-/

namespace IndexScan.Numeral

open IndexScan.Text

/-- Why a text is no numeral. -/
inductive Refusal where
  /-- The text does not follow the grammar. -/
  | malformed
  /-- The text follows it with too many digits. -/
  | tooLong (digits : Nat)
  deriving DecidableEq, Repr

/-- The values of the digits of `cs`, which holds at least one digit and single underscores
between digits only. -/
def digits? (digit : Char → Option Nat) : List Char → Option (List Nat)
  | [] => none
  | c :: rest =>
    match digit c, rest with
    | none, _ => none
    | some d, [] => some [d]
    | some d, '_' :: rest => (digits? digit rest).map (d :: ·)
    | some d, next :: rest => (digits? digit (next :: rest)).map (d :: ·)

/-- The number with the decimal digits `ds`, most significant first. -/
def ofDigits (ds : List Nat) : Nat :=
  ds.foldl (fun n d => 10 * n + d) 0

/-- A sign and what follows it; no sign counts as plus. -/
def splitSign : List Char → Bool × List Char
  | '-' :: rest => (true, rest)
  | '+' :: rest => (false, rest)
  | cs => (false, cs)

/-- Reads a numeral with digits of any script. -/
def read (cs : List Char) : Except Refusal Int :=
  let (negative, body) := splitSign (trim isNumeralBlank cs)
  match digits? digitValue? body with
  | none => .error .malformed
  | some ds =>
    if Decimal.limit < ds.length then .error (.tooLong ds.length)
    else .ok (if negative then -(ofDigits ds : Int) else (ofDigits ds : Int))

/-- Reads a numeral that is wholly ASCII. -/
def readAscii (cs : List Char) : Except Refusal Int :=
  if cs.all fun c => c.toNat < 128 then read cs else .error .malformed

/-- The value of a digit below `base`: a decimal digit of any script, or a Latin letter. -/
def digitBelow? (base : Nat) (c : Char) : Option Nat :=
  let value? :=
    match digitValue? c with
    | some d => some d
    | none =>
      if 'a' ≤ c ∧ c ≤ 'z' then some (c.toNat - 'a'.toNat + 10)
      else if 'A' ≤ c ∧ c ≤ 'Z' then some (c.toNat - 'A'.toNat + 10)
      else none
  value?.filter fun d => d < base

/-- The letter that marks numerals of a base. -/
def baseLetter (base : Nat) : Char :=
  if base = 2 then 'b' else if base = 8 then 'o' else 'x'

/-- Reads a numeral in base two, eight or sixteen, with or without the mark of its base. The number
of digits is not limited. -/
def readInBase (base : Nat) (cs : List Char) : Except Refusal Int :=
  let (negative, body) := splitSign (trim isNumeralBlank cs)
  let unmarked := match body with
    | zero :: letter :: rest =>
      if digitValue? zero = some 0 ∧ letter.toLower = baseLetter base then rest else body
    | _ => body
  match digits? (digitBelow? base) unmarked with
  | none => .error .malformed
  | some ds =>
    let n := ds.foldl (fun n d => base * n + d) 0
    .ok (if negative then -(n : Int) else (n : Int))

end IndexScan.Numeral
