import IndexScan.Number.Binary64
import IndexScan.Text.Numeral

/-!
Reading a floating-point number from free text. It may be surrounded by blanks and may carry a sign;
it is a word for an infinity or for no number, or digits of any script with a point and an exponent.
-/

namespace IndexScan.Binary64

open IndexScan.Text

/-- The ASCII digit of the same value, where `c` is a digit of any script. -/
def plainDigit (c : Char) : Char :=
  match digitValue? c with
  | some d => Nat.digitChar d
  | none => c

/-- The exponent that `cs` spells: a letter, a sign and digits; zero if `cs` is empty. -/
def exponent? (cs : List Char) : Option Int :=
  match cs with
  | [] => some 0
  | e :: rest =>
    let (negative, ds) := Numeral.splitSign rest
    if (e = 'e' ∨ e = 'E') ∧ ds ≠ [] ∧ ds.all Char.isDigit then
      some (if negative then -(Decimal.value ds : Int) else Decimal.value ds)
    else none

/-- Reads digits with a point and an exponent, all but some digits optional. -/
def decimal? (negative : Bool) (cs : List Char) : Option Binary64 := do
  let whole := cs.takeWhile Char.isDigit
  let rest := cs.drop whole.length
  let (fraction, rest) := match rest with
    | '.' :: rest => (rest.takeWhile Char.isDigit, rest.dropWhile Char.isDigit)
    | _ => ([], rest)
  if whole = [] ∧ fraction = [] then failure
  let exponent ← exponent? rest
  let ds := (whole ++ fraction).dropWhile fun c => c = '0'
  return ofDecimal negative (Decimal.value ds) ds.length (exponent - fraction.length)

/-- The number that a text denotes. -/
def read? (cs : List Char) : Option Binary64 :=
  let (negative, body) := Numeral.splitSign ((trim isNumeralBlank cs).map plainDigit)
  let word := String.ofList (body.map Char.toLower)
  if word = "inf" ∨ word = "infinity" then some (.infinite negative)
  else if word = "nan" then some .nan
  else decimal? negative body

end IndexScan.Binary64
