import IndexScan.Number.Binary64
import IndexScan.Text.Decimal

/-!
The shortest decimal that reads back as a given floating-point number, and the text that shows it:
positional from `0.0001` up to below `10 ^ 16`, with an exponent of at least two digits elsewhere.
-/

namespace IndexScan.Binary64

/-- The exponent `k` with `10 ^ (k - 1) ≤ num / den < 10 ^ k`, for a positive fraction. -/
def decimalPoint (num den : Nat) : Int :=
  if den ≤ num then (Decimal.ofNat (num / den)).length
  else
    let l := (Decimal.ofNat (den / num)).length
    if num * Nat.pow 10 (l - 1) = den then 2 - (l : Int) else 1 - (l : Int)

/-- The decimal with `n` digits nearest to the positive number `± m · 2 ^ e` among the two
neighbours that read back as it: the digits and the power of ten they count. -/
def decimalOf? (m : Nat) (e : Int) (point : Int) (n : Nat) : Option (Nat × Int) :=
  let (num, den) := fraction false m e
  let power := point - n
  let a := num.natAbs * Nat.pow 10 (-power).toNat
  let b := den * Nat.pow 10 power.toNat
  let below := a / b
  let readsBack (digits : Nat) : Bool :=
    round false (digits * Nat.pow 10 power.toNat) (Nat.pow 10 (-power).toNat) = finite false m e
  let r := a % b
  let nearerBelow := 2 * r < b ∨ (2 * r = b ∧ below % 2 = 0)
  if readsBack below && readsBack (below + 1) then
    some (if nearerBelow then below else below + 1, power)
  else if readsBack below then some (below, power)
  else if readsBack (below + 1) then some (below + 1, power)
  else none

/-- The first of `decimalOf?` with `n`, `n + 1`, … digits, `fuel` tries at most. -/
def firstDecimal (m : Nat) (e : Int) (point : Int) : Nat → Nat → Nat × Int
  | _, 0 => (m, e)
  | n, fuel + 1 =>
    match decimalOf? m e point n with
    | some d => d
    | none => firstDecimal m e point (n + 1) fuel

/-- The significant digits of a positive number, without trailing zeros, and the place of the
decimal point: `0.d₁d₂… · 10 ^ point`. -/
def shortest (m : Nat) (e : Int) : List Char × Int :=
  let (num, den) := fraction false m e
  let (digits, power) := firstDecimal m e (decimalPoint num.natAbs den) 1 17
  let ds := Decimal.ofNat digits
  let point := power + ds.length
  ((ds.reverse.dropWhile (· == '0')).reverse, point)

/-- The digits `ds` written with the decimal point at `point`. -/
def layOut (ds : List Char) (point : Int) : List Char :=
  if -4 < point ∧ point ≤ 16 then
    if point ≤ 0 then '0' :: '.' :: List.replicate (-point).toNat '0' ++ ds
    else
      let whole := ds.take point.toNat
      let rest := ds.drop point.toNat
      whole ++ List.replicate (point.toNat - whole.length) '0' ++ '.' ::
        (if rest.isEmpty then ['0'] else rest)
  else
    let exponent := point - 1
    let size := Decimal.ofNat exponent.natAbs
    ds.take 1 ++ (if ds.length ≤ 1 then [] else '.' :: ds.drop 1)
      ++ 'e' :: (if exponent < 0 then '-' else '+') :: List.replicate (2 - size.length) '0' ++ size

/-- The spellings of the numbers that have no digits. -/
structure Spelling where
  nan : String
  infinity : String
  minusInfinity : String

/-- How messages spell them. -/
def Spelling.plain : Spelling := ⟨"nan", "inf", "-inf"⟩

/-- How documents spell them. -/
def Spelling.document : Spelling := ⟨"NaN", "Infinity", "-Infinity"⟩

/-- The text of a number. -/
def text (spelling : Spelling) : Binary64 → String
  | nan => spelling.nan
  | infinite s => if s then spelling.minusInfinity else spelling.infinity
  | finite s m e =>
    let body :=
      if m = 0 then ['0', '.', '0']
      else
        let (ds, point) := shortest m e
        layOut ds point
    String.ofList (if s then '-' :: body else body)

end IndexScan.Binary64
