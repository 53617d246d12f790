import IndexScan.Index
import IndexScan.Profile.Problem
import IndexScan.Text.Numeral

/-!
Branches: which values count as integers, and which lists of integers can be the branches of a
profile.
-/

namespace IndexScan.Profile.Branch

open IndexScan.Text

/-- Whether a text begins with a number, written without superfluous zeros, that has more characters
than a numeral may have. -/
def isLongNumeral (cs : List Char) : Bool :=
  let (sign, body) := match cs with
    | '-' :: rest => (1, rest)
    | _ => (0, cs)
  match body with
  | c :: _ =>
    '1' ≤ c && c ≤ '9' && Decimal.limit < sign + (body.takeWhile Char.isDigit).length
  | [] => false

/-- The integer that a text denotes: digits with single underscores between them, behind a sign if
need be, and with zeros behind a point if need be. Blanks around it do not count. -/
def ofText (cs : List Char) : Except Cause Int :=
  if isLongNumeral cs then .error .longNumeral
  else
    let (negative, body) := Numeral.splitSign (trim isNumeralBlank cs)
    let whole := body.takeWhile fun c => c ≠ '.'
    let zeros := (body.drop whole.length).drop 1
    match Numeral.digits? asciiDigit? whole with
    | some ds =>
      let length := (ds.dropWhile fun d => d = 0).length + negative.toNat
      if !zeros.all (fun c => c = '0') || Decimal.limit < length then .error .badNumeral
      else .ok (if negative then -(Numeral.ofDigits ds : Int) else (Numeral.ofDigits ds : Int))
    | none => .error .badNumeral

/-- The bound, on both sides, of the integers that floating-point numbers count as. -/
def floatBound : Int := 0x8000000000000000

/-- The integer that a floating-point number equals. -/
def ofFloat (x : Binary64) : Except Cause Int :=
  match x with
  | .finite .. =>
    match x.toInt? with
    | none => .error .fraction
    | some n => if -floatBound < n ∧ n < floatBound then .ok n else .error .longNumeral
  | _ => .error .notFinite

/-- The integer that a value counts as. -/
def ofDatum : Datum → Except Cause Int
  | .bool b => .ok b.toNat
  | .int n => .ok n
  | .float x => ofFloat x
  | .str s => ofText s.toList
  | .brokenText _ => .error .badText
  | .bytes bs =>
    match Utf8.decode bs with
    | .ok cs => ofText cs
    | .error _ => .error .badNumeral
  | _ => .error .notInteger

/-- Why an integer cannot be a branch. -/
def refusal? (branch : Int) : Option String :=
  match UnhardenedIndex.ofInt? branch with
  | .ok _ => none
  | .error .tooLong => some Decimal.tooLongToWrite
  | .error e => some ("Invalid branch " ++ Decimal.text branch ++ ": " ++ e.message)

/-- The integers, if they can be the branches of a profile: there is one, and all are unhardened
indices. -/
def all (branches : List Int) : Except Cause (List Int) :=
  if branches.isEmpty then .error (.refused "At least one branch is required")
  else
    match branches.findSome? refusal? with
    | some reason => .error (.refused reason)
    | none => .ok branches

end IndexScan.Profile.Branch
