/-!
Integers written in decimal. Written integers are limited to `Decimal.limit` digits; a longer one
has no written form here, and `write?` says so.
-/

namespace IndexScan.Decimal

/-- The most digits that a written integer may have. -/
def limit : Nat := 4300

/-- The digits of `n`, without leading zeros. -/
def ofNat (n : Nat) : List Char :=
  Nat.toDigits 10 n

/-- The digits of `n` behind a minus sign when it is negative. -/
def ofInt : Int → List Char
  | .ofNat n => ofNat n
  | .negSucc n => '-' :: ofNat (n + 1)

/-- The number that the digits `cs` denote, most significant digit first. -/
def value (cs : List Char) : Nat :=
  Nat.ofDigitChars 10 cs 0

theorem value_ofNat (n : Nat) : value (ofNat n) = n :=
  Nat.ofDigitChars_toDigits (by decide) (by decide)

/-- Whether `n` is written with at most `limit` digits. -/
def fits (n : Int) : Bool :=
  n.natAbs < Nat.pow 10 limit

/-- The text of `n`, for numbers known to be short. -/
def text (n : Int) : String :=
  String.ofList (ofInt n)

/-- The text of `n`, if it is short enough to be written. -/
def write? (n : Int) : Option String :=
  if fits n then some (text n) else none

/-- What is said of an integer too long to be written. -/
def tooLongToWrite : String :=
  "Exceeds the limit (4300 digits) for integer string conversion; "
    ++ "use sys.set_int_max_str_digits() to increase the limit"

/-- What is said of a numeral of `digits` digits that is too long to be read. -/
def tooLongToRead (digits : Nat) : String :=
  "Exceeds the limit (4300 digits) for integer string conversion: value has "
    ++ text digits ++ " digits; use sys.set_int_max_str_digits() to increase the limit"

/-- The digits of `n` in base sixteen, lower case, padded with zeros to `width`. -/
def hex (width n : Nat) : List Char :=
  let ds := Nat.toDigits 16 n
  List.replicate (width - ds.length) '0' ++ ds

end IndexScan.Decimal
