import IndexScan.Text.Decimal

/-!
Child indices. An index is unhardened when it lies in the lower half of the 32-bit index space;
only such an index can limit a scan or name a branch.
-/

namespace IndexScan

/-- The first hardened index. -/
def hardenedBoundary : Nat := 0x80000000

/-- The largest number of 32 bits. -/
def maxWord : Nat := 0xFFFFFFFF

/-- A child index below the hardened half. -/
structure UnhardenedIndex where
  value : Nat
  value_lt : value < hardenedBoundary
  deriving DecidableEq, Repr

/-- Why an integer is no unhardened index. -/
inductive IndexError where
  | negative (value : Int)
  | hardened (value : Nat)
  /-- The integer is outside the range and too long to be named in a message. -/
  | tooLong
  deriving DecidableEq, Repr

/-- What is said of a hardened index, whose text is given. -/
def hardenedMessage (shown : String) : String :=
  "The actual value of the used index (" ++ shown ++ ") corresponds to a hardened index, "
    ++ "which can't be used in the current context"

/-- The wording of an index error. -/
def IndexError.message : IndexError → String
  | negative value => "Child index must be non-negative, got " ++ Decimal.text value
  | hardened value => hardenedMessage (Decimal.text value)
  | tooLong => Decimal.tooLongToWrite

namespace UnhardenedIndex

instance : Inhabited UnhardenedIndex := ⟨⟨0, by decide⟩⟩

/-- The index zero. -/
def zero : UnhardenedIndex := ⟨0, by decide⟩

/-- The index one. -/
def one : UnhardenedIndex := ⟨1, by decide⟩

/-- The index with a given value. -/
def ofInt? (value : Int) : Except IndexError UnhardenedIndex :=
  match value with
  | .ofNat n =>
    if h : n < hardenedBoundary then .ok ⟨n, h⟩
    else if Decimal.fits n then .error (.hardened n)
    else .error .tooLong
  | .negSucc n =>
    if Decimal.fits (.negSucc n) then .error (.negative (.negSucc n)) else .error .tooLong

/-- The decimal text of an index. -/
def text (i : UnhardenedIndex) : String :=
  Decimal.text i.value

/-- The text that shows an index in a message. -/
def display (i : UnhardenedIndex) : String :=
  "UnhardenedIndex(value=" ++ i.text ++ ")"

end UnhardenedIndex

end IndexScan
