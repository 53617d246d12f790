import IndexScan.Text.Decimal

/-!
Dates and times of the proleptic calendar, years 1 to 9999.
-/

namespace IndexScan

/-- A day of the calendar. -/
structure Date where
  year : Nat
  month : Nat
  day : Nat
  deriving DecidableEq, Repr, Inhabited

/-- A time on a day, with the offset from universal time in minutes where one is known. -/
structure Timestamp where
  date : Date
  hour : Nat
  minute : Nat
  second : Nat
  microsecond : Nat
  offset? : Option Int
  deriving DecidableEq, Repr, Inhabited

namespace Date

/-- Whether a year has a leap day. -/
def isLeap (year : Nat) : Bool :=
  year % 4 == 0 && (year % 100 != 0 || year % 400 == 0)

/-- The number of days in a month. -/
def monthLength (year month : Nat) : Nat :=
  if month = 2 then (if isLeap year then 29 else 28)
  else if month = 4 ∨ month = 6 ∨ month = 9 ∨ month = 11 then 30
  else 31

/-- Why numbers denote no time. -/
inductive Refusal where
  | year (year : Nat)
  | month
  | day
  | hour
  | minute
  | second
  /-- An offset of a day or more, in minutes. -/
  | offset (minutes : Int)
  deriving DecidableEq, Repr

/-- The day with the given numbers. -/
def of? (year month day : Nat) : Except Refusal Date :=
  if year < 1 ∨ 9999 < year then .error (.year year)
  else if month < 1 ∨ 12 < month then .error .month
  else if day < 1 ∨ monthLength year month < day then .error .day
  else .ok ⟨year, month, day⟩

end Date

namespace Timestamp

/-- The text that shows an offset in minutes. -/
def offsetText (minutes : Int) : String :=
  let days := Int.fdiv minutes 1440
  let seconds := Int.fmod minutes 1440 * 60
  let parts := (if days = 0 then [] else ["days=" ++ Decimal.text days])
    ++ (if seconds = 0 then [] else ["seconds=" ++ Decimal.text seconds])
  "datetime.timedelta(" ++ ", ".intercalate parts ++ ")"

/-- The time with the given numbers. -/
def of? (year month day hour minute second microsecond : Nat) (offset? : Option Int) :
    Except Date.Refusal Timestamp := do
  let date ← Date.of? year month day
  if 23 < hour then throw .hour
  if 59 < minute then throw .minute
  if 59 < second then throw .second
  return ⟨date, hour, minute, second, microsecond, offset?⟩

end Timestamp

end IndexScan
