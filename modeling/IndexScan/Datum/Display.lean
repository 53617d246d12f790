import IndexScan.Datum.Basic
import IndexScan.Number.Shortest
import IndexScan.Text.Quoted

/-!
The text that shows a value in a message: text is quoted, lists stand in brackets, mappings in
braces. A value with an integer too long to be written has no such text.
-/

namespace IndexScan

/-- The text of a day. -/
def Date.display (d : Date) : List Char :=
  "datetime.date(".toList ++ Decimal.ofNat d.year ++ ", ".toList ++ Decimal.ofNat d.month
    ++ ", ".toList ++ Decimal.ofNat d.day ++ [')']

/-- The text of an offset from universal time. -/
def Timestamp.displayOffset (minutes : Int) : List Char :=
  if minutes = 0 then "datetime.timezone.utc".toList
  else ("datetime.timezone(" ++ offsetText minutes ++ ")").toList

/-- The text of a time; seconds are left out if they and the microseconds are zero. -/
def Timestamp.display (t : Timestamp) : List Char :=
  let fields := [t.date.year, t.date.month, t.date.day, t.hour, t.minute]
    ++ (if t.second = 0 ∧ t.microsecond = 0 then [] else [t.second])
    ++ (if t.microsecond = 0 then [] else [t.microsecond])
  let zone := match t.offset? with
    | none => []
    | some minutes => ", tzinfo=".toList ++ displayOffset minutes
  "datetime.datetime(".toList
    ++ (", ".toList).intercalate (fields.map Decimal.ofNat) ++ zone ++ [')']

namespace Datum

mutual

/-- The text that shows a value, unless an integer in it is too long. -/
def display? : Datum → Option (List Char)
  | null => some "None".toList
  | bool b => some (if b then "True" else "False").toList
  | int n => if Decimal.fits n then some (Decimal.ofInt n) else none
  | float x => some (x.text .plain).toList
  | str s => some (Quoted.encode s.toList)
  | brokenText ps => some (Quoted.encodePoints ps)
  | bytes bs => some (Quoted.encodeBytes bs)
  | date d => some d.display
  | timestamp t => some t.display
  | list xs => (displayItems? xs).map fun items =>
      '[' :: (", ".toList).intercalate items ++ [']']
  | tuple [x] => (display? x).map fun item => '(' :: item ++ [',', ')']
  | tuple xs => (displayItems? xs).map fun items =>
      '(' :: (", ".toList).intercalate items ++ [')']
  | set [] => some "set()".toList
  | set xs => (displayItems? xs).map fun items =>
      '\x7b' :: (", ".toList).intercalate items ++ ['\x7d']
  | map es => (displayEntries? es).map fun entries =>
      '\x7b' :: (", ".toList).intercalate entries ++ ['\x7d']
  | enclosingList => some "[...]".toList
  | enclosingMap => some "\x7b...\x7d".toList

/-- The texts of items. -/
def displayItems? : List Datum → Option (List (List Char))
  | [] => some []
  | x :: xs => do
    let item ← display? x
    let items ← displayItems? xs
    return item :: items

/-- The texts of entries. -/
def displayEntries? : List (Datum × Datum) → Option (List (List Char))
  | [] => some []
  | (k, v) :: es => do
    let key ← display? k
    let value ← display? v
    let entries ← displayEntries? es
    return (key ++ [':', ' '] ++ value) :: entries

end

/-- The text of a value that stands alone: text unquoted, all else as in `display?`. -/
def plain? : Datum → Option (List Char)
  | str s => some s.toList
  | d => display? d

end Datum

end IndexScan
