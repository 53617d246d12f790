import IndexScan.Datum.Calendar
import IndexScan.Json.Basic

/-!
Values of free data, as profiles and comparisons meet them: whatever a structured text can hold,
mappings with keys of any kind included.
-/

namespace IndexScan

/-- A value of free data. -/
inductive Datum where
  | null
  | bool (b : Bool)
  | int (n : Int)
  | float (x : Binary64)
  | str (s : String)
  /-- A text with unpaired surrogates, as its code points. -/
  | brokenText (points : List Nat)
  | bytes (bs : List UInt8)
  | date (d : Date)
  | timestamp (t : Timestamp)
  | list (items : List Datum)
  | tuple (items : List Datum)
  | map (entries : List (Datum × Datum))
  | set (items : List Datum)
  /-- A list that holds itself, seen from within. -/
  | enclosingList
  /-- A mapping that holds itself, seen from within. -/
  | enclosingMap
  deriving Repr, Inhabited

namespace Datum

mutual

/-- A document as free data. -/
def ofJson : Json → Datum
  | .null => null
  | .bool b => bool b
  | .int n => int n
  | .float x => float x
  | .str s => str s
  | .brokenText ps => brokenText ps
  | .arr items => list (ofJsonItems items)
  | .obj members => map (ofJsonMembers members)

/-- The items of an array as free data. -/
def ofJsonItems : List Json → List Datum
  | [] => []
  | x :: xs => ofJson x :: ofJsonItems xs

/-- The members of an object as free data. -/
def ofJsonMembers : List (String × Json) → List (Datum × Datum)
  | [] => []
  | (k, x) :: ms => (str k, ofJson x) :: ofJsonMembers ms

end

/-- The name of a value's type, as messages give it. -/
def typeName : Datum → String
  | null => "NoneType"
  | bool _ => "bool"
  | int _ => "int"
  | float _ => "float"
  | str _ | brokenText _ => "str"
  | bytes _ => "bytes"
  | date _ => "date"
  | timestamp _ => "datetime"
  | list _ | enclosingList => "list"
  | tuple _ => "tuple"
  | map _ | enclosingMap => "dict"
  | set _ => "set"

/-- Whether a value counts as true: zero and whatever is empty do not. -/
def isTruthy : Datum → Bool
  | null => false
  | bool b => b
  | int n => n != 0
  | float x => !x.isZero
  | str s => !s.isEmpty
  | brokenText ps => !ps.isEmpty
  | bytes bs => !bs.isEmpty
  | date _ | timestamp _ => true
  | list xs | tuple xs | set xs => !xs.isEmpty
  | map es => !es.isEmpty
  | enclosingList | enclosingMap => true

/-- Whether a value can be a key: what has parts that may change cannot. -/
def isHashable : Datum → Bool
  | list _ | map _ | set _ | enclosingList | enclosingMap => false
  | tuple xs => allHashable xs
  | _ => true
where
  /-- Whether every item can be a key. -/
  allHashable : List Datum → Bool
    | [] => true
    | x :: xs => isHashable x && allHashable xs

/-- The integer that a truth value or an integer counts as. -/
def asInt? : Datum → Option Int
  | bool b => some b.toNat
  | int n => some n
  | _ => none

/-- How two numbers compare, truth values included; `none` if one is no number, and `some none` if
one is a NaN. -/
def compareNumbers? (a b : Datum) : Option (Option Ordering) :=
  match a, b with
  | float x, float y => some (x.compare? y)
  | float x, b => (asInt? b).map fun n => (Binary64.compareInt? n x).map Ordering.swap
  | a, float y => (asInt? a).map fun n => Binary64.compareInt? n y
  | a, b =>
    match asInt? a, asInt? b with
    | some m, some n => some (some (compare m n))
    | _, _ => none

mutual

/-- Whether two values are equal: numbers by value, mappings and sets whatever their order. -/
def same : Datum → Datum → Bool
  | null, null => true
  | str s, str t => s == t
  | brokenText s, brokenText t => s == t
  | bytes s, bytes t => s == t
  | date d, date e => d == e
  | timestamp t, timestamp u => t == u
  | list xs, list ys => sameItems xs ys
  | tuple xs, tuple ys => sameItems xs ys
  | set xs, set ys => xs.length == ys.length && allAmong xs ys
  | map es, map fs => es.length == fs.length && allEntriesAmong es fs
  | a, b => compareNumbers? a b == some (some .eq)

/-- Whether two lists have equal items. -/
def sameItems : List Datum → List Datum → Bool
  | [], [] => true
  | x :: xs, y :: ys => same x y && sameItems xs ys
  | _, _ => false

/-- Whether every item has an equal among `ys`. -/
def allAmong : List Datum → List Datum → Bool
  | [], _ => true
  | x :: xs, ys => (ys.any fun y => same x y) && allAmong xs ys

/-- Whether every entry has an equal among `fs`. -/
def allEntriesAmong : List (Datum × Datum) → List (Datum × Datum) → Bool
  | [], _ => true
  | (k, v) :: es, fs => (fs.any fun f => same k f.1 && same v f.2) && allEntriesAmong es fs

end

instance : BEq Datum := ⟨same⟩

/-- The entries with the value of `key` replaced, or with an entry added at the end. -/
def insertEntry (key value : Datum) : List (Datum × Datum) → List (Datum × Datum)
  | [] => [(key, value)]
  | (k, v) :: rest =>
    if same k key then (k, value) :: rest else (k, v) :: insertEntry key value rest

/-- The value of the text key `key`. -/
def lookup? (key : String) (entries : List (Datum × Datum)) : Option Datum :=
  (entries.find? fun e => match e.1 with
    | str s => s = key
    | _ => false).map (·.2)

end Datum

end IndexScan
