import IndexScan.Datum.Display
import IndexScan.Mode

/-!
Values that may be compared and sorted side by side: free data, child indices and modes. Values of
unlike kinds are never equal and have no order.
-/

namespace IndexScan

/-- A value of any of the three kinds. -/
inductive Value where
  | plain (d : Datum)
  | index (i : UnhardenedIndex)
  | mode (m : Mode)
  deriving Inhabited

/-- The four order relations. -/
inductive Relation where
  | lt
  | le
  | gt
  | ge
  deriving DecidableEq, Repr

namespace Relation

/-- The sign of a relation. -/
def sign : Relation → String
  | lt => "<"
  | le => "<="
  | gt => ">"
  | ge => ">="

/-- Whether a relation holds of two values that compare as given. -/
def holds : Relation → Ordering → Bool
  | lt, o => o.isLT
  | le, o => o.isLE
  | gt, o => o.isGT
  | ge, o => o.isGE

end Relation

/-- An order relation asked of values that have no order. -/
structure Unordered where
  relation : Relation
  left : String
  right : String
  deriving DecidableEq, Repr

/-- The wording of the refusal to order two values. -/
def Unordered.message (u : Unordered) : String :=
  "'" ++ u.relation.sign ++ "' not supported between instances of '" ++ u.left ++ "' and '"
    ++ u.right ++ "'"

namespace Datum

mutual

/-- Whether a relation holds between two values. Lists are ordered by their first unequal items,
or by length if one begins the other. -/
def related (r : Relation) : Datum → Datum → Except Unordered Bool
  | str s, str t => .ok (r.holds (compare s t))
  | list xs, list ys => relatedItems r xs ys
  | a, b =>
    match compareNumbers? a b with
    | some (some o) => .ok (r.holds o)
    | some none => .ok false
    | none => .error ⟨r, a.typeName, b.typeName⟩

/-- Whether a relation holds between two lists. -/
def relatedItems (r : Relation) : List Datum → List Datum → Except Unordered Bool
  | x :: xs, y :: ys => if same x y then relatedItems r xs ys else related r x y
  | xs, ys => .ok (r.holds (compare xs.length ys.length))

end

end Datum

namespace Value

/-- The name of a value's type, as messages give it. -/
def typeName : Value → String
  | plain d => d.typeName
  | index _ => "UnhardenedIndex"
  | mode m => m.typeName

/-- The text that shows a value in a message. -/
def display? : Value → Option String
  | plain d => d.display?.map String.ofList
  | index i => some i.display
  | mode m => some m.display

/-- The text of a value that stands alone. -/
def text? : Value → Option String
  | plain d => d.plain?.map String.ofList
  | index i => some i.text
  | mode m => some m.directive

/-- Whether two values are equal. -/
def same : Value → Value → Bool
  | plain a, plain b => a.same b
  | index i, index j => i = j
  | mode m, mode n => m = n
  | _, _ => false

/-- Whether a relation holds between two values. -/
def related (r : Relation) : Value → Value → Except Unordered Bool
  | plain a, plain b => a.related r b
  | index i, index j => .ok (r.holds (compare i.value j.value))
  | mode m, mode n => .ok (r.holds (m.order n))
  | a, b => .error ⟨r, a.typeName, b.typeName⟩

/-- Whether a value can be a member of a set. -/
def isHashable : Value → Bool
  | plain d => d.isHashable
  | _ => true

/-- Why a value is no unhardened index. -/
inductive NoIndex where
  /-- The value is no integer; truth values do not count as integers here. -/
  | notInteger (typeName : String)
  | outOfRange (error : IndexError)
  deriving DecidableEq, Repr

/-- The wording of the refusal to take a value for an index. -/
def NoIndex.message : NoIndex → String
  | notInteger typeName => "UnhardenedIndex requires an int, got " ++ typeName
  | outOfRange error => error.message

/-- The index that an integer denotes. -/
def toIndex? : Value → Except NoIndex UnhardenedIndex
  | plain (.int n) => (UnhardenedIndex.ofInt? n).mapError .outOfRange
  | v => .error (.notInteger v.typeName)

/-- The limit that a value denotes: an index, or an integer that is one. -/
def toLimit? : Value → Except NoIndex UnhardenedIndex
  | index i => .ok i
  | v => toIndex? v

/-- The mode of a kind with the limit that a value denotes. -/
def toMode? (kind : Mode.Kind) (limit : Value) : Except NoIndex Mode :=
  match kind with
  | .single => .ok .single
  | .first => (toLimit? limit).map .first
  | .random => (toLimit? limit).map .random

/-- The most characters of a value that the refusal to take it for a mode shows. -/
def shownOfNoMode : Nat := 100

/-- The mode that a value is, or what is said of a value that is none. -/
def asMode? : Value → Except String Mode
  | mode m => .ok m
  | v =>
    match v.display? with
    | none => .error Decimal.tooLongToWrite
    | some shown =>
      let cs := shown.toList
      let cut := if shownOfNoMode < cs.length then cs.take shownOfNoMode ++ "...".toList else cs
      .error ("Expected code to be unreachable, but got: " ++ String.ofList cut)

/-- An attempt to change a field of a value. -/
inductive Change where
  | assign
  | delete
  deriving DecidableEq, Repr

/-- What is said of an attempt to change a field. Indices and modes never change, whatever the
field is called. -/
def Change.refusal (change : Change) (field : String) : String :=
  let verb := match change with
    | .assign => "cannot assign to field "
    | .delete => "cannot delete field "
  verb ++ Quoted.text field

/-- The number of distinct values in a list, or the type of the first that no set can hold. -/
def distinct (values : List Value) : Except String Nat :=
  match values.find? fun v => !v.isHashable with
  | some v => .error v.typeName
  | none => .ok (values.foldl (fun kept v => if kept.any (same · v) then kept else v :: kept)
      ([] : List Value)).length

/-- The place of `v` in the ordered array `sorted`, between `low` and `high`, behind its equals:
found by halving the range, `fuel` times at most. -/
def place (v : Value) (sorted : Array Value) : Nat → Nat → Nat → Except Unordered Nat
  | 0, low, _ => .ok low
  | fuel + 1, low, high =>
    if low < high then do
      let middle := (low + high) / 2
      if ← related .lt v (sorted.getD middle default) then place v sorted fuel low middle
      else place v sorted fuel (middle + 1) high
    else .ok low

/-- Inserts values one by one into an ordered array, each behind its equals. -/
def insertAll (sorted : Array Value) : List Value → Except Unordered (Array Value)
  | [] => .ok sorted
  | v :: rest => do
    let i ← place v sorted (sorted.size + 1) 0 sorted.size
    insertAll (sorted.insertIdxIfInBounds i v) rest

/-- The longest run at the start of the list that is ascending, or strictly descending when
`descending` is set; `last` is its last value so far, and the run is given last value first. -/
def run (descending : Bool) (last : Value) (taken : List Value) :
    List Value → Except Unordered (List Value × List Value)
  | [] => .ok (taken, [])
  | v :: rest => do
    if (← related .lt v last) == descending then run descending v (v :: taken) rest
    else .ok (taken, v :: rest)

/-- Asks for the order of values as sorting by insertion does: the run that begins the list is
taken as it is, or turned round, and what follows is inserted. The refusal is that of the first
two values, in this order of comparison, that have no order. -/
def checkOrdered : List Value → Except Unordered Unit
  | v :: w :: rest => do
    let descending ← related .lt w v
    let (taken, rest) ← run descending w [w, v] rest
    let _ ← insertAll (if descending then taken else taken.reverse).toArray rest
  | _ => .ok ()

/-- Whether `b` is not below `a`. -/
def notAbove (a b : Value) : Bool :=
  match related .lt b a with
  | .ok below => !below
  | .error _ => true

/-- The values in ascending order, equal ones in their given order. -/
def sortAscending (values : List Value) : Except Unordered (List Value) := do
  checkOrdered values
  return values.mergeSort notAbove

/-- The values in ascending or descending order, equal ones in their given order. -/
def sort (descending : Bool) (values : List Value) : Except Unordered (List Value) :=
  if descending then (sortAscending values.reverse).map List.reverse else sortAscending values

/-- The value that bears the relation to the others, found by comparing them one by one with the one
that stands so far; of equal values the first. With `lt` it is the least, with `gt` the greatest. -/
def extreme? (r : Relation) : List Value → Except Unordered (Option Value)
  | [] => .ok none
  | v :: rest => do
    let found ← rest.foldlM (fun kept w => return if ← related r w kept then w else kept) v
    return some found

end Value

end IndexScan
