import IndexScan.Datum.Display
import IndexScan.Directive

/-!
Directive errors made by hand, from arguments of any type. An error of a known category takes the
arguments of that category; one of no category takes any and shows them.
-/

namespace IndexScan

/-- A directive error made from arguments. -/
inductive Fault where
  | invalidInteger (count reason : Json)
  | hardened (value : Json)
  | unrecognized (name : Json)
  | other (arguments : List Json)

/-- Why arguments make no error. -/
inductive NoFault where
  /-- The argument that is missing. -/
  | missing (category : DirectiveError.Category) (name : String)
  /-- More arguments than the category takes. -/
  | tooMany (category : DirectiveError.Category) (given : Nat)
  /-- An argument holds an integer too long to be shown. -/
  | tooLong
  deriving DecidableEq, Repr

/-- The name of a category's errors. -/
def DirectiveError.Category.errorName : DirectiveError.Category → String
  | .invalidInteger => "InvalidIntegerError"
  | .hardenedIndex => "HardenedIndexError"
  | .unrecognizedMode => "UnrecognizedModeError"
  | .other => "ResolverModeError"

/-- The wording of the refusal to make an error; the error itself counts as an argument. -/
def NoFault.message : NoFault → String
  | missing category name =>
    category.errorName ++ ".__init__() missing 1 required positional argument: '" ++ name ++ "'"
  | tooMany category given =>
    let takes := match category with
      | .invalidInteger => "from 2 to 3"
      | _ => "2"
    category.errorName ++ ".__init__() takes " ++ takes ++ " positional arguments but "
      ++ Decimal.text (given + 1 : Nat) ++ " were given"
  | tooLong => Decimal.tooLongToWrite

namespace Fault

/-- The category of an error. -/
def category : Fault → DirectiveError.Category
  | invalidInteger .. => .invalidInteger
  | hardened _ => .hardenedIndex
  | unrecognized _ => .unrecognizedMode
  | other _ => .other

/-- The text that shows an argument. -/
def shown? (x : Json) : Option String :=
  (Datum.ofJson x).display?.map String.ofList

/-- The text of an argument that stands alone. -/
def plain? (x : Json) : Option String :=
  (Datum.ofJson x).plain?.map String.ofList

/-- The wording of an error, unless an integer in it is too long. -/
def message? : Fault → Option String
  | invalidInteger count reason => do
    return DirectiveError.invalidIntegerMessage (← plain? reason) (← shown? count)
  | hardened value => (plain? value).map hardenedMessage
  | unrecognized name => (shown? name).map DirectiveError.unrecognizedMessage
  | other [] => some ""
  | other [x] => plain? x
  | other xs => (Datum.tuple (xs.map Datum.ofJson)).display?.map String.ofList

/-- The error that arguments make. -/
def ofArguments? (category : DirectiveError.Category) (arguments : List Json) :
    Except NoFault Fault := do
  let fault : Fault ← match category, arguments with
    | .invalidInteger, [] => throw (.missing category "text")
    | .invalidInteger, [count] =>
      pure (.invalidInteger count (.str DirectiveError.invalidDigitReason))
    | .invalidInteger, [count, reason] => pure (.invalidInteger count reason)
    | .hardenedIndex, [] => throw (.missing category "value")
    | .hardenedIndex, [value] => pure (.hardened value)
    | .unrecognizedMode, [] => throw (.missing category "name")
    | .unrecognizedMode, [name] => pure (.unrecognized name)
    | .other, xs => pure (.other xs)
    | _, xs => throw (.tooMany category xs.length)
  match category, fault.message? with
  | .other, _ => return fault
  | _, none => throw .tooLong
  | _, some _ => return fault

end Fault

end IndexScan
