import IndexScan.Number.Binary64

/-!
Documents: nested values as they stand in a configuration file or in a machine-readable answer.
The members of an object keep their order and have distinct keys.
-/

namespace IndexScan

/-- A document. -/
inductive Json where
  | null
  | bool (b : Bool)
  | int (n : Int)
  | float (x : Binary64)
  | str (s : String)
  /-- A text with unpaired surrogates, which no `String` holds, as its code points. -/
  | brokenText (points : List Nat)
  | arr (items : List Json)
  | obj (members : List (String × Json))
  deriving Repr, Inhabited

namespace Json

/-- The pairs with the value of `key` replaced, or with a pair for `key` added at the end. -/
def insert {α : Type} (key : String) (value : α) : List (String × α) → List (String × α)
  | [] => [(key, value)]
  | (k, v) :: rest => if k = key then (k, value) :: rest else (k, v) :: insert key value rest

/-- The pairs in order of first occurrence, each with its last value. -/
def ofPairs {α : Type} (pairs : List (String × α)) : List (String × α) :=
  pairs.foldl (fun kept p => insert p.1 p.2 kept) []

/-- The value of `key` among pairs. -/
def lookup? {α : Type} (key : String) (pairs : List (String × α)) : Option α :=
  (pairs.find? fun p => p.1 = key).map (·.2)

/-- The member `key` of an object. -/
def get? (key : String) : Json → Option Json
  | obj members => lookup? key members
  | _ => none

/-- The text of code points, if none of them is a surrogate. -/
def ofPoints (points : List Nat) : Json :=
  if points.all fun n => n < 0xD800 || 0xE000 ≤ n then
    str (String.ofList (points.map Char.ofNat))
  else brokenText points

end Json

end IndexScan
