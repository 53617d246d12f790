import IndexScan.Index

/-!
Resolver modes: how many child indices a scan probes, and in what order. Modes are ordered by
kind and then by count, and two modes are equal exactly when their directives are.
-/

namespace IndexScan

/-- A resolver mode. -/
inductive Mode where
  /-- Probe index zero only. -/
  | single
  /-- Probe the first `limit` indices in ascending order. -/
  | first (limit : UnhardenedIndex)
  /-- Probe `limit` indices drawn at random. -/
  | random (limit : UnhardenedIndex)
  deriving DecidableEq, Repr, Inhabited

namespace Mode

/-- The kinds of mode, in their order. -/
inductive Kind where
  | single
  | first
  | random
  deriving DecidableEq, Repr

/-- The word that begins the directives of a kind. -/
def Kind.word : Kind → String
  | .single => "while"
  | .first => "first"
  | .random => "random"

/-- The place of a kind in the order. -/
def Kind.rank : Kind → Nat
  | .single => 0
  | .first => 1
  | .random => 2

/-- The kind of a mode. -/
def kind : Mode → Kind
  | single => .single
  | first _ => .first
  | random _ => .random

/-- The number of indices that a scan with this mode probes. -/
def count : Mode → Nat
  | single => 1
  | first limit => limit.value
  | random limit => limit.value

/-- Whether the mode probes index zero only. -/
def isSingle (m : Mode) : Bool := m.kind = .single

/-- Whether the mode draws its indices at random. -/
def isRandom (m : Mode) : Bool := m.kind = .random

/-- The directive of a mode: its word, and its count unless it has no limit. -/
def directive : Mode → String
  | single => Kind.word .single
  | first limit => Kind.word .first ++ limit.text
  | random limit => Kind.word .random ++ limit.text

/-- The name of a mode's type, as messages give it. -/
def typeName : Mode → String
  | single => "WhileMode"
  | first _ => "FirstMode"
  | random _ => "RandomMode"

/-- The text that shows a mode in a message. -/
def display (m : Mode) : String :=
  match m with
  | single => m.typeName ++ "()"
  | first limit => m.typeName ++ "(limit=" ++ limit.display ++ ")"
  | random limit => m.typeName ++ "(limit=" ++ limit.display ++ ")"

/-- What modes are ordered by: the rank of the kind, then the limit. -/
def sortKey (m : Mode) : Nat × Nat :=
  match m with
  | single => (m.kind.rank, 0)
  | first limit => (m.kind.rank, limit.value)
  | random limit => (m.kind.rank, limit.value)

/-- Modes compare as their keys do. -/
def order (a b : Mode) : Ordering :=
  (compare a.sortKey.1 b.sortKey.1).then (compare a.sortKey.2 b.sortKey.2)

end Mode

end IndexScan
