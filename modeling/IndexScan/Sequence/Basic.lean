import IndexScan.Draw.Source
import IndexScan.Mode
import IndexScan.Text.Quoted

/-!
One-shot sequences of the child indices that a mode probes. A sequence counts what it has produced,
not what it has emitted, so a random one ends after exactly as many indices as its mode counts. It
stays ended once it has ended.
-/

namespace IndexScan

/-- A sequence under way. -/
structure Sequence where
  mode : Mode
  produced : Nat
  produced_le : produced ≤ mode.count
  deriving Repr

namespace Sequence

/-- The outcome of asking a sequence for its next index. -/
inductive Step where
  | emitted (index : Nat)
  | ended
  | failed (error : DrawError)
  deriving DecidableEq, Repr

/-- The sequence of a mode before its first index. -/
def start (mode : Mode) : Sequence :=
  ⟨mode, 0, Nat.zero_le _⟩

/-- The number of indices still to come. -/
def remaining (s : Sequence) : Nat :=
  s.mode.count - s.produced

/-- Whether no index is still to come. -/
def isExhausted (s : Sequence) : Bool :=
  s.mode.count ≤ s.produced

/-- Asks for the next index. Only a random sequence with an index still to come draws on the
source, and a failed draw leaves it where it was. -/
def next (s : Sequence) (source : Source) : Step × Sequence × Source :=
  if h : s.produced < s.mode.count then
    let onward : Sequence := ⟨s.mode, s.produced + 1, h⟩
    match s.mode with
    | .random _ =>
      match source.drawWord with
      | (.ok index, source) => (.emitted index, onward, source)
      | (.error e, source) => (.failed e, s, source)
    | _ => (.emitted s.produced, onward, source)
  else (.ended, s, source)

/-- Indices taken in a row, and the failure that ended the row, if one did. -/
structure Taken where
  indices : List Nat
  failure? : Option DrawError
  deriving DecidableEq, Repr

/-- Takes indices until there are `n`, the sequence ends, or a draw fails. -/
def take : Nat → Sequence → Source → Taken × Sequence × Source
  | 0, s, source => (⟨[], none⟩, s, source)
  | n + 1, s, source =>
    match s.next source with
    | (.emitted index, s, source) =>
      let (taken, s, source) := take n s source
      (⟨index :: taken.indices, taken.failure?⟩, s, source)
    | (.ended, s, source) => (⟨[], none⟩, s, source)
    | (.failed e, s, source) => (⟨[], some e⟩, s, source)

/-- Takes all indices that are still to come. -/
def drain (s : Sequence) (source : Source) : Taken × Sequence × Source :=
  s.take s.remaining source

/-- One more than the largest number of indices that can be asked for at once. -/
def takeBound : Nat := 0x8000000000000000

/-- What is said of a request for a number of indices outside its range. -/
def takeRefusal : String :=
  "Stop argument for islice() must be None or an integer: 0 <= x <= sys.maxsize."

/-- The text that shows a sequence in a message. -/
def display (s : Sequence) : String :=
  "IndexSequence(mode=" ++ Quoted.text s.mode.directive ++ ", produced=" ++ Decimal.text s.produced
    ++ ", remaining=" ++ Decimal.text s.remaining ++ ")"

end Sequence

end IndexScan
