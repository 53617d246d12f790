import IndexScan.Draw.Twister
import IndexScan.Index

/-!
Sources of random words. A source is seeded, draws on the entropy of the system, or hands out
scripted values; a scripted source may hold values of any size and may run out.
-/

namespace IndexScan

/-- A source of random words. -/
inductive Source where
  | seeded (generator : Twister)
  /-- The stream of the system's entropy and how far it has been read. -/
  | entropy (stream : Nat → UInt32) (position : Nat)
  /-- The values still to be handed out, and how many have been. -/
  | scripted (values : List Int) (calls : Nat)

/-- Why a source gives no usable word. -/
inductive DrawError where
  /-- A scripted source has run out. -/
  | exhausted
  /-- The source gave a value that is no 32-bit word. -/
  | outOfRange (value : Int)
  deriving DecidableEq, Repr

/-- The wording of a draw error. -/
def DrawError.message : DrawError → String
  | exhausted => "no more values"
  | outOfRange value =>
    match Decimal.write? value with
    | some shown => "Random source returned out-of-range value " ++ shown
    | none => Decimal.tooLongToWrite

namespace Source

/-- The next value of a source and the source after it; none if it has run out. -/
def draw? : Source → Option (Int × Source)
  | seeded g =>
    let (word, g) := g.next
    some (word.toNat, seeded g)
  | entropy stream position => some ((stream position).toNat, entropy stream (position + 1))
  | scripted (v :: vs) calls => some (v, scripted vs (calls + 1))
  | scripted [] _ => none

/-- The number of values that a scripted source has handed out. -/
def calls : Source → Nat
  | scripted _ calls => calls
  | _ => 0

/-- Draws a value that must be a 32-bit word. A value outside that range is used up. -/
def drawWord (s : Source) : Except DrawError Nat × Source :=
  match s.draw? with
  | none => (.error .exhausted, s)
  | some (.ofNat n, s) => (if n ≤ maxWord then .ok n else .error (.outOfRange n), s)
  | some (.negSucc n, s) => (.error (.outOfRange (.negSucc n)), s)

end Source

end IndexScan
