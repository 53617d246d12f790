import IndexScan.Log
import IndexScan.Sequence.Basic

/-!
Scans: every index of a mode is turned into an artifact, and an artifact that is accepted is a hit.
A scan keeps a record of what it did, also when a draw, a derivation or a test fails and ends it.
-/

namespace IndexScan

/-- What a scan does at each index: how it derives the artifact, which artifacts it accepts, and
whether the first hit ends it. Both steps may fail with an `ε`. -/
structure Probing (ε α : Type) where
  derive : Nat → Except ε α
  accepts : α → Except ε Bool
  stopOnFirst : Bool

/-- An index with its artifact, and whether it was accepted. -/
structure Probe (α : Type) where
  index : Nat
  artifact : α
  isHit : Bool
  deriving DecidableEq, Repr

/-- Why a scan failed. -/
inductive ScanFailure (ε : Type) where
  | draw (error : DrawError)
  | step (error : ε)

/-- The outcome of one pass over a mode: its probes in order. -/
structure ScanResult (α : Type) where
  mode : Mode
  probes : List (Probe α)

namespace ScanResult

variable {α : Type}

/-- The number of indices probed. -/
def probed (r : ScanResult α) : Nat := r.probes.length

/-- The probes that were hits. -/
def hits (r : ScanResult α) : List (Probe α) := r.probes.filter (·.isHit)

/-- Whether there was a hit. -/
def found (r : ScanResult α) : Bool := !r.hits.isEmpty

/-- The indices of the hits. -/
def indexes (r : ScanResult α) : List Nat := r.hits.map (·.index)

end ScanResult

/-- What a scan did: its outcome `β` or failure, the calls `κ` made to derive, the log, and the
source as the scan left it. -/
structure Scanned (ε κ β : Type) where
  outcome : Except (ScanFailure ε) β
  derived : List κ
  log : List LogRecord
  source : Source

namespace Scan

variable {ε α : Type}

/-- The record of one probe. -/
def probeRecord (mode : Mode) (p : Probe α) : LogRecord :=
  ⟨.debug, .resolver, "[" ++ mode.directive ++ "] index " ++ Decimal.text p.index ++ ": "
    ++ (if p.isHit then "match" else "no match")⟩

/-- The record that ends a pass. -/
def summaryRecord (r : ScanResult α) : LogRecord :=
  ⟨.info, .resolver, "Resolver mode " ++ r.mode.directive ++ " probed " ++ Decimal.text r.probed
    ++ " of " ++ Decimal.text r.mode.count ++ " indices, " ++ Decimal.text r.hits.length
    ++ " hit(s)"⟩

/-- The record that begins the pass over a branch. -/
def branchRecord (mode : Mode) (branch : Int) : LogRecord :=
  ⟨.debug, .resolver, "Scanning branch " ++ Decimal.text branch ++ " with mode "
    ++ mode.directive⟩

/-- Probes the indices of a sequence, `n` at most. -/
def probe (p : Probing ε α) : Nat → Sequence → Source → Scanned ε Nat (List (Probe α))
  | 0, _, source => ⟨.ok [], [], [], source⟩
  | n + 1, s, source =>
    match s.next source with
    | (.ended, _, source) => ⟨.ok [], [], [], source⟩
    | (.failed e, _, source) => ⟨.error (.draw e), [], [], source⟩
    | (.emitted index, s, source) =>
      match p.derive index with
      | .error e => ⟨.error (.step e), [index], [], source⟩
      | .ok artifact =>
        match p.accepts artifact with
        | .error e => ⟨.error (.step e), [index], [], source⟩
        | .ok isHit =>
          let this : Probe α := ⟨index, artifact, isHit⟩
          let record := probeRecord s.mode this
          if isHit && p.stopOnFirst then ⟨.ok [this], [index], [record], source⟩
          else
            let later := probe p n s source
            ⟨later.outcome.map (this :: ·), index :: later.derived, record :: later.log,
              later.source⟩

/-- One pass over a mode. -/
def resolve (p : Probing ε α) (mode : Mode) (source : Source) :
    Scanned ε Nat (ScanResult α) :=
  let s := Sequence.start mode
  let pass := probe p s.remaining s source
  match pass.outcome with
  | .error e => ⟨.error e, pass.derived, pass.log, pass.source⟩
  | .ok probes =>
    let result : ScanResult α := ⟨mode, probes⟩
    ⟨.ok result, pass.derived, pass.log ++ [summaryRecord result], pass.source⟩

/-- The pairs with the result of a branch replaced, or added at the end. -/
def insertBranch {β : Type} (branch : Int) (result : β) : List (Int × β) → List (Int × β)
  | [] => [(branch, result)]
  | (b, r) :: rest =>
    if b = branch then (branch, result) :: rest else (b, r) :: insertBranch branch result rest

/-- One pass for every branch, in order, on the source as the pass before left it. A branch that
comes again keeps its place and gets the result of its last pass. -/
def resolveMany (p : Int → Probing ε α) (mode : Mode) (results : List (Int × ScanResult α)) :
    List Int → Source → Scanned ε (Int × Nat) (List (Int × ScanResult α))
  | [], source => ⟨.ok results, [], [], source⟩
  | branch :: rest, source =>
    let pass := resolve (p branch) mode source
    let derived := pass.derived.map fun index => (branch, index)
    let log := branchRecord mode branch :: pass.log
    match pass.outcome with
    | .error e => ⟨.error e, derived, log, pass.source⟩
    | .ok result =>
      let later := resolveMany p mode (insertBranch branch result results) rest pass.source
      ⟨later.outcome, derived ++ later.derived, log ++ later.log, later.source⟩

/-- The passes for all branches, none done before. -/
def resolveBranches (p : Int → Probing ε α) (mode : Mode) (branches : List Int)
    (source : Source) : Scanned ε (Int × Nat) (List (Int × ScanResult α)) :=
  resolveMany p mode [] branches source

end Scan

end IndexScan
