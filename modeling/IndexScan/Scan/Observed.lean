import IndexScan.Scan

/-!
Scans as the caller sees them. The caller supplies the functions that derive and that accept, which
may keep a state from one call to the next, and sets the level of the log. Everything that a scan
asks for, a word of the source, an artifact or a verdict, and everything that it logs, is an event,
and a scan is told by its events in their order.
-/

namespace IndexScan

/-- What the caller of a scan supplies. Both functions may fail with an `ε`, and may keep a state
`σ` from one call to the next. What is accepted is what the caller's answer is true for. -/
structure Callbacks (ε σ α : Type) where
  derive : Nat → σ → Except ε α × σ
  accepts : α → σ → Except ε Bool × σ
  stopOnFirst : Bool

deriving instance DecidableEq for ScanFailure

/-- A hit: an index and its artifact. -/
structure Hit (α : Type) where
  index : Nat
  artifact : α
  deriving DecidableEq, Repr

/-- What a pass over a mode has found so far. -/
structure Tally (α : Type) where
  mode : Mode
  hits : List (Hit α)
  probed : Nat
  deriving DecidableEq, Repr

namespace Tally

variable {α : Type}

/-- Whether there was a hit. -/
def found (t : Tally α) : Bool := !t.hits.isEmpty

/-- The indices of the hits. -/
def indexes (t : Tally α) : List Nat := t.hits.map (·.index)

/-- The record that ends a pass. -/
def record (t : Tally α) : LogRecord :=
  ⟨.info, .resolver, "Resolver mode " ++ t.mode.directive ++ " probed " ++ Decimal.text t.probed
    ++ " of " ++ Decimal.text t.mode.count ++ " indices, " ++ Decimal.text t.hits.length
    ++ " hit(s)"⟩

end Tally

namespace Scan

/-- What a scan does: the calls that it makes, each with the answer or the failure, and the records
that its log lets through. A call to derive goes by a name `κ`. -/
inductive Event (ε κ α : Type) where
  | drew (answer : Except DrawError Nat)
  | derived (call : κ) (answer : Except ε α)
  | tested (artifact : α) (answer : Except ε Bool)
  | logged (record : LogRecord)

namespace Event

variable {ε κ α : Type}

/-- The name of a call to derive. -/
def call? : Event ε κ α → Option κ
  | derived call _ => some call
  | _ => none

/-- The artifact of a call to test. -/
def artifact? : Event ε κ α → Option α
  | tested artifact _ => some artifact
  | _ => none

/-- What a draw on the source answered. -/
def draw? : Event ε κ α → Option (Except DrawError Nat)
  | drew answer => some answer
  | _ => none

/-- The record that was logged. -/
def record? : Event ε κ α → Option LogRecord
  | logged record => some record
  | _ => none

/-- The failure of a call. -/
def failure? : Event ε κ α → Option (ScanFailure ε)
  | drew (.error e) => some (.draw e)
  | derived _ (.error e) => some (.step e)
  | tested _ (.error e) => some (.step e)
  | _ => none

/-- The event with the call to derive under another name. -/
def rename {κ' : Type} (name : κ → κ') : Event ε κ α → Event ε κ' α
  | drew answer => drew answer
  | derived call answer => derived (name call) answer
  | tested artifact answer => tested artifact answer
  | logged record => logged record

end Event

/-- What a scan acts on: the source, the caller's state, and the events so far. -/
structure World (ε σ κ α : Type) where
  source : Source
  state : σ
  events : List (Event ε κ α)

/-- A scan or a part of it. A failure ends it where it stands. -/
abbrev Act (ε σ κ α : Type) := ExceptT (ScanFailure ε) (StateM (World ε σ κ α))

namespace Act

variable {ε σ κ α β : Type}

/-- Carries out an act in a world: its outcome, and the world behind it. -/
def play (act : Act ε σ κ α β) (w : World ε σ κ α) :
    Except (ScanFailure ε) β × World ε σ κ α :=
  act.run.run w

/-- Adds an event. -/
def tell (event : Event ε κ α) : Act ε σ κ α Unit :=
  modify fun w => { w with events := w.events ++ [event] }

/-- Logs a record at the level with the number `threshold`. -/
def log (threshold : Nat) (record : LogRecord) : Act ε σ κ α Unit := do
  if threshold ≤ record.level.weight then
    tell (.logged record)

/-- Asks a sequence for its next index; none at its end. Only a random sequence draws. -/
def ask (s : Sequence) : Act ε σ κ α (Option (Nat × Sequence)) := do
  let w ← get
  let (step, s', source) := s.next w.source
  set { w with source }
  match step with
  | .ended => return none
  | .emitted index =>
    if s.mode.isRandom then
      tell (.drew (.ok index))
    return some (index, s')
  | .failed e =>
    tell (.drew (.error e))
    throw (.draw e)

/-- Calls a function of the caller. -/
def call (f : σ → Except ε β × σ) (event : Except ε β → Event ε κ α) : Act ε σ κ α β := do
  let w ← get
  let (answer, state) := f w.state
  set { w with state }
  tell (event answer)
  match answer with
  | .ok b => return b
  | .error e => throw (.step e)

/-- Probes the indices of a sequence, `n` at most. -/
def probe (c : Callbacks ε σ α) (threshold : Nat) (name : Nat → κ) :
    Nat → Sequence → Tally α → Act ε σ κ α (Tally α)
  | 0, _, tally => return tally
  | n + 1, s, tally => do
    match ← ask s with
    | none => return tally
    | some (index, s) =>
      let artifact ← call (c.derive index) (.derived (name index))
      let tally := { tally with probed := tally.probed + 1 }
      let isHit ← call (c.accepts artifact) (.tested artifact)
      log threshold (probeRecord s.mode ⟨index, artifact, isHit⟩)
      if isHit then
        let tally := { tally with hits := tally.hits ++ [⟨index, artifact⟩] }
        if c.stopOnFirst then return tally
        else probe c threshold name n s tally
      else probe c threshold name n s tally

/-- One pass over a mode. -/
def resolve (c : Callbacks ε σ α) (threshold : Nat) (name : Nat → κ) (mode : Mode) :
    Act ε σ κ α (Tally α) := do
  let s := Sequence.start mode
  let tally ← probe c threshold name s.remaining s ⟨mode, [], 0⟩
  log threshold tally.record
  return tally

/-- One pass for every branch, in order. A branch that comes again keeps its place and gets the
result of its last pass. -/
def resolveMany (c : Int → Callbacks ε σ α) (threshold : Nat) (mode : Mode) :
    List Int → List (Int × Tally α) → Act ε σ (Int × Nat) α (List (Int × Tally α))
  | [], results => return results
  | branch :: rest, results => do
    log threshold (branchRecord mode branch)
    let tally ← resolve (c branch) threshold (fun index => (branch, index)) mode
    resolveMany c threshold mode rest (insertBranch branch tally results)

end Act

/-- What is seen of a scan: its outcome `β` or failure, its events, and the source and the caller's
state as it left them. -/
structure Observed (ε σ κ α β : Type) where
  outcome : Except (ScanFailure ε) β
  events : List (Event ε κ α)
  source : Source
  state : σ

namespace Observed

variable {ε σ κ α β : Type}

/-- The calls to derive, in order. -/
def derived (run : Observed ε σ κ α β) : List κ := run.events.filterMap Event.call?

/-- The artifacts of the calls to test, in order. -/
def tested (run : Observed ε σ κ α β) : List α := run.events.filterMap Event.artifact?

/-- The answers of the draws on the source, in order. -/
def draws (run : Observed ε σ κ α β) : List (Except DrawError Nat) :=
  run.events.filterMap Event.draw?

/-- The records logged, in order. -/
def log (run : Observed ε σ κ α β) : List LogRecord := run.events.filterMap Event.record?

end Observed

variable {ε σ κ α β : Type}

/-- Carries out a scan or a part of it, with no events before it. -/
def Act.observe (act : Act ε σ κ α β) (source : Source) (state : σ) : Observed ε σ κ α β :=
  let (outcome, w) := act.play ⟨source, state, []⟩
  ⟨outcome, w.events, w.source, w.state⟩

/-- One pass over a mode, logged at a level given by its number. -/
def observe (c : Callbacks ε σ α) (threshold : Nat) (mode : Mode) (source : Source) (state : σ) :
    Observed ε σ Nat α (Tally α) :=
  (Act.resolve c threshold id mode).observe source state

/-- The passes for all branches, logged at a level given by its number. -/
def observeBranches (c : Int → Callbacks ε σ α) (threshold : Nat) (mode : Mode)
    (branches : List Int) (source : Source) (state : σ) :
    Observed ε σ (Int × Nat) α (List (Int × Tally α)) :=
  (Act.resolveMany c threshold mode branches []).observe source state

end Scan

end IndexScan
