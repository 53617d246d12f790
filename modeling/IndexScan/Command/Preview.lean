import IndexScan.Command.Describe
import IndexScan.Folder
import IndexScan.Profile.File
import IndexScan.Scan

/-!
Previews: the first indices of a mode, and the first indices that each branch of a profile probes. All
branches of a profile draw on one source, in their order.
-/

namespace IndexScan.Command

/-- The source of random words: seeded if there is a seed, else the entropy of the system. -/
def sourceOf (entropy : Source) : Option Int → Source
  | some seed => .seeded (.ofSeed seed)
  | none => entropy

/-- The first indices of a mode, `limit` at most, the sequence behind them, and the source. -/
def firstIndices (mode : Mode) (limit : Nat) (source : Source) :
    Except Failure (List Nat × Sequence × Source) :=
  if limit < Sequence.takeBound then
    let (taken, s, source) := (Sequence.start mode).take limit source
    match taken.failure? with
    | some e => .error (.draw e)
    | none => .ok (taken.indices, s, source)
  else .error .limit

/-! ### A mode -/

/-- The record of a seed that plays no part. -/
def unusedSeed (mode : Mode) : Option Int → List LogRecord
  | some seed =>
    if mode.isRandom then []
    else [⟨.info, .indexes, "Ignoring seed " ++ Decimal.text seed ++ ": mode " ++ mode.directive
      ++ " is not random"⟩]
  | none => []

/-- The lines that list indices, with the sequence behind them. -/
def indexLines (mode : Mode) (indices : List Nat) (s : Sequence) : List String :=
  let header := "[bold]" ++ mode.directive ++ "[/bold]: " ++ Decimal.text mode.count ++ " index(es)"
  let more := "[dim]… " ++ Decimal.text s.remaining ++ " more not shown (raise --limit)[/dim]"
  header :: indices.map (fun i => Decimal.text (i : Nat)) ++ (if s.isExhausted then [] else [more])

/-- Says which indices come first. -/
def sayIndices (mode : Mode) (indices : List Nat) (s : Sequence) (r : Report) : Report.Said :=
  let r := r.setData "mode" (modeDocument mode)
  let r := r.setData "indexes" (.arr (indices.map fun i => .int (i : Nat)))
  let r := r.setData "truncated" (.bool !s.isExhausted)
  r.texts (indexLines mode indices s)

/-- Lists the first indices of the mode that a directive denotes, or that the settings give. -/
def listIndices (isJson : Bool) (settings : Settings) (entropy : Source) (directive? : Option String)
    (seed? : Option Int) (limit : Nat) : Outcome :=
  let r := Report.start isJson
  match Directive.parse (directive?.getD settings.mode) with
  | .error e => .ofReport (reportFault r e)
  | .ok mode =>
    let seed? := seed?.or settings.seed
    let outcome : Outcome := match firstIndices mode limit (sourceOf entropy seed?) with
      | .error failure => .broken failure
      | .ok (indices, s, _) => .ofReport (sayIndices mode indices s r)
    outcome.logging (unusedSeed mode seed?)

/-! ### A profile -/

/-- The first indices of each branch, `limit` at most. A branch that comes again keeps its place and
gets its last indices. -/
def planFrom (mode : Mode) (limit : Nat) (plan : List (Int × List Nat)) :
    List Int → Source → Except Failure (List (Int × List Nat))
  | [], _ => .ok plan
  | branch :: rest, source => do
    let (indices, _, source) ← firstIndices mode limit source
    planFrom mode limit (Scan.insertBranch branch indices plan) rest source

/-- The first indices of each branch, no branch listed before. -/
def plan (mode : Mode) (limit : Nat) (branches : List Int) (source : Source) :
    Except Failure (List (Int × List Nat)) :=
  planFrom mode limit [] branches source

/-- A plan as a document. -/
def planDocument (plan : List (Int × List Nat)) : Json :=
  .obj (plan.map fun (branch, indices) =>
    (Decimal.text branch, .arr (indices.map fun i => .int (i : Nat))))

/-- The rows of a plan. -/
def planRows (plan : List (Int × List Nat)) : List (List String) :=
  plan.map fun (branch, indices) =>
    [Decimal.text branch, ", ".intercalate (indices.map fun i => Decimal.text (i : Nat))]

/-- Says what a profile probes. -/
def sayPlan (profile : Profile) (mode : Mode) (plan : List (Int × List Nat)) (r : Report) :
    Report.Said :=
  let r := r.setData "profile" (.str profile.name)
  let r := r.setData "mode" (modeDocument mode)
  let r := r.setData "branches" (planDocument plan)
  if r.isJson then r.silent
  else
    let header := "[bold]" ++ profile.name ++ "[/bold] (" ++ mode.directive ++ ", "
      ++ Decimal.text mode.count ++ " per branch)"
    (r.text header).andThen fun r =>
      r.table "Probe Plan" ["Branch", "Indexes"] (planRows plan) none

/-- The outcome of a profile that cannot be loaded. -/
def unloadable (r : Report) (path : String) (e : Profile.LoadError) : Outcome :=
  match e with
  | .document (.scalar bad) =>
    if bad.isFaultOfDocument then invalid else .broken (.scalar bad)
  | .document .tooDeep => .broken .profile
  | .file e =>
    .ofReport (r.error ("Cannot read profile " ++ path ++ ": " ++ e.message) none none
      Report.unreadableCode)
  | _ => invalid
where
  /-- The outcome of a profile that is no profile. -/
  invalid : Outcome :=
    .ofReport (r.error ("Invalid profile " ++ path ++ ": " ++ e.message path) (some "profile") none
      Report.invalidCode)

/-- Lists the first indices that each branch of a profile probes. -/
def previewProfile (isJson : Bool) (settings : Settings × List LogRecord) (entropy : Source)
    (profile : Profile) (seed? : Option Int) (limit : Nat) : Outcome :=
  let r := Report.start isJson
  match profile.resolverMode with
  | .error e => .ofReport (reportFault r e)
  | .ok mode =>
    let (seed?, log) := match seed? with
      | some seed => (some seed, [])
      | none => (settings.1.seed, settings.2)
    let outcome : Outcome := match plan mode limit profile.branches (sourceOf entropy seed?) with
      | .error failure => .broken failure
      | .ok plan => .ofReport (sayPlan profile mode plan r)
    outcome.logging log

/-- Lists the first indices that each branch of the profile at a path probes. Settings are consulted
only for a seed that is not given. -/
def previewFile (isJson : Bool) (settings : Settings × List LogRecord) (entropy : Source)
    (folder : Folder) (path : String) (seed? : Option Int) (limit : Nat) : Outcome :=
  let r := Report.start isJson
  let path := Path.ofText path
  match folder.find path with
  | .error e => .broken (.file e)
  | .ok .absent =>
    .ofReport (r.error ("Profile not found: " ++ path.text) none none Report.unreadableCode)
  | .ok file =>
    match Profile.load path.text file with
    | .error e => unloadable r path.text e
    | .ok profile => previewProfile isJson settings entropy profile seed? limit

end IndexScan.Command
