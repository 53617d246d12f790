import IndexScan.Proofs.Command.Machines
import IndexScan.Proofs.Command.Previewing
import IndexScan.Proofs.Report.Collected

/-!
Documents that tell the truth. What a task has to tell is an account (`Tells`): the errors or what
was asked for, and the exit code that goes with it. A run for a program prints one document, which
is read back as its account and says how the run ended, exactly when its limit can be asked for at
once and the settings that it consults are not nested too deep for the stack; otherwise it breaks
off and prints nothing (`run_tells`).

Each kind of account is shown to be plain and to be what the report holds in the end; the rest is
the same for all of them (`told_account`).
-/

namespace IndexScan.Command

/-! ### Accounts -/

/-- What there is to tell of a task. -/
structure Account where
  errors : List Json
  warnings : List Json
  /-- What was asked for, in its order. -/
  payload : List (String × Json)
  exitCode : Int

namespace Account

def status (a : Account) : String :=
  if a.errors.isEmpty then "success" else "error"

/-- The members of an account, the exit code apart. -/
def members (a : Account) : List (String × Json) :=
  [("status", .str a.status), ("errors", .arr a.errors), ("warnings", .arr a.warnings)] ++ a.payload

/-- The document that tells of an account. -/
def document (a : Account) : Json :=
  .obj (a.members ++ [("exit_code", .int a.exitCode)])

/-- The report that has collected an account. -/
def report (a : Account) : Report :=
  ⟨true, a.members, a.exitCode⟩

/-- The account of a task that failed. -/
def ofError (message : String) (category? suggestion? : Option String) (exitCode : Int) : Account :=
  ⟨[Report.messageItem message category? suggestion?], [], [], exitCode⟩

/-- The account of a directive that denotes no mode. -/
def ofFault (e : DirectiveError) : Account :=
  ofError e.message (some e.category.label) e.category.suggestion? Report.invalidCode

/-- The warning of a mode that probes nothing. -/
def emptyWarnings (mode : Mode) : List Json :=
  if mode.count = 0 then
    [Report.messageItem "Count is 0: this mode scans no indices" (some "zero_count")
      (some "Use first<N> or random<N> with N > 0 to probe indices")]
  else []

/-- A mode as a program is told of it. -/
def modeObject (mode : Mode) : Json :=
  let kind : String := match mode with
    | .single => "while"
    | .first _ => "first"
    | .random _ => "random"
  .obj [("directive", .str mode.directive), ("kind", .str kind), ("count", .int mode.count),
    ("range", .arr [.int 0, .int mode.count]), ("is_while", .bool (kind = "while")),
    ("is_random", .bool (kind = "random"))]

/-- A property of a mode as a program is told of it. -/
def propertyObject (name value : String) : Json :=
  .obj [("Property", .str name), ("Value", .str value)]

/-- The properties of a mode, each as an object. -/
def propertyItems (mode : Mode) : List Json :=
  [propertyObject "kind" mode.kind.word, propertyObject "count" (Decimal.text mode.count),
    propertyObject "range" ("[0, " ++ Decimal.text mode.count ++ ")"),
    propertyObject "random" (if mode.isRandom then "yes" else "no")]

/-- The account of a directive that denotes a mode. -/
def ofMode (mode : Mode) : Account :=
  ⟨[], emptyWarnings mode,
    [("mode", modeObject mode), ("properties", .arr (propertyItems mode))],
    Report.successCode⟩

/-- The account of the first indices of a mode. -/
def ofIndices (mode : Mode) (indices : List Nat) (truncated : Bool) : Account :=
  ⟨[], [],
    [("mode", modeObject mode), ("indexes", .arr (indices.map fun i => .int (i : Nat))),
      ("truncated", .bool truncated)],
    Report.successCode⟩

/-- The account of what a profile probes. -/
def ofPlan (profile : Profile) (mode : Mode) (plan : List (Int × List Nat)) : Account :=
  ⟨[], [],
    [("profile", .str profile.name), ("mode", modeObject mode),
      ("branches", .obj (plan.map fun e =>
        (Decimal.text e.1, .arr (e.2.map fun i => .int (i : Nat)))))],
    Report.successCode⟩

end Account

/-- A document says how a run ended: it holds the exit code, and it holds errors and the status of
failure exactly if the exit code is not that of success. -/
structure Truthful (document : Json) (e : Ending) : Prop where
  code : document.get? "exit_code" = some (.int e.exitCode)
  status : document.get? "status" =
    some (.str (if e.exitCode = Report.successCode then "success" else "error"))
  errors : ∃ items, document.get? "errors" = some (.arr items) ∧
    (items = [] ↔ e.exitCode = Report.successCode)

/-- A run ended, and all that it printed is one document, which is read back as an account and is
true of the run. -/
structure Ending.Tells (e : Ending) (a : Account) : Prop where
  unbroken : e.failure? = none
  code : e.exitCode = a.exitCode
  printed : document? e.printed = some a.document
  truthful : Truthful a.document e

/-- A run tells an account, whatever the terminal. -/
def Told (o : Outcome) (a : Account) : Prop :=
  ∀ t, (o.on t).Tells a

namespace Told

variable {o : Outcome} {a : Account}

theorem unbroken (told : Told o a) : o.failure? = none := (told .ample).unbroken

theorem code (told : Told o a) : o.exitCode = a.exitCode := (told .ample).code

theorem printed (told : Told o a) : document? o.printed = some a.document := (told .ample).printed

/-- A logged run tells the same. -/
theorem withLog (told : Told o a) (log : List LogRecord) : Told { o with log := log } a := by
  intro t
  obtain ⟨unbroken, code, printed, truthful⟩ := told t
  exact ⟨unbroken, code, printed, truthful.code, truthful.status, truthful.errors⟩

end Told

/-! ### Plain accounts -/

/-- An account that can be printed, whose exit code tells whether there are errors. -/
structure Account.Sound (a : Account) : Prop where
  plain : Json.isPlain (some Decimal.limit) a.document = true
  matched : a.errors = [] ↔ a.exitCode = Report.successCode

/-- The exit code is a member of its own. -/
theorem Account.Sound.fresh {a : Account} (sound : a.Sound) :
    "exit_code" ∉ a.members.map (·.1) := by
  have plain := sound.plain
  rw [document, Json.isPlain, Bool.and_eq_true, decide_eq_true_eq, List.map_append,
    List.nodup_append] at plain
  exact fun mem => plain.1.2.2 _ mem _ (by simp) rfl

/-- A report that has collected an account tells it. -/
theorem told_account {a : Account} (sound : a.Sound) : Told (.ofReport a.report.silent) a := by
  have inserted : Json.insert "exit_code" (.int a.exitCode) a.members =
      a.members ++ [("exit_code", .int a.exitCode)] :=
    Json.insert_of_not_mem sound.fresh
  have plain : Json.isPlain (some Decimal.limit) (.obj (Json.insert "exit_code"
      (.int a.report.exitCode) a.report.data)) = true := by
    rw [Account.report, inserted]
    exact sound.plain
  obtain ⟨text, printed, ends⟩ := ofReport_silent (r := a.report) rfl plain
  have status : a.status = if a.exitCode = Report.successCode then "success" else "error" := by
    simp only [Account.status, List.isEmpty_iff, sound.matched]
  intro t
  rw [ends t]
  exact {
    unbroken := rfl
    code := rfl
    printed := printed.trans (congrArg _ (congrArg _ inserted))
    truthful := {
      code := by
        rw [Account.document, ← inserted]
        exact Json.lookup?_insert_self
      status := congrArg (fun status => some (Json.str status)) status
      errors := ⟨a.errors, rfl, sound.matched⟩ } }

/-- Exit codes are short. -/
theorem admits_exitCode {code : Int}
    (known : code ∈ [Report.successCode, Report.invalidCode, Report.unreadableCode]) :
    Json.admits (some Decimal.limit) code = true := by
  simp only [List.mem_cons, List.not_mem_nil, or_false] at known
  rcases known with rfl | rfl | rfl
  · exact admits_word (n := 0) (by decide)
  · exact admits_word (n := 1) (by decide)
  · exact admits_word (n := 3) (by decide)

namespace Account

theorem ofError_sound (message : String) (category? suggestion? : Option String) {exitCode : Int}
    (failed : exitCode ∈ [Report.invalidCode, Report.unreadableCode]) :
    (ofError message category? suggestion? exitCode).Sound where
  plain := by
    have item := Report.messageItem_isPlain message category? suggestion?
    have code := admits_exitCode (List.mem_cons_of_mem Report.successCode failed)
    simp [ofError, document, members, Json.isPlain, Json.membersArePlain, Json.arePlain, item, code]
  matched := by
    have other : exitCode ≠ Report.successCode := by
      rintro rfl
      exact absurd failed (by decide)
    simp [ofError, other]

theorem emptyWarnings_arePlain (mode : Mode) :
    Json.arePlain (some Decimal.limit) (emptyWarnings mode) = true := by
  unfold emptyWarnings
  split_ifs
  · simp [Json.arePlain, Report.messageItem_isPlain]
  · rfl

/-- Modes are described as programs are told of them. -/
theorem modeDocument_eq (mode : Mode) : modeDocument mode = modeObject mode := by
  cases mode <;> rfl

theorem modeObject_isPlain (mode : Mode) :
    Json.isPlain (some Decimal.limit) (modeObject mode) = true :=
  modeDocument_eq mode ▸ modeDocument_isPlain mode

theorem propertyItems_arePlain (mode : Mode) :
    Json.arePlain (some Decimal.limit) (propertyItems mode) = true := by
  simp [propertyItems, propertyObject, Json.arePlain, Json.isPlain, Json.membersArePlain]

theorem ofMode_sound (mode : Mode) : (ofMode mode).Sound where
  plain := by
    have code : Json.admits (some Decimal.limit) Report.successCode = true :=
      admits_exitCode (by decide)
    simp [ofMode, document, members, Json.isPlain, Json.membersArePlain, Json.arePlain,
      modeObject_isPlain, emptyWarnings_arePlain, propertyItems_arePlain, code]
  matched := by simp [ofMode]

theorem ofIndices_sound (mode : Mode) {indices : List Nat} (words : ∀ i ∈ indices, i < 2 ^ 32)
    (truncated : Bool) : (ofIndices mode indices truncated).Sound where
  plain := by
    have code : Json.admits (some Decimal.limit) Report.successCode = true :=
      admits_exitCode (by decide)
    simp [ofIndices, document, members, Json.isPlain, Json.membersArePlain, Json.arePlain,
      modeObject_isPlain, arePlain_words words, code]
  matched := by simp [ofIndices]

theorem ofPlan_sound (profile : Profile) (mode : Mode) {plan : List (Int × List Nat)}
    (listable : Listable plan) : (ofPlan profile mode plan).Sound where
  plain := by
    rw [ofPlan, ← modeDocument_eq]
    exact previewDocument_isPlain listable.distinct listable.words
  matched := by simp [ofPlan]

end Account

/-! ### What the tasks say -/

theorem error_start (message : String) (category? suggestion? : Option String) (exitCode : Int) :
    (Report.start true).error message category? suggestion? exitCode =
      (Account.ofError message category? suggestion? exitCode).report.silent := by
  rfl

theorem reportFault_start (e : DirectiveError) :
    reportFault (.start true) e = (Account.ofFault e).report.silent :=
  error_start _ _ _ _

theorem sayMode_start {directive : String} {mode : Mode}
    (parse : Directive.parse directive = .ok mode) :
    sayMode directive (.start true) = (Account.ofMode mode).report.silent := by
  rw [sayMode, parse, Account.ofMode, ← Account.modeDocument_eq]
  unfold warnIfEmpty Account.emptyWarnings
  by_cases empty : mode.count = 0
  · simp only [empty, if_true]
    rfl
  · simp only [empty, if_false]
    rfl

theorem sayIndices_start (mode : Mode) (indices : List Nat) (s : Sequence) :
    sayIndices mode indices s (.start true) =
      (Account.ofIndices mode indices !s.isExhausted).report.silent := by
  rw [Account.ofIndices, ← Account.modeDocument_eq]
  rfl

theorem sayPlan_start (profile : Profile) (mode : Mode) (plan : List (Int × List Nat)) :
    sayPlan profile mode plan (.start true) =
      (Account.ofPlan profile mode plan).report.silent := by
  rw [Account.ofPlan, ← Account.modeDocument_eq]
  rfl

/-- Indices that were listed are told. -/
theorem told_sayIndices {mode : Mode} {limit : Nat} {indices : List Nat} {s : Sequence}
    {source after : Source} (first : firstIndices mode limit source = .ok (indices, s, after)) :
    Told (.ofReport (sayIndices mode indices s (.start true)))
      (.ofIndices mode indices !s.isExhausted) := by
  rw [sayIndices_start]
  exact told_account (Account.ofIndices_sound mode (firstIndices_words first) _)

/-- A plan that was made is told. -/
theorem told_sayPlan (profile : Profile) {mode : Mode} {limit : Nat} {branches : List Int}
    {source : Source} {p : List (Int × List Nat)}
    (planned : plan mode limit branches source = .ok p) :
    Told (.ofReport (sayPlan profile mode p (.start true))) (.ofPlan profile mode p) := by
  rw [sayPlan_start]
  exact told_account (Account.ofPlan_sound profile mode (plan_listable planned))

/-- What there is to tell of a task in a workplace. -/
inductive Tells (w : Workplace) : Task → Account → Prop where
  | unknown {directive : String} {e : DirectiveError}
      (fault : Directive.parse directive = .error e) : Tells w (.parse directive) (.ofFault e)
  | described {directive : String} {mode : Mode} (parse : Directive.parse directive = .ok mode) :
      Tells w (.parse directive) (.ofMode mode)
  | unlisted {directive? : Option String} {seed? : Option Int} {limit : Nat} {e : DirectiveError}
      (fault : Directive.parse (directive?.getD w.settings.1.mode) = .error e) :
      Tells w (.indexes directive? seed? limit) (.ofFault e)
  | listed {directive? : Option String} {seed? : Option Int} {limit : Nat} {mode : Mode}
      {indices : List Nat} {s : Sequence} {after : Source}
      (parse : Directive.parse (directive?.getD w.settings.1.mode) = .ok mode)
      (first : firstIndices mode limit (sourceOf w.entropy (seed?.or w.settings.1.seed)) =
        .ok (indices, s, after)) :
      Tells w (.indexes directive? seed? limit) (.ofIndices mode indices !s.isExhausted)
  | planned {path : String} {seed? : Option Int} {limit : Nat} {profile : Profile} {mode : Mode}
      {p : List (Int × List Nat)} (loaded : w.profile? path = some profile)
      (resolves : profile.resolverMode = .ok mode)
      (plan : plan mode limit profile.branches
        (sourceOf w.entropy (seed?.or w.settings.1.seed)) = .ok p) :
      Tells w (.scan path seed? limit) (.ofPlan profile mode p)

/-- The tasks that there is something to tell of: descriptions, lists, and previews of what is a
profile when it is loaded with so much room. -/
def Workplace.Covers (w : Workplace) (room : Yaml.Room) : Task → Prop
  | .parse _ => True
  | .indexes .. => True
  | .scan path _ _ => ∃ profile, Holds room (w.folder.find (Path.ofText path)) (.ok profile)
  | .config .. => False

/-- The queries that consult the settings: lists, and previews without a seed. -/
def Task.Consults : Task → Prop
  | .indexes .. => True
  | .scan _ seed? _ => seed? = none
  | _ => False

/-- The tasks that ask for no more indices than can be asked for at once. Where a directive denotes no
mode, none are asked for. -/
def Workplace.Within (w : Workplace) : Task → Prop
  | .indexes directive? _ limit => limit < Sequence.takeBound ∨
      ¬ Directive.IsDirective (directive?.getD w.settings.1.mode)
  | .scan _ _ limit => limit < Sequence.takeBound
  | _ => True

theorem endless_sourceOf {entropy : Source} (endless : entropy.Endless) (seed? : Option Int) :
    (sourceOf entropy seed?).Endless := by
  cases seed? with
  | none => exact endless
  | some seed => exact Source.endless_seeded _

section

variable {w : Workplace} {task : Task}

/-- A list of indices follows what the source gives. -/
theorem listIndices_eq {settings : Settings} {directive? : Option String} {mode : Mode}
    (isJson : Bool) (entropy : Source) (seed? : Option Int) (limit : Nat)
    (parse : Directive.parse (directive?.getD settings.mode) = .ok mode) :
    ∃ log, listIndices isJson settings entropy directive? seed? limit =
      Outcome.logging log (match firstIndices mode limit
          (sourceOf entropy (seed?.or settings.seed)) with
        | .error failure => .broken failure
        | .ok (indices, s, _) => .ofReport (sayIndices mode indices s (.start isJson))) :=
  ⟨_, by simp only [listIndices, parse]; rfl⟩

theorem describe_tells (directive : String) :
    ∃ a, Tells w (.parse directive) a ∧ Told (describe true directive) a := by
  rw [describe]
  cases parse : Directive.parse directive with
  | error e =>
    have said : sayMode directive (.start true) = (Account.ofFault e).report.silent := by
      rw [sayMode, parse]
      exact reportFault_start e
    rw [said]
    exact ⟨_, .unknown parse, told_account (Account.ofError_sound _ _ _ (by decide))⟩
  | ok mode =>
    rw [sayMode_start parse]
    exact ⟨_, .described parse, told_account (Account.ofMode_sound mode)⟩

theorem listIndices_tells (endless : w.entropy.Endless) {directive? : Option String}
    {seed? : Option Int} {limit : Nat} (within : w.Within (.indexes directive? seed? limit)) :
    ∃ a, Tells w (.indexes directive? seed? limit) a ∧
      Told (listIndices true w.settings.1 w.entropy directive? seed? limit) a := by
  cases parse : Directive.parse (directive?.getD w.settings.1.mode) with
  | error e =>
    have said : listIndices true w.settings.1 w.entropy directive? seed? limit =
        .ofReport (Account.ofFault e).report.silent := by
      simp only [listIndices, parse, reportFault_start]
    rw [said]
    exact ⟨_, .unlisted parse, told_account (Account.ofError_sound _ _ _ (by decide))⟩
  | ok mode =>
    have small : limit < Sequence.takeBound :=
      within.resolve_right (not_not.mpr ⟨mode, parse⟩)
    obtain ⟨indices, s, after, first, _⟩ :=
      firstIndices_of_endless small (endless_sourceOf endless (seed?.or w.settings.1.seed)) mode
    obtain ⟨log, eq⟩ := listIndices_eq true w.entropy seed? limit parse
    rw [eq, first]
    exact ⟨_, .listed parse first, (told_sayIndices first).withLog _⟩

theorem previewFile_tells (endless : w.entropy.Endless) {path : String} {profile : Profile}
    (loaded : w.profile? path = some profile) (seed? : Option Int) {limit : Nat}
    (small : limit < Sequence.takeBound) :
    ∃ a, Tells w (.scan path seed? limit) a ∧
      Told (previewFile true w.settings w.entropy w.folder path seed? limit) a := by
  obtain ⟨mode, resolves⟩ := resolverMode_of_profile? loaded
  obtain ⟨p, planned⟩ := plan_of_endless small
    (endless_sourceOf endless (seed?.or w.settings.1.seed)) mode profile.branches
  obtain ⟨log, eq⟩ := previewProfile_eq (w := w) true seed? limit resolves
  rw [previewFile_of_profile? loaded, eq, planned]
  exact ⟨_, .planned loaded resolves planned, (told_sayPlan profile planned).withLog _⟩

/-- A run is its task carried out, with a log of its own. -/
theorem run_eq_perform {args : List String} {i : Invocation}
    (asks : Request.ofArguments args = .run i) (w : Workplace) :
    ∃ log, (run w args).1 = { (perform w i.isJson i.task).1 with log := log } :=
  ⟨_, by rw [run, asks]⟩

theorem profile?_eq_some_iff {path : String} {profile : Profile} :
    w.profile? path = some profile ↔
      Holds .ample (w.folder.find (Path.ofText path)) (.ok profile) := by
  constructor
  · intro loaded
    obtain ⟨file, found, load⟩ := load_of_profile? loaded
    cases file with
    | absent => cases load
    | directory => cases load
    | regular bytes => exact ⟨bytes, found, Profile.loads_iff.mpr load⟩
  · rintro ⟨bytes, found, loads⟩
    have load : Profile.load (Path.ofText path).text (.regular bytes) = .ok profile :=
      loads.loadWithin_eq _
    rw [Workplace.profile?, found]
    dsimp only
    rw [load]
    rfl

/-- A profile that is loaded with so much room is one with any. -/
theorem profile?_of_holds {room : Yaml.Room} {path : String} {profile : Profile}
    (holds : Holds room (w.folder.find (Path.ofText path)) (.ok profile)) :
    w.profile? path = some profile :=
  profile?_eq_some_iff.mpr (holds.ample nofun)

variable {room : Yaml.Room}

theorem perform_tells (endless : w.entropy.Endless) (covered : w.Covers room task)
    (within : w.Within task) : ∃ a, Tells w task a ∧ Told (perform w true task).1 a := by
  cases task with
  | parse directive => exact describe_tells directive
  | indexes directive? seed? limit =>
    obtain ⟨a, tells, told⟩ := listIndices_tells endless within
    exact ⟨a, tells, told.withLog _⟩
  | scan path seed? limit =>
    obtain ⟨profile, holds⟩ := covered
    exact previewFile_tells endless (profile?_of_holds holds) seed? within
  | config action key? value? => cases covered

/-- A task with a larger limit breaks off before anything is printed. -/
theorem perform_of_large (covered : w.Covers room task) (large : ¬ w.Within task) (isJson : Bool) :
    ∃ log, (perform w isJson task).1 = { Outcome.broken .limit with log := log } := by
  cases task with
  | parse directive => exact absurd trivial large
  | indexes directive? seed? limit =>
    obtain ⟨beyond, directive⟩ := not_or.mp large
    obtain ⟨mode, parse⟩ := not_not.mp directive
    obtain ⟨log, eq⟩ := listIndices_eq isJson w.entropy seed? limit parse
    rw [firstIndices_of_large (Nat.not_lt.mp beyond)] at eq
    simp only [perform, eq]
    exact ⟨_, rfl⟩
  | scan path seed? limit =>
    obtain ⟨profile, holds⟩ := covered
    have loaded := profile?_of_holds holds
    obtain ⟨mode, resolves⟩ := resolverMode_of_profile? loaded
    obtain ⟨log, eq⟩ := previewProfile_eq (w := w) isJson seed? limit resolves
    rw [plan_of_large (Nat.not_lt.mp large) (branches_of_profile? loaded)] at eq
    simp only [perform, previewFile_of_profile? loaded, eq]
    exact ⟨_, rfl⟩
  | config action key? value? => exact absurd trivial large

/-- What a query gives out on is the settings file, if it consults it. -/
theorem Machine.failure?_eq_some_iff {m : Machine} {failure : Failure}
    (covered : w.Covers m.room task) : m.failure? w task = some failure ↔
      task.Consults ∧ ∃ holder, failure = .settings holder ∧
        Settings.GivesOut m.levels w.settingsFile holder := by
  cases task with
  | parse directive => simp [Machine.failure?, Task.Consults]
  | indexes directive? seed? limit =>
    rw [Machine.failure?, Machine.settingsFailure?_eq_some_iff]
    exact (and_iff_right trivial).symm
  | scan path seed? limit =>
    obtain ⟨profile, holds⟩ := covered
    have shallow : ¬ Holds m.room (w.folder.find (Path.ofText path))
        (.error (.document .tooDeep)) := fun deep => by cases holds.unique deep
    rw [Machine.failure?, Machine.previewFailure?_eq_some_iff]
    simp only [shallow, and_false, false_or, Task.Consults, and_congr_right_iff]
    exact fun _ => and_iff_right ⟨profile, holds⟩
  | config action key? value? => cases covered

section

variable {m : Machine} {args : List String} {isVerbose isDebug : Bool}
  (asks : Request.ofArguments args = .run ⟨true, isVerbose, isDebug, task⟩)
  (covered : w.Covers m.room task)

include asks covered

/-- A query that consults settings which are nested too deep gives out. -/
theorem run_of_deep {holder : Json.Holder} (consults : task.Consults)
    (deep : Settings.GivesOut m.levels w.settingsFile holder) :
    (m.run w args).1 = ⟨Outcome.brokenCode, "", some (.settings holder), []⟩ := by
  have gives : m.failure? w task = some (.settings holder) :=
    (Machine.failure?_eq_some_iff covered).mpr ⟨consults, holder, rfl, deep⟩
  rw [Machine.run_of_failure asks gives]

variable (settled : task.Consults → ∀ holder, ¬ Settings.GivesOut m.levels w.settingsFile holder)

include settled

/-- A query that gives out on nothing is the task carried out. -/
theorem run_of_settled : ∃ log, (m.run w args).1 =
    ({ (perform w true task).1 with log := log } : Outcome).on m.terminal := by
  have fits : m.failure? w task = none := by
    refine Option.eq_none_iff_forall_ne_some.mpr fun failure gives => ?_
    obtain ⟨consults, holder, -, deep⟩ := (Machine.failure?_eq_some_iff covered).mp gives
    exact settled consults holder deep
  obtain ⟨log, ran⟩ := run_eq_perform asks w
  rw [Machine.run_of_fits asks fits]
  dsimp only
  rw [ran]
  exact ⟨log, rfl⟩

theorem tells_of_settled (endless : w.entropy.Endless) (within : w.Within task) :
    ∃ a, Tells w task a ∧ (m.run w args).1.Tells a := by
  obtain ⟨log, ran⟩ := run_of_settled asks covered settled
  obtain ⟨a, tells, told⟩ := perform_tells endless covered within
  rw [ran]
  exact ⟨a, tells, told.withLog log _⟩

end

/-- A run for a program that describes a directive, lists indices or previews a profile gives out
where it consults settings that are nested too deep for the stack. Otherwise it tells what there is
to tell, in one document that is true of the run, exactly when its limit can be asked for at once,
and breaks off if it cannot. A run that gives out or breaks off prints nothing. -/
theorem run_tells (m : Machine) {args : List String} {isVerbose isDebug : Bool}
    (asks : Request.ofArguments args = .run ⟨true, isVerbose, isDebug, task⟩)
    (covered : w.Covers m.room task) (endless : w.entropy.Endless) :
    (∀ holder, task.Consults → Settings.GivesOut m.levels w.settingsFile holder →
      (m.run w args).1 = ⟨Outcome.brokenCode, "", some (.settings holder), []⟩) ∧
    ((task.Consults → ∀ holder, ¬ Settings.GivesOut m.levels w.settingsFile holder) →
      (w.Within task → ∃ a, Tells w task a ∧ (m.run w args).1.Tells a) ∧
      (¬ w.Within task → (m.run w args).1.exitCode = Outcome.brokenCode ∧
        (m.run w args).1.failure? = some .limit ∧ (m.run w args).1.printed = "")) := by
  refine ⟨fun holder consults deep => run_of_deep asks covered consults deep, fun settled =>
    ⟨tells_of_settled asks covered settled endless, fun large => ?_⟩⟩
  obtain ⟨log, ran⟩ := run_of_settled asks covered settled
  obtain ⟨_, broken⟩ := perform_of_large covered large true
  rw [ran, broken]
  exact ⟨rfl, rfl, rfl⟩

end

/-- A workplace without files, where the entropy of the system is all zeros. -/
def emptyWorkplace : Workplace :=
  ⟨.empty, ⟨none, none, "config"⟩, .entropy (fun _ => 0) 0⟩

/-- On a usual stack, the largest limit that can be asked for lists what there is. -/
theorem run_tells_largest :
    ∃ a, Tells emptyWorkplace (.indexes (some "first2") none 9223372036854775807) a ∧
      ((Machine.usual .ample).run emptyWorkplace
        ["--json", "indexes", "first2", "--limit", "9223372036854775807"]).1.Tells a := by
  have asks : Request.ofArguments
      ["--json", "indexes", "first2", "--limit", "9223372036854775807"] =
      .run ⟨true, false, false, .indexes (some "first2") none 9223372036854775807⟩ := by
    decide +kernel
  have within : emptyWorkplace.Within (.indexes (some "first2") none 9223372036854775807) :=
    .inl (by decide)
  have settled (holder : Json.Holder) :
      ¬ Settings.GivesOut (some 950) emptyWorkplace.settingsFile holder := by
    rintro ⟨bytes, cs, here, -⟩
    cases here
  exact ((run_tells (.usual .ample) asks trivial (Source.endless_entropy _ _)).2
    fun _ => settled).1 within

/-- One more is admitted as a limit, and then the run breaks off without a document. -/
theorem run_beyond_largest :
    Request.ofArguments ["--json", "indexes", "first2", "--limit", "9223372036854775808"] =
        .run ⟨true, false, false, .indexes (some "first2") none 9223372036854775808⟩ ∧
      (run emptyWorkplace
        ["--json", "indexes", "first2", "--limit", "9223372036854775808"]).1.failure? =
          some .limit ∧
      document? (run emptyWorkplace
        ["--json", "indexes", "first2", "--limit", "9223372036854775808"]).1.printed = none := by
  decide +kernel

end IndexScan.Command
