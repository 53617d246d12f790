import IndexScan.Proofs.Command.Asking
import IndexScan.Proofs.Command.Telling
import IndexScan.Proofs.Directive.Classes

/-!
Verdicts. A directive is read where it is described, where its indices are listed and where a profile
that holds it is previewed. What a program is told of it there is a verdict: the mode that it denotes,
or the one error that refuses it, with the exit code for that (`Verdict`). Every task that concerns a
directive comes to the verdict of reading it (`run_verdict`), so all of them judge it alike
(`directive_judged_alike`).
-/

namespace IndexScan.Command

open Report (successCode invalidCode)

/-! ### Verdicts -/

/-- The error of a directive, as a program is told of it. -/
def faultObject (refusal : DirectiveError) : Json :=
  let category : String := match refusal.category with
    | .invalidInteger => "invalid_integer"
    | .hardenedIndex => "hardened_index"
    | .unrecognizedMode => "unrecognized_mode"
    | .other => "resolver_mode"
  .obj ([("message", .str refusal.message), ("category", .str category)]
    ++ refusal.category.suggestion?.toList.map fun text => ("suggestion", .str text))

/-- Errors of directives are reported as programs are told of them. -/
theorem messageItem_eq (refusal : DirectiveError) :
    Report.messageItem refusal.message (some refusal.category.label)
      refusal.category.suggestion? = faultObject refusal := by
  cases refusal <;> rfl

/-- A run told one document, which holds what comes of reading a directive: the mode and no error, or
the one error and no mode. The exit code goes with that. -/
inductive Verdict (e : Ending) (warnings : List Json) : Except DirectiveError Mode → Prop where
  | accepted {mode : Mode} {kind : String} {a : Account} (told : e.Tells a)
      (code : e.exitCode = successCode)
      (is : kind = match mode with
        | .single => "while"
        | .first _ => "first"
        | .random _ => "random")
      (named : a.document.get? "mode" = some (.obj [("directive", .str mode.directive),
        ("kind", .str kind), ("count", .int mode.count),
        ("range", .arr [.int 0, .int mode.count]), ("is_while", .bool (kind = "while")),
        ("is_random", .bool (kind = "random"))]))
      (faultless : a.document.get? "errors" = some (.arr []))
      (warned : a.document.get? "warnings" = some (.arr warnings)) : Verdict e warnings (.ok mode)
  | refused {refusal : DirectiveError} {a : Account} (told : e.Tells a)
      (code : e.exitCode = invalidCode) (unnamed : a.document.get? "mode" = none)
      (faulty : a.document.get? "errors" = some (.arr [faultObject refusal]))
      (warned : a.document.get? "warnings" = some (.arr warnings)) :
      Verdict e warnings (.error refusal)

/-- The directive that a task concerns: its own, that of the settings if it has none, or that of what
is a profile when it is loaded with so much room. -/
inductive Workplace.Concerns (w : Workplace) (room : Yaml.Room) : Task → String → Prop where
  | described (directive : String) : w.Concerns room (.parse directive) directive
  | listed (directive? : Option String) (seed? : Option Int) (limit : Nat) :
      w.Concerns room (.indexes directive? seed? limit) (directive?.getD w.settings.1.mode)
  | previewed {path : String} {profile : Profile}
      (holds : Holds room (w.folder.find (Path.ofText path)) (.ok profile))
      (seed? : Option Int) (limit : Nat) : w.Concerns room (.scan path seed? limit) profile.mode

/-- The warnings of a task that concerns a directive: only a description warns of a mode that probes
nothing. -/
def Task.warnings : Task → Except DirectiveError Mode → List Json
  | .parse _, .ok mode => Account.emptyWarnings mode
  | _, _ => []

variable {m : Machine} {w : Workplace} {task : Task} {directive : String} {room : Yaml.Room}

theorem Workplace.Concerns.covers (concerns : w.Concerns room task directive) :
    w.Covers room task := by
  cases concerns with
  | described => trivial
  | listed => trivial
  | previewed holds => exact ⟨_, holds⟩

theorem Verdict.ofMode {e : Ending} {warnings : List Json} {mode : Mode} {a : Account}
    (told : e.Tells a) (code : a.exitCode = successCode)
    (named : a.document.get? "mode" = some (Account.modeObject mode))
    (faultless : a.document.get? "errors" = some (.arr []))
    (warned : a.document.get? "warnings" = some (.arr warnings)) : Verdict e warnings (.ok mode) :=
  .accepted told (told.code.trans code) rfl named faultless warned

theorem Verdict.ofFault {e : Ending} {refusal : DirectiveError}
    (told : e.Tells (.ofFault refusal)) : Verdict e [] (.error refusal) :=
  .refused told told.code rfl (congrArg (fun item => some (Json.arr [item])) (messageItem_eq refusal))
    rfl

/-- What there is to tell of a task is the verdict on the directive that it concerns. -/
theorem verdict_of_tells {e : Ending} {a : Account} (tells : Tells w task a)
    (concerns : w.Concerns room task directive) (told : e.Tells a) :
    Verdict e (task.warnings (Directive.parse directive)) (Directive.parse directive) := by
  cases tells with
  | unknown fault =>
    cases concerns
    rw [fault]
    exact .ofFault told
  | described parse =>
    cases concerns
    rw [parse]
    exact .ofMode told rfl rfl rfl rfl
  | unlisted fault =>
    cases concerns
    rw [fault]
    exact .ofFault told
  | listed parse first =>
    cases concerns
    rw [parse]
    exact .ofMode told rfl rfl rfl rfl
  | @planned path seed? limit profile mode p loaded resolves plan =>
    cases concerns with
    | @previewed path profile' holds seed? limit =>
      obtain rfl : profile = profile' :=
        Option.some.inj (loaded.symm.trans (profile?_of_holds holds))
      have parse : Directive.parse profile.mode = .ok mode := resolves
      rw [parse]
      exact .ofMode told rfl rfl rfl rfl

/-! ### Runs -/

/-- Arguments that ask for a task to be told to a program. -/
def Asks (args : List String) (task : Task) : Prop :=
  ∃ isVerbose isDebug, Request.ofArguments args = .run ⟨true, isVerbose, isDebug, task⟩

/-- A run for a program comes to the verdict on the directive that its task concerns, unless it
consults settings that are nested too deep. -/
theorem run_verdict {args : List String} (asks : Asks args task)
    (concerns : w.Concerns m.room task directive) (within : w.Within task)
    (endless : w.entropy.Endless)
    (settled : task.Consults → ∀ holder, ¬ Settings.GivesOut m.levels w.settingsFile holder) :
    Verdict (m.run w args).1 (task.warnings (Directive.parse directive))
      (Directive.parse directive) := by
  obtain ⟨_, _, asked⟩ := asks
  obtain ⟨a, tells, told⟩ := tells_of_settled asked concerns.covers settled endless within
  exact verdict_of_tells tells concerns told

/-- A directive of no indices is warned of once, and no other directive is. -/
theorem warnings_parse (directive : String) :
    ((∃ n, Directive.Counts directive (List.replicate (n + 1) '0')) →
      ∃ item, (Task.parse directive).warnings (Directive.parse directive) = [item] ∧
        item.get? "category" = some (.str "zero_count")) ∧
    ((∀ n, ¬ Directive.Counts directive (List.replicate (n + 1) '0')) →
      (Task.parse directive).warnings (Directive.parse directive) = []) := by
  constructor
  · intro zeros
    obtain ⟨mode, parse, nothing⟩ := Directive.denotes_none_iff.mpr zeros
    rw [parse, Task.warnings, Account.emptyWarnings, if_pos nothing]
    exact ⟨_, rfl, rfl⟩
  · intro others
    cases parse : Directive.parse directive with
    | error e => rfl
    | ok mode =>
      have some : mode.count ≠ 0 := fun nothing =>
        not_exists.mpr others (Directive.denotes_none_iff.mp ⟨mode, parse, nothing⟩)
      rw [Task.warnings, Account.emptyWarnings, if_neg some]

/-- The commands judge a directive alike, as far as the settings that they consult can be loaded.
Every text can be asked about. Describing it comes to a verdict in any case: the mode that it
denotes, or the error that refuses it, whose category is the way in which the text fails the
grammar. Listing its indices comes to the same verdict, and so does previewing a profile with that
directive, which succeeds; but where the settings file is nested too deep for the stack, a list
gives out, and so does a preview without a seed. Only the description may add a warning, which it
does exactly for a word with one or more zeros behind it. -/
theorem directive_judged_alike (m : Machine) (endless : w.entropy.Endless) (directive : String) :
    let settled := ∀ holder, ¬ Settings.GivesOut m.levels w.settingsFile holder
    let gaveOut (e : Ending) := ∃ holder, Settings.GivesOut m.levels w.settingsFile holder ∧
      e = ⟨Outcome.brokenCode, "", some (.settings holder), []⟩
    (Asks ["--json", "parse", "--", directive] (.parse directive) ∧
      Asks ["--json", "indexes", "--", directive] (.indexes (some directive) none defaultLimit)) ∧
    (∃ warnings,
      (∀ args, Asks args (.parse directive) →
        Verdict (m.run w args).1 warnings (Directive.parse directive)) ∧
      ((∃ n, Directive.Counts directive (List.replicate (n + 1) '0')) →
        ∃ item, warnings = [item] ∧ item.get? "category" = some (.str "zero_count")) ∧
      ((∀ n, ¬ Directive.Counts directive (List.replicate (n + 1) '0')) → warnings = [])) ∧
    (∀ args seed? limit, limit < Sequence.takeBound →
      Asks args (.indexes (some directive) seed? limit) →
      (settled → Verdict (m.run w args).1 [] (Directive.parse directive)) ∧
        (¬ settled → gaveOut (m.run w args).1)) ∧
    (∀ args path profile seed? limit, limit < Sequence.takeBound →
      Holds m.room (w.folder.find (Path.ofText path)) (.ok profile) → profile.mode = directive →
      Asks args (.scan path seed? limit) →
      ((seed? = none → settled) → (m.run w args).1.exitCode = successCode ∧
        Verdict (m.run w args).1 [] (Directive.parse directive)) ∧
        (seed? = none → ¬ settled → gaveOut (m.run w args).1)) ∧
    ∀ category, Directive.Fails directive category ↔
      ∃ refusal, Directive.parse directive = .error refusal ∧ refusal.category = category := by
  intro settled gaveOut
  have givesOut {args : List String} {task : Task} (asks : Asks args task)
      (covered : w.Covers m.room task) (consults : task.Consults) (deep : ¬ settled) :
      gaveOut (m.run w args).1 := by
    obtain ⟨_, _, asked⟩ := asks
    obtain ⟨holder, deep⟩ := not_forall_not.mp deep
    exact ⟨holder, deep, run_of_deep asked covered consults deep⟩
  refine ⟨⟨?_, ?_⟩, ⟨_, fun args asks => ?_, warnings_parse directive⟩,
    fun args seed? limit small asks => ⟨fun here => ?_, givesOut asks trivial trivial⟩, ?_,
    fun category => Directive.fails_iff⟩
  · exact ⟨_, _, ofArguments_json (ofArguments_parse directive)⟩
  · exact ⟨_, _, ofArguments_json (ofArguments_indexes directive)⟩
  · exact run_verdict asks (.described directive) trivial endless nofun
  · exact run_verdict asks (.listed (some directive) seed? limit) (.inl small) endless
      fun _ => here
  · rintro args path profile seed? limit small holds rfl asks
    refine ⟨fun here => ?_, fun seedless => givesOut asks ⟨profile, holds⟩ seedless⟩
    have verdict : Verdict (m.run w args).1 [] (Directive.parse profile.mode) :=
      run_verdict asks (.previewed holds seed? limit) small endless here
    obtain ⟨mode, parse⟩ : ∃ mode, Directive.parse profile.mode = .ok mode :=
      resolverMode_of_profile? (profile?_of_holds holds)
    refine ⟨?_, verdict⟩
    rw [parse] at verdict
    cases verdict with
    | accepted _ code => exact code

/-- A workplace with a profile that probes no indices. -/
def zeroWorkplace : Workplace :=
  ⟨Folder.empty.put ["p.yaml"] (.ofText "name: n\nmode: random00\n".toList),
    ⟨none, none, "config"⟩, .entropy (fun _ => 0) 0⟩

/-- On a usual stack its directive is warned of where it is described, and the profile is previewed
with the same mode; a count with a sign is refused with one error in both places. -/
theorem directive_judged_alike_zeros :
    let m := Machine.usual .ample
    (∃ item, item.get? "category" = some (.str "zero_count") ∧
      Verdict (m.run zeroWorkplace ["--json", "parse", "--", "random00"]).1 [item]
        (.ok (.random ⟨0, by decide⟩))) ∧
    Verdict (m.run zeroWorkplace ["--json", "indexes", "--", "random00"]).1 []
      (.ok (.random ⟨0, by decide⟩)) ∧
    Verdict (m.run zeroWorkplace ["--json", "scan", "p.yaml"]).1 []
      (.ok (.random ⟨0, by decide⟩)) ∧
    ∃ e, (faultObject e).get? "category" = some (.str "invalid_integer") ∧
      Verdict (m.run zeroWorkplace ["--json", "parse", "--", "first+1"]).1 [] (.error e) ∧
      Verdict (m.run zeroWorkplace ["--json", "indexes", "--", "first+1"]).1 [] (.error e) := by
  intro m
  have endless : zeroWorkplace.entropy.Endless := Source.endless_entropy _ _
  have settled (holder : Json.Holder) :
      ¬ Settings.GivesOut m.levels zeroWorkplace.settingsFile holder := by
    rintro ⟨bytes, cs, here, -⟩
    have absent : zeroWorkplace.settingsFile = .absent := by decide +kernel
    rw [absent] at here
    cases here
  have parse : Directive.parse "random00" = .ok (.random ⟨0, by decide⟩) := by decide +kernel
  have holds : Holds m.room (zeroWorkplace.folder.find (Path.ofText "p.yaml"))
      (.ok ⟨"n", "random00", [0, 1], none⟩) := by
    have loaded : Profile.loadWithin m.room "p.yaml" (.ofText "name: n\nmode: random00\n".toList) =
        .ok ⟨"n", "random00", [0, 1], none⟩ := toOption_eq_some (by decide +kernel)
    exact ⟨_, rfl, Profile.loads_iff.mpr loaded⟩
  have scans : Asks ["--json", "scan", "p.yaml"] (.scan "p.yaml" none defaultLimit) :=
    ⟨false, false, by decide +kernel⟩
  obtain ⟨⟨asksParse, asksIndexes⟩, ⟨_, described, warned, -⟩, listed, previewed, -⟩ :=
    directive_judged_alike m endless "random00"
  obtain ⟨item, rfl, category⟩ := warned ⟨1, .inr (by decide)⟩
  obtain ⟨-, verdict⟩ := (previewed _ _ _ _ _ (by decide) holds rfl scans).1 fun _ => settled
  obtain ⟨⟨asksParse', asksIndexes'⟩, ⟨_, described', -, unwarned⟩, listed', -, fails⟩ :=
    directive_judged_alike m endless "first+1"
  obtain ⟨e, refused, integer⟩ := (fails .invalidInteger).mp
    ⟨"+1".toList, .inl (by decide), .inl ⟨'+', by decide, by decide⟩⟩
  have others (n : Nat) : ¬ Directive.Counts "first+1" (List.replicate (n + 1) '0') := by
    rintro (same | same)
    · cases same
    · cases same
  obtain rfl := unwarned others
  have named : (faultObject e).get? "category" = some (.str "invalid_integer") := by
    rw [faultObject, integer]
    rfl
  rw [← parse]
  refine ⟨⟨item, category, described _ asksParse⟩,
    (listed _ _ _ (by decide) asksIndexes).1 settled, verdict, e, named, ?_⟩
  rw [← refused]
  exact ⟨described' _ asksParse', (listed' _ _ _ (by decide) asksIndexes').1 settled⟩

/-- A workplace with a settings file that opens one array more than a usual stack has levels. -/
def deepWorkplace : Workplace :=
  ⟨Folder.empty.put ["config", "config.json"] (.ofText (List.replicate 951 '[')),
    ⟨none, none, "config"⟩, .entropy (fun _ => 0) 0⟩

/-- There a directive is described, and listing its indices gives out. -/
theorem directive_judged_otherwise :
    ((Machine.usual .ample).run deepWorkplace ["--json", "parse", "--", "first5"]).1.exitCode =
        successCode ∧
      ((Machine.usual .ample).run deepWorkplace ["--json", "indexes", "--", "first5"]).1 =
        ⟨Outcome.brokenCode, "", some (.settings .array), []⟩ := by
  refine ⟨by decide +kernel, ?_⟩
  have deep : Settings.GivesOut (some 950) deepWorkplace.settingsFile .array :=
    Settings.givesOut_brackets 950
  have asks : Request.ofArguments ["--json", "indexes", "--", "first5"] =
      .run ⟨true, false, false, .indexes (some "first5") none defaultLimit⟩ := by
    decide +kernel
  exact run_of_deep asks trivial trivial deep

end IndexScan.Command
