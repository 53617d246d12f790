import IndexScan.Proofs.Command.History

/-!
Runs that keep the stored settings. Only an order to set a value or to reset does anything to the
settings file. By the time the file is written, the value has been taken and the settings are known
to be short enough to be written, so a run that is not done has not touched the file
(`outcome_spares`). All that can fail behind the change is to confirm it (`run_keeps_file`), and
that can fail (`run_changes_unconfirmed`).
-/

namespace IndexScan.Command

/-- The tasks that look at files and settings and change none. -/
def Task.OnlyReads : Task → Prop
  | .config action _ _ => action = "show"
  | _ => True

/-- The requests that ask for such a task, or for no task at all. -/
def Request.OnlyReads : Request → Prop
  | .run i => i.task.OnlyReads
  | _ => True

theorem order?_of_onlyReads {task : Task} (reads : task.OnlyReads) : task.order? = none := by
  cases task with
  | config action key? value? =>
    have showing : action = "show" := reads
    rw [showing]
    rfl
  | _ => rfl

/-- Arguments for reading give no order. -/
theorem orderOf?_of_onlyReads {args : List String} (reads : (Request.ofArguments args).OnlyReads) :
    orderOf? args = none := by
  unfold orderOf?
  cases asks : Request.ofArguments args with
  | run i =>
    rw [asks] at reads
    exact order?_of_onlyReads reads
  | _ => rfl

/-- What a run leaves that does not touch the settings file: the file as it was, whatever stood there,
and unless that is a directory the whole workplace as it was. -/
structure Workplace.Spared (w after : Workplace) : Prop where
  file : after.settingsFile = w.settingsFile
  whole : w.settingsFile ≠ .directory → after = w

theorem Workplace.Spared.of_eq {w after : Workplace} (same : after = w) : w.Spared after :=
  ⟨congrArg Workplace.settingsFile same, fun _ => same⟩

/-- A change that is not done keeps the file. Where a directory stands in its place, the directory is
what is left. -/
theorem setValue_failed {e : Environment} {s : Settings} {file above : FileState} {key : Key}
    {value : String} (short : ∀ n, s.seed = some n → Decimal.fits n = true)
    (failed : ¬ (setValue e s file above key value).1.Done) :
    (setValue e s file above key value).2 = .kept ∨
      file = .directory ∧ (setValue e s file above key value).2 = .written .directory := by
  by_cases blocked : file = .directory
  · subst blocked
    unfold setValue
    cases changed s key value with
    | error refused => exact .inl rfl
    | ok t =>
      cases above with
      | regular bytes => exact .inl rfl
      | absent => exact .inr ⟨rfl, rfl⟩
      | directory => exact .inr ⟨rfl, rfl⟩
  · rcases setValue_cases above e key value short blocked with ⟨-, kept⟩ | ⟨_, _, -, -, -, eq⟩
    · exact .inl kept
    · rw [eq] at failed
      exact absurd (Outcome.done_ofLines_iff.mpr rfl) failed

/-- A reset that is not done keeps the file. -/
theorem reset_failed {path : String} {file : FileState} (failed : ¬ (reset path file).1.Done) :
    (reset path file).2 = .kept := by
  cases file with
  | absent => rfl
  | directory => rfl
  | regular bytes => exact absurd (Outcome.done_ofLines_iff.mpr rfl) failed

/-- A run that was told to set a value and is not done spares the settings file. One that is done is
confirmed in harmless lines. -/
theorem spares_of_set {m : Machine} {w : Workplace} {args : List String} {key : Key} {value : String}
    (order : orderOf? args = some (.set key value)) :
    ¬ (m.outcome w args).1.Done ∧ w.Spared (m.outcome w args).2 ∨
      (m.outcome w args).1.Done ∧ (m.terminal.Willing →
        Console.Markup.Untagged w.environment.path.toList →
          ∀ item ∈ (m.outcome w args).1.items, m.terminal.Takes item) := by
  obtain ⟨i, asks, task⟩ := asks_of_set order
  cases deep : m.failure? w i.task with
  | some failure =>
    rw [Machine.outcome_of_failure asks deep]
    exact .inl ⟨Outcome.not_done_broken failure, .of_eq rfl⟩
  | none =>
    rw [Machine.outcome_of_fits asks deep]
    obtain ⟨finished, items, left⟩ := run_set (w := w) asks task
    by_cases done : (run w args).1.Done
    · obtain ⟨t, after, change, -, eq⟩ := setValue_done (finished.mp done)
      refine .inr ⟨done, fun willing plain => ?_⟩
      rw [items, eq]
      exact Outcome.takes_ofLines willing (safe_savedLines plain (changed_has change).2.1)
    · refine .inl ⟨done, ?_⟩
      have short : ∀ n, w.settings.1.seed = some n → Decimal.fits n = true :=
        fun _ => Settings.fits_load
      rcases setValue_failed short (mt finished.mpr done) with kept | ⟨blocked, written⟩
      · rw [kept] at left
        exact .of_eq left
      · refine ⟨?_, fun free => absurd blocked free⟩
        rw [left, written, Workplace.settingsFile_written, blocked]

theorem spares_of_reset {m : Machine} {w : Workplace} {args : List String}
    (order : orderOf? args = some .reset) :
    ¬ (m.outcome w args).1.Done ∧ w.Spared (m.outcome w args).2 ∨
      (m.outcome w args).1.Done ∧ (m.terminal.Willing →
        Console.Markup.Untagged w.environment.path.toList →
          ∀ item ∈ (m.outcome w args).1.items, m.terminal.Takes item) := by
  rw [Machine.outcome_of_reset_order order]
  obtain ⟨finished, items, left⟩ := run_reset (w := w) order
  by_cases done : (run w args).1.Done
  · exact .inr ⟨done, fun willing plain => items ▸ takes_reset willing plain⟩
  · rw [reset_failed (mt finished.mpr done)] at left
    exact .inl ⟨done, .of_eq left⟩

/-- A run spares the settings file unless it carries out an order, which is confirmed in harmless
lines. -/
theorem outcome_spares (m : Machine) (w : Workplace) (args : List String) :
    w.Spared (m.outcome w args).2 ∨
      (∃ order, Ran.order? ⟨args, (m.outcome w args).1⟩ = some order) ∧
        (m.terminal.Willing → Console.Markup.Untagged w.environment.path.toList →
          ∀ item ∈ (m.outcome w args).1.items, m.terminal.Takes item) := by
  cases order : orderOf? args with
  | none => exact .inl (.of_eq (Machine.outcome_of_no_order order))
  | some given =>
    have carried (done : (m.outcome w args).1.Done) :
        ∃ order, Ran.order? ⟨args, (m.outcome w args).1⟩ = some order :=
      ⟨given, by rw [Ran.order?, if_pos done, order]⟩
    have spares := show ¬ (m.outcome w args).1.Done ∧ w.Spared (m.outcome w args).2 ∨
        (m.outcome w args).1.Done ∧ _ by
      cases given with
      | set key value => exact spares_of_set order
      | reset => exact spares_of_reset order
    exact spares.imp And.right (And.imp_left carried)

/-- A run that was asked for nothing but reading spares the settings file, whatever its exit code.
So does a run that fails, unless it fails to confirm an order that it has carried out: the console
does not take the confirmation, and that is so only where the terminal has no size or lacks a
character, or where there is a tag in the path of the settings file. -/
theorem run_keeps_file (m : Machine) (w : Workplace) (args : List String) :
    ((Request.ofArguments args).OnlyReads → w.Spared (m.run w args).2) ∧
      ((m.run w args).1.exitCode ≠ Report.successCode →
        w.Spared (m.run w args).2 ∨
          (∃ order, Ran.order? ⟨args, (m.outcome w args).1⟩ = some order) ∧
            (∃ fault, (m.run w args).1.failure? = some (.report (.console fault))) ∧
            ¬ (m.terminal.Willing ∧ Console.Markup.Untagged w.environment.path.toList)) := by
  refine ⟨fun reads => .of_eq (Machine.outcome_of_no_order (orderOf?_of_onlyReads reads)),
    fun failed => (outcome_spares m w args).imp_right ?_⟩
  rintro ⟨⟨order, carried⟩, taken⟩
  have done : (m.outcome w args).1.Done := by
    by_contra broken
    simp [Ran.order?, broken] at carried
  refine ⟨⟨order, carried⟩, done.exitCode_on.resolve_left failed, ?_⟩
  rintro ⟨willing, plain⟩
  exact failed (Outcome.exitCode_on_eq_success_iff.mpr ⟨done, taken willing plain⟩)

/-- A workplace where a file stands in the place of the directory of the settings file. -/
def blockedWorkplace : Workplace :=
  ⟨Folder.empty.put ["config"] (.ofText "x".toList), Settings.bare "config", .scripted [] 0⟩

/-- There a change fails only when it is to be saved, and it leaves everything as it was. -/
theorem run_keeps_file_when_blocked :
    let m := Machine.usual .ample
    let args := ["config", "set", "scan.mode", "first5"]
    (m.run blockedWorkplace args).1.exitCode ≠ Report.successCode ∧
      (m.run blockedWorkplace args).2 = blockedWorkplace := by
  intro m args
  have failed : (m.run blockedWorkplace args).1.exitCode ≠ Report.successCode := by decide +kernel
  have free : blockedWorkplace.settingsFile ≠ .directory := by decide +kernel
  have plain : Console.Markup.Untagged blockedWorkplace.environment.path.toList := by decide
  refine ⟨failed, (((run_keeps_file m blockedWorkplace args).2 failed).resolve_right ?_).whole free⟩
  exact fun ⟨_, _, unwilling⟩ => unwilling ⟨Console.Terminal.ample_willing, plain⟩

/-- Where the confirmation cannot be printed, a change fails and is made all the same: on a terminal
without a size, and with a closing tag in the path of the settings file, which is printed as it is. -/
theorem run_changes_unconfirmed :
    let args := ["config", "set", "scan.mode", "first5"]
    let plain := freshWorkplace "config"
    let sizeless := (Machine.usual (.ofVariables none (some "²"))).run plain args
    let tagged := freshWorkplace "/tmp/[/b]/.config/keyscan"
    let confirming := (Machine.usual .ample).run tagged args
    (sizeless.1.exitCode ≠ Report.successCode ∧ plain.settingsFile = .absent ∧
        sizeless.2.settingsFile ≠ .absent) ∧
      confirming.1.exitCode ≠ Report.successCode ∧ tagged.settingsFile = .absent ∧
        confirming.2.settingsFile ≠ .absent := by
  decide +kernel

end IndexScan.Command
