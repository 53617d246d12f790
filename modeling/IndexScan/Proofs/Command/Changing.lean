import IndexScan.Command.Run
import IndexScan.Proofs.Command.Endings
import IndexScan.Proofs.Settings.Saving

/-!
Changing one setting. A run that changes the value of a key saves all settings in force, those that
come from the environment included. So the other key keeps its stored value exactly when the
environment gives it no other (`set_keeps_other_iff`).
-/

namespace IndexScan

/-! ### Files -/

namespace Folder

theorem entry_set (f : Folder) {place : List String} (inside : place ≠ []) (state : FileState) :
    (f.set place state).entry place = state := by
  have nonempty : place.isEmpty = false := by simpa using inside
  simp [entry, set, nonempty]

/-- What is put at a place stands there. -/
theorem entry_put (f : Folder) {place : List String} (inside : place ≠ []) (state : FileState) :
    (f.put place state).entry place = state :=
  entry_set _ inside state

end Folder

namespace Command

namespace Workplace

/-- The settings that the settings file gives by itself. -/
def stored (w : Workplace) : Settings :=
  Settings.stored w.settingsFile

theorem settingsFile_written (w : Workplace) (file : FileState) :
    (w.apply (.written file)).settingsFile = file :=
  Folder.entry_put _ (List.cons_ne_nil _ _) file

end Workplace

/-! ### Keys -/

/-- Whether two settings have the same value of a key. -/
def Key.Agree (key : Key) (s t : Settings) : Prop :=
  match key with
  | .mode => s.mode = t.mode
  | .seed => s.seed = t.seed

instance (key : Key) (s t : Settings) : Decidable (key.Agree s t) :=
  match key with
  | .mode => instDecidableEqString s.mode t.mode
  | .seed => inferInstanceAs (Decidable (s.seed = t.seed))

/-- Whether the environment gives a key no value but the stored one. -/
def Key.Undisturbed (key : Key) (w : Workplace) : Prop :=
  match key with
  | .mode => ∀ v ∈ (Settings.environmentMode w.environment.mode?).1, v = w.stored.mode
  | .seed => ∀ v ∈ (Settings.environmentSeed w.environment.seed?).1, v = w.stored.seed

theorem Key.ofText?_text (key : Key) : Key.ofText? key.text = some key := by
  cases key <;> decide

theorem Key.text_ne_empty (key : Key) : key.text ≠ "" := by
  cases key <;> decide

theorem getD_eq_iff {α : Type} (given? : Option α) (value : α) :
    given?.getD value = value ↔ ∀ v ∈ given?, v = value := by
  cases given? <;> simp

/-- The settings in force agree with the stored ones where the environment does not disturb them. -/
theorem agree_settings_iff (key : Key) (w : Workplace) :
    key.Agree w.settings.1 w.stored ↔ key.Undisturbed w := by
  have inForce := Settings.load_eq w.settingsFile w.environment
  rw [Workplace.settings, inForce]
  cases key with
  | mode => exact getD_eq_iff (Settings.environmentMode w.environment.mode?).1 w.stored.mode
  | seed => exact getD_eq_iff (Settings.environmentSeed w.environment.seed?).1 w.stored.seed

theorem Key.Agree.trans {key : Key} {s t u : Settings} (left : key.Agree s t)
    (right : key.Agree t u) : key.Agree s u := by
  cases key with
  | mode => exact Eq.trans left right
  | seed => exact Eq.trans left right

theorem Key.Agree.symm {key : Key} {s t : Settings} (same : key.Agree s t) : key.Agree t s := by
  cases key with
  | mode => exact Eq.symm same
  | seed => exact Eq.symm same

/-- Changing a key keeps the other, and leaves a directive in force. -/
theorem changed_eq_ok {s t : Settings} {key : Key} {value : String}
    (change : changed s key value = .ok t) (valid : Directive.IsDirective s.mode) :
    Directive.IsDirective t.mode ∧ ∀ other, other ≠ key → other.Agree t s := by
  cases key with
  | mode =>
    cases parse : Directive.parse value with
    | ok mode =>
      simp only [changed, parse, Except.ok.injEq] at change
      subst change
      refine ⟨⟨mode, parse⟩, fun other differ => ?_⟩
      cases other with
      | mode => exact absurd rfl differ
      | seed => rfl
    | error e => simp [changed, parse] at change
  | seed =>
    have same : t.mode = s.mode := by
      unfold changed at change
      split_ifs at change
      · cases change
        rfl
      · cases read : Numeral.read value.toList with
        | ok seed =>
          rw [read] at change
          cases change
          rfl
        | error e => simp [read] at change
    refine ⟨same ▸ valid, fun other differ => ?_⟩
    cases other with
    | mode => exact same
    | seed => exact absurd rfl differ

/-! ### The run -/

/-- A change that is done stores the settings that were changed, and is confirmed. -/
theorem setValue_done {e : Environment} {s : Settings} {file above : FileState} {key : Key}
    {value : String} (done : (setValue e s file above key value).1.Done) :
    ∃ t after, changed s key value = .ok t ∧ t.save file = (none, after) ∧
      setValue e s file above key value =
        (.ofLines Report.successCode (savedLines e.path key value), .written after) := by
  unfold setValue at done ⊢
  cases change : changed s key value with
  | error refused =>
    rw [change] at done
    exact absurd (Outcome.done_ofLines_iff.mp done) (by decide)
  | ok t =>
    simp only [change] at done ⊢
    split at done
    · exact absurd done (Outcome.not_done_broken _)
    · rcases saved : t.save file with ⟨_ | e, after⟩
      · exact ⟨t, after, rfl, saved, rfl⟩
      · rw [saved] at done
        exact absurd done (Outcome.not_done_broken _)

/-- A run that changes a key is that change of the settings in force, but for its log. -/
theorem run_set {w : Workplace} {args : List String} {i : Invocation} {key : Key} {value : String}
    (asks : Request.ofArguments args = .run i)
    (task : i.task = .config "set" (some key.text) (some value)) :
    let change := setValue w.environment w.settings.1 w.settingsFile
      (w.folder.entry [w.environment.directory]) key value
    ((run w args).1.Done ↔ change.1.Done) ∧ (run w args).1.items = change.1.items ∧
      (run w args).2 = w.apply change.2 := by
  have given : (some key.text).filter (· ≠ "") = some key.text := by
    simp [Option.filter, key.text_ne_empty]
  simp only [run, asks, task, perform, configure, given, key.ofText?_text]
  exact ⟨⟨fun done => done.withLog _, fun done => done.withLog _⟩, rfl, trivial⟩

/-- A run that changes a key well stores all settings that were in force, the other key's value from
the environment included. So the stored value of the other key stays what it was exactly when the
environment gives it no other. -/
theorem set_keeps_other_iff {w : Workplace} {args : List String} {i : Invocation} {key other : Key}
    {value : String} (asks : Request.ofArguments args = .run i)
    (task : i.task = .config "set" (some key.text) (some value)) (differ : other ≠ key)
    (done : (run w args).1.exitCode = Report.successCode) :
    other.Agree (run w args).2.stored w.settings.1 ∧
      (other.Agree (run w args).2.stored w.stored ↔ other.Undisturbed w) := by
  obtain ⟨finished, -, left⟩ := run_set (w := w) asks task
  obtain ⟨t, after, change, saved, eq⟩ :=
    setValue_done (finished.mp (Outcome.exitCode_on_eq_success_iff.mp done).1)
  obtain ⟨valid, kept⟩ := changed_eq_ok change (Settings.isDirective_load _ _)
  have stored : (run w args).2.stored = t := by
    rw [left, eq, Workplace.stored, Workplace.settingsFile_written]
    exact Settings.stored_of_save valid saved
  have agree := kept other differ
  rw [stored, ← agree_settings_iff]
  exact ⟨agree, agree.symm.trans, agree.trans⟩

/-- A workplace without files, whose environment gives a seed. -/
def seededWorkplace : Workplace := ⟨.empty, ⟨none, some "7", "config"⟩, .scripted [] 0⟩

/-- Changing the seed there keeps the stored mode, of which the environment says nothing. -/
theorem set_seed_keeps_mode :
    let args := ["config", "set", "scan.seed", "5"]
    (run seededWorkplace args).1.exitCode = Report.successCode ∧
      Key.mode.Agree (run seededWorkplace args).2.stored seededWorkplace.stored := by
  intro args
  have done : (run seededWorkplace args).1.exitCode = Report.successCode := by decide +kernel
  have asks : Request.ofArguments args =
      .run ⟨false, false, false, .config "set" (some Key.seed.text) (some "5")⟩ := by
    decide +kernel
  have silent : Key.mode.Undisturbed seededWorkplace := by
    intro v given
    cases given
  exact ⟨done, (set_keeps_other_iff asks rfl (by decide) done).2.mpr silent⟩

/-- Changing the mode there stores the seed as well, where no seed was stored. -/
theorem set_mode_stores_seed :
    let args := ["config", "set", "scan.mode", "first5"]
    (run seededWorkplace args).1.exitCode = Report.successCode ∧
      ¬ Key.seed.Agree (run seededWorkplace args).2.stored seededWorkplace.stored := by
  decide +kernel

end Command

end IndexScan
