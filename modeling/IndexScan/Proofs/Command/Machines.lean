import IndexScan.Command.Run
import IndexScan.Proofs.Profile.Contents
import IndexScan.Proofs.Settings.Layering

/-!
Runs on machines. A run on a machine either gives out on what it reads, and then nothing is printed,
logged or changed (`outcome_of_failure`), or it is the run that takes place where there is room for
everything (`outcome_of_fits`); how it ends is up to the terminal. What a run gives out on is the
settings file or the profile (`settingsFailure?_eq_some_iff`, `previewFailure?_eq_some_iff`).
-/

namespace IndexScan.Command

/-- A file of bytes stands at a path, and this is what loading it with so much room comes to. -/
def Holds (room : Yaml.Room) (found : Except FileError FileState)
    (result : Except Profile.LoadError Profile) : Prop :=
  ∃ bytes, found = .ok (.regular bytes) ∧ Profile.Loads room bytes result

namespace Holds

variable {room : Yaml.Room} {found : Except FileError FileState}
  {result other : Except Profile.LoadError Profile}

theorem unique (holds : Holds room found result) (holds' : Holds room found other) :
    result = other := by
  obtain ⟨bytes, here, loads⟩ := holds
  obtain ⟨bytes', here', loads'⟩ := holds'
  rw [here] at here'
  cases here'
  exact loads.unique loads'

theorem reached (holds : Holds room found result) : ¬ ∃ e, found = .error e := by
  obtain ⟨bytes, here, -⟩ := holds
  simp [here]

/-- What is not too deep for so much room is the same with room for everything. -/
theorem ample (holds : Holds room found result) (shallow : result ≠ .error (.document .tooDeep)) :
    Holds .ample found result := by
  obtain ⟨bytes, here, loads⟩ := holds
  exact ⟨bytes, here,
    Profile.loads_iff.mpr (Profile.load_of_loadWithin (loads.loadWithin_eq "") shallow)⟩

end Holds

namespace Machine

variable {m : Machine} {w : Workplace} {args : List String} {i : Invocation} {failure : Failure}

/-- A run that gives out leaves everything as it was. -/
theorem outcome_of_failure (asks : Request.ofArguments args = .run i)
    (deep : m.failure? w i.task = some failure) : m.outcome w args = (.broken failure, w) := by
  rw [outcome, asks]
  simp only [deep]

theorem outcome_of_fits (asks : Request.ofArguments args = .run i)
    (fits : m.failure? w i.task = none) : m.outcome w args = Command.run w args := by
  rw [outcome, asks]
  simp only [fits]

theorem run_of_failure (asks : Request.ofArguments args = .run i)
    (deep : m.failure? w i.task = some failure) :
    m.run w args = (⟨Outcome.brokenCode, "", some failure, []⟩, w) := by
  rw [run, outcome_of_failure asks deep]
  rfl

theorem run_of_fits (asks : Request.ofArguments args = .run i)
    (fits : m.failure? w i.task = none) :
    m.run w args = ((Command.run w args).1.on m.terminal, (Command.run w args).2) := by
  rw [run, outcome_of_fits asks fits]

/-- The settings can be loaded exactly if their file is not nested too deep. -/
theorem settingsFailure?_eq_some_iff : m.settingsFailure? w = some failure ↔
    ∃ holder, failure = .settings holder ∧ Settings.GivesOut m.levels w.settingsFile holder := by
  simp only [settingsFailure?, Option.map_eq_some_iff, Settings.overflow?_eq_some_iff]
  exact exists_congr fun holder => and_comm.trans (and_congr_left fun _ => eq_comm)

theorem settingsFailure?_eq_none_iff : m.settingsFailure? w = none ↔
    ∀ holder, ¬ Settings.GivesOut m.levels w.settingsFile holder := by
  rw [settingsFailure?, Option.map_eq_none_iff, Option.eq_none_iff_forall_ne_some]
  simp only [ne_eq, Settings.overflow?_eq_some_iff]

/-- What a preview reads first is the profile. It reads the settings only if the profile is one and no
seed is given. -/
theorem previewFailure?_eq_some_iff {path : String} {seed? : Option Int} :
    m.previewFailure? w path seed? = some failure ↔
      (failure = .profile ∧
        Holds m.room (w.folder.find (Path.ofText path)) (.error (.document .tooDeep))) ∨
      seed? = none ∧
        (∃ profile, Holds m.room (w.folder.find (Path.ofText path)) (.ok profile)) ∧
        ∃ holder, failure = .settings holder ∧
          Settings.GivesOut m.levels w.settingsFile holder := by
  rw [← settingsFailure?_eq_some_iff, previewFailure?]
  cases found : w.folder.find (Path.ofText path) with
  | error e => simp [Holds]
  | ok file =>
    cases file with
    | absent => simp [Holds]
    | directory =>
      have refused : Profile.loadWithin m.room (Path.ofText path).text .directory =
        .error (.file (.isDirectory (Path.ofText path).text)) := rfl
      simp [Holds, refused]
    | regular bytes =>
      have holds (result : Except Profile.LoadError Profile) :
          Holds m.room (.ok (.regular bytes)) result ↔
            Profile.loadWithin m.room (Path.ofText path).text (.regular bytes) = result := by
        rw [← Profile.loads_iff]
        simp [Holds]
      simp only [holds]
      cases loaded : Profile.loadWithin m.room (Path.ofText path).text (.regular bytes) with
      | ok profile => cases seed? <;> simp
      | error e =>
        split
        · rename_i same
          obtain rfl := Except.error.inj same
          simp [eq_comm]
        · rename_i _ other same
          obtain rfl := Except.error.inj same
          simpa using fun _ => other
        · rename_i same
          cases same

end Machine

end IndexScan.Command
