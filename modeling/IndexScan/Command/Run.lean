import IndexScan.Command.Arguments
import IndexScan.Command.Configure
import IndexScan.Command.Preview

/-!
Runs of the program: a list of arguments, carried out in a working directory and an environment. Only
the settings file can change, and only by a configuration task. A run takes place on a machine, whose
stack may be too small for what is to be read and whose terminal may not take what is to be printed;
the machine that has neither fault is the one that `run` speaks of.
-/

namespace IndexScan.Command

/-- Where a run takes place. -/
structure Workplace where
  folder : Folder
  environment : Environment
  /-- The entropy of the system. -/
  entropy : Source

namespace Workplace

/-- The settings file. -/
def settingsFile (w : Workplace) : FileState := w.folder.entry w.environment.place

/-- The settings in force, and what loading them logs. -/
def settings (w : Workplace) : Settings × List LogRecord :=
  Settings.load w.settingsFile w.environment

/-- The workplace with the settings file changed. -/
def apply (w : Workplace) : FileChange → Workplace
  | .kept => w
  | .removed => { w with folder := w.folder.set w.environment.place .absent }
  | .written state => { w with folder := w.folder.put w.environment.place state }

end Workplace

/-- The name and the version of the program. -/
def versionLine : String := "keyscan 0.1.0\n"

/-- Carries out a task. -/
def perform (w : Workplace) (isJson : Bool) : Task → Outcome × FileChange
  | .parse directive => (describe isJson directive, .kept)
  | .indexes directive? seed? limit =>
    let (settings, log) := w.settings
    ((listIndices isJson settings w.entropy directive? seed? limit).logging log, .kept)
  | .scan path seed? limit =>
    (previewFile isJson w.settings w.entropy w.folder path seed? limit, .kept)
  | .config action key? value? =>
    configure w.environment w.settings w.settingsFile (w.folder.entry [w.environment.directory])
      action key? value?

/-- The number of the lowest level whose records are let through. -/
def threshold (i : Invocation) : Nat :=
  if i.isDebug then Level.debug.weight
  else if i.isVerbose then Level.info.weight
  else Level.warning.weight

/-- Runs the program, where the stack has room for everything. -/
def run (w : Workplace) (args : List String) : Outcome × Workplace :=
  match Request.ofArguments args with
  | .version => (.ended Report.successCode versionLine, w)
  | .help => (.ended Report.successCode "", w)
  | .misuse => (.ended Outcome.misuseCode "", w)
  | .run i =>
    let (outcome, change) := perform w i.isJson i.task
    ({ outcome with log := LogRecord.atLeast (threshold i) outcome.log }, w.apply change)

/-! ### Machines -/

/-- What a run takes place on. -/
structure Machine where
  /-- The levels for settings files. -/
  levels : Levels
  /-- The levels for profiles. -/
  room : Yaml.Room
  terminal : Console.Terminal
  /-- There is room for the settings files that the program writes itself. -/
  roomy : levels.Holds 2

namespace Machine

/-- The machine that has room for everything and takes everything. -/
def ample : Machine := ⟨none, .ample, .ample, Levels.holds_none 2⟩

/-- A machine whose stack takes a thousand calls, some of which are taken up by the program itself. A
reader of settings takes one call for a level, and a reader of profiles two for a collection. -/
def usual (terminal : Console.Terminal) : Machine where
  levels := some 950
  room := ⟨some 470, some 930, some 930⟩
  terminal := terminal
  roomy := fun n same => by cases same; decide

variable (m : Machine) (w : Workplace)

/-- The failure to load the settings, if the settings file is nested too deep. -/
def settingsFailure? : Option Failure :=
  (Settings.overflow? m.levels w.settingsFile).map .settings

/-- The failure to read what a preview of the profile at a path reads, if that is nested too deep:
first the profile, and then the settings file if no seed is given. -/
def previewFailure? (path : String) (seed? : Option Int) : Option Failure :=
  let path := Path.ofText path
  match w.folder.find path with
  | .error _ | .ok .absent => none
  | .ok file =>
    match Profile.loadWithin m.room path.text file with
    | .error (.document .tooDeep) => some .profile
    | .error _ => none
    | .ok _ => if seed?.isNone then m.settingsFailure? w else none

/-- The failure to read what a task reads, if that is nested too deep. Configuration tasks load the
settings to show them and to change the value of a key that there is. -/
def failure? : Task → Option Failure
  | .parse _ => none
  | .indexes _ _ _ => m.settingsFailure? w
  | .scan path seed? _ => m.previewFailure? w path seed?
  | .config "show" _ _ => m.settingsFailure? w
  | .config "set" (some key) (some _) =>
    if (Key.ofText? key).isSome then m.settingsFailure? w else none
  | .config _ _ _ => none

/-- What the run leaves, before the terminal has a say. -/
def outcome (args : List String) : Outcome × Workplace :=
  match Request.ofArguments args with
  | .run i =>
    match m.failure? w i.task with
    | some failure => (.broken failure, w)
    | none => run w args
  | _ => run w args

/-- Runs the program on the machine. -/
def run (args : List String) : Ending × Workplace :=
  let (outcome, w) := m.outcome w args
  (outcome.on m.terminal, w)

end Machine

end IndexScan.Command
