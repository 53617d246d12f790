import IndexScan.File
import IndexScan.Log
import IndexScan.Report
import IndexScan.Sequence.Basic
import IndexScan.Settings.Basic
import IndexScan.Yaml.Error

/-!
What a run of a command leaves: what it handed to the console, what it logged, and the failure that
broke it off or the exit code. How it ends is decided on the terminal, which may refuse an item:
nothing follows that, and the exit code is that of a run that breaks off.
-/

namespace IndexScan.Command

/-- Why a run breaks off. -/
inductive Failure where
  | report (failure : Report.Failure)
  /-- More indices are asked for than can be taken at once. -/
  | limit
  | draw (error : DrawError)
  /-- A scalar of a profile that denotes nothing, and is no fault of the profile. -/
  | scalar (bad : Yaml.BadScalar)
  | save (path : String) (error : Settings.SaveError)
  | file (error : FileError)
  /-- The settings file is nested too deep. -/
  | settings (holder : Json.Holder)
  /-- The profile is nested too deep. -/
  | profile
  deriving DecidableEq, Repr

/-- The wording of a failure. -/
def Failure.message : Failure → String
  | report failure => failure.message
  | limit => Sequence.takeRefusal
  | draw error => error.message
  | scalar bad => bad.text
  | save path error => error.message path
  | file error => error.message
  | settings holder => holder.tooDeep
  | profile => Yaml.tooDeepText

/-- What a run leaves: the exit code unless it breaks off, what it handed to the console, why it
breaks off after that if it does, and what it logged. -/
structure Outcome where
  code : Int
  items : List Console.Item
  broken? : Option Failure
  log : List LogRecord

/-- How a run ends on a terminal. -/
structure Ending where
  exitCode : Int
  printed : String
  failure? : Option Failure
  log : List LogRecord
  deriving DecidableEq, Repr

namespace Outcome

/-- The exit code of a run that breaks off. -/
def brokenCode : Int := 1

/-- The exit code of a run without a task. -/
def misuseCode : Int := 2

/-- How the run ends on a terminal. -/
def on (o : Outcome) (t : Console.Terminal) : Ending :=
  let (printed, fault?) := t.printAll o.items
  let failure? := (fault?.map fun fault => Failure.report (.console fault)).or o.broken?
  ⟨if failure?.isSome then brokenCode else o.code, printed, failure?, o.log⟩

/-- The exit code on a terminal that takes everything. -/
def exitCode (o : Outcome) : Int := (o.on .ample).exitCode

/-- What is printed on a terminal that takes everything. -/
def printed (o : Outcome) : String := (o.on .ample).printed

/-- Why the run breaks off even on a terminal that takes everything, if it does. -/
def failure? (o : Outcome) : Option Failure := (o.on .ample).failure?

/-- The outcome of a run that has written a text and ends. -/
def ended (exitCode : Int) (printed : String) : Outcome :=
  ⟨exitCode, [.plain printed], none, []⟩

/-- The outcome of a run that breaks off before it prints anything. -/
def broken (failure : Failure) : Outcome :=
  ⟨brokenCode, [], some failure, []⟩

/-- The outcome of a run that tells of its task in a report. -/
def ofReport (said : Report.Said) : Outcome :=
  let said := said.andThen Report.finish
  ⟨said.report.exitCode, said.items, said.broken?.map .report, []⟩

/-- The outcome of a run that prints lines of marked-up text. -/
def ofLines (exitCode : Int) (lines : List String) : Outcome :=
  ⟨exitCode, lines.map .marked, none, []⟩

/-- The outcome with records logged before all others. -/
def logging (log : List LogRecord) (o : Outcome) : Outcome :=
  { o with log := log ++ o.log }

end Outcome

end IndexScan.Command
