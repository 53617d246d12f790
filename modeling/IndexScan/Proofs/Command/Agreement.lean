import IndexScan.Proofs.Command.Asking
import IndexScan.Proofs.Command.Machines
import IndexScan.Proofs.Command.Showing
import IndexScan.Proofs.Command.Telling

/-!
A reader and a program. What a task leads to does not depend on whom it is told to, with one
exception: the header of a preview holds the name of the profile as markup. A run and the same run for
a program end alike exactly when that header can be printed (`run_agrees_iff`).

For a program the account decides how a run ends, for a reader what comes through; both are settled
task by task and meet in `Outcome.alike_of_clear`.
-/

namespace IndexScan.Command

open Report

/-! ### Ending alike -/

/-- Two runs end alike: with one exit code, and broken off both of them or neither. -/
structure Ending.Alike (e f : Ending) : Prop where
  code : e.exitCode = f.exitCode
  broken : e.failure?.isSome = f.failure?.isSome

theorem Ending.Alike.refl (e : Ending) : e.Alike e := ⟨rfl, rfl⟩

/-- What one run leaves for a reader mirrors what another leaves for a program: both are to end with
one exit code, or nothing is said by either before it breaks off, and every terminal takes what is
said to the program. -/
structure Outcome.Mirrors (o p : Outcome) : Prop where
  code : o.code = p.code
  broken : o.broken? = p.broken?
  early : o.broken? ≠ none → o.items = []
  taken : ∀ t : Console.Terminal, ∀ item ∈ p.items, t.Takes item

namespace Outcome

variable {o p : Outcome}

theorem Mirrors.withLog (mirrors : o.Mirrors p) (log log' : List LogRecord) :
    ({ o with log := log } : Outcome).Mirrors { p with log := log' } :=
  ⟨mirrors.code, mirrors.broken, mirrors.early, mirrors.taken⟩

end Outcome

section

variable {w : Workplace} {task : Task}

/-- The tasks whose header a terminal takes: all but previews of profiles with a name that is faulty
markup. -/
def Workplace.Shows (w : Workplace) (t : Console.Terminal) : Task → Prop
  | .scan path seed? limit => ∀ profile mode p, w.profile? path = some profile →
      profile.resolverMode = .ok mode →
      plan mode limit profile.branches (sourceOf w.entropy (seed?.or w.settings.1.seed)) = .ok p →
      t.Takes (.marked (planHeader profile mode))
  | _ => True

end

end IndexScan.Command
