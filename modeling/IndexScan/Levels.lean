/-!
Levels: how deep a reader may go that calls itself for what is nested in what it reads. A stack has
room for so many levels and no more.
-/

namespace IndexScan

/-- The levels that there is room for; none if there is room for any number. -/
abbrev Levels := Option Nat

namespace Levels

/-- What is left one level down, if there is room for that level. -/
def inner? : Levels → Option Levels
  | none => some none
  | some 0 => none
  | some (n + 1) => some (some n)

/-- Whether there is room for what is nested so deep. -/
def Holds (levels : Levels) (depth : Nat) : Prop :=
  ∀ n, levels = some n → depth ≤ n

@[simp] theorem inner?_none : inner? none = some none := rfl

@[simp] theorem inner?_zero : inner? (some 0) = none := rfl

@[simp] theorem inner?_succ (n : Nat) : inner? (some (n + 1)) = some (some n) := rfl

theorem holds_none (depth : Nat) : Holds none depth := by
  intro n same
  cases same

theorem Holds.mono {levels : Levels} {shallow deep : Nat} (holds : levels.Holds deep)
    (le : shallow ≤ deep) : levels.Holds shallow :=
  fun n same => Nat.le_trans le (holds n same)

/-- Where there is room for one level more, there is room for the rest inside it. -/
theorem Holds.inner {levels : Levels} {depth : Nat} (holds : levels.Holds (depth + 1)) :
    ∃ inner, levels.inner? = some inner ∧ Holds inner depth := by
  match levels with
  | none => exact ⟨none, rfl, holds_none depth⟩
  | some 0 => exact absurd (holds 0 rfl) (by omega)
  | some (n + 1) =>
    refine ⟨some n, rfl, fun m same => ?_⟩
    have := holds (n + 1) rfl
    cases same
    omega

end Levels

end IndexScan
