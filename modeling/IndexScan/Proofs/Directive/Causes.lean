import IndexScan.Proofs.Directive.Grammar
import IndexScan.Proofs.Text.Figures

/-!
The causes of directive errors. Directives take fewer counts than numerals are spelled with: no
sign, no blank, no underscore and no digit of another script. A count with anything but digits in it
is therefore put before the reader of numerals as well, and when that refuses it too, the refusal is
the cause of the error (`parse_chains`). An error without a cause is told by the count and the
reason alone.
-/

namespace IndexScan

/-- The failure that an error was raised from, if there was one. -/
def DirectiveError.cause? : DirectiveError → Option Numeral.Refusal
  | invalidDigit _ cause => cause
  | tooLarge _ | hardened _ | unrecognized _ => none

namespace Directive

open Decimal

theorem countCause_eq_some_iff {cs : List Char} {refusal : Numeral.Refusal} :
    countCause cs = some refusal ↔ Numeral.read cs = .error refusal := by
  unfold countCause
  cases Numeral.read cs <;> simp

theorem countCause_eq_none_iff {cs : List Char} :
    countCause cs = none ↔ ∃ v, Numeral.read cs = .ok v := by
  unfold countCause
  cases Numeral.read cs <;> simp

/-- The two errors of an unusable count: one for digits that are too many or too large, and one for
everything else, which keeps what the reader of numerals says. -/
theorem readLimit_unusable_cases {cs : List Char} {e : DirectiveError} {count reason : String}
    (failed : readLimit cs = .error e) (carries : e.unusable? = some (count, reason)) :
    IsDigits cs ∧ e = .tooLarge count ∨
      ¬ IsDigits cs ∧ e = .invalidDigit count (countCause cs) := by
  rcases readLimit_cases cs with ⟨-, eq⟩ | ⟨-, n, -, eq⟩ | ⟨-, -, -, eq⟩ | ⟨digits, -, eq⟩ |
    ⟨stray, eq⟩ <;> rw [eq] at failed <;> cases failed
  · cases carries
  · cases carries
    exact .inl ⟨digits, rfl⟩
  · cases carries
    exact .inr ⟨not_isDigits_of_stray stray, rfl⟩

/-- The error of an unusable count carries that count, worded with its reason. It has a cause exactly
when the count is not all digits and writes no numeral, or one that is too long to be read; the cause
is then what the reader of numerals says. Without a cause, count and reason make the error. -/
theorem parse_chains {t count reason : String} {e : DirectiveError} (failed : parse t = .error e)
    (carries : e.unusable? = some (count, reason)) :
    Counts t count.toList ∧
    e.message = DirectiveError.invalidIntegerMessage reason (Quoted.text count) ∧
    (IsDigits count.toList → e.cause? = none ∧ e = .tooLarge count) ∧
    (¬ IsDigits count.toList →
      (∀ refusal, e.cause? = some refusal ↔ Numeral.read count.toList = .error refusal) ∧
      ((∃ refusal, e.cause? = some refusal) ↔
        (∀ negative ds, ¬ Numeral.Writes count.toList negative ds) ∨
          ∃ negative ds, Numeral.Writes count.toList negative ds ∧ 4300 < ds.length) ∧
      (e.cause? = none ↔
        ∃ negative ds, Numeral.Writes count.toList negative ds ∧ ds.length ≤ 4300) ∧
      (e.cause? = none → e = .invalidDigit count none)) := by
  have counts : Counts t count.toList := (parse_unusable_iff.mp ⟨e, failed, carries⟩).1
  have limited : readLimit count.toList = .error e := ((parse_of_counts counts).2 e).mp failed
  refine ⟨counts, DirectiveError.message_of_unusable carries, ?_⟩
  rcases readLimit_unusable_cases limited carries with ⟨digits, rfl⟩ | ⟨stray, rfl⟩
  · exact ⟨fun _ => ⟨rfl, rfl⟩, fun stray => absurd digits stray⟩
  · refine ⟨fun digits => absurd digits stray, fun _ => ⟨fun refusal => ?_, ?_, ?_, ?_⟩⟩
    · exact countCause_eq_some_iff
    · simp only [DirectiveError.cause?, countCause_eq_some_iff]
      exact Numeral.read_error_iff
    · simp only [DirectiveError.cause?, countCause_eq_none_iff]
      exact Numeral.read_accepts_iff
    · intro none
      rw [show countCause count.toList = .none from none]

/-- Blanks, digits of another script and an underscore make a numeral, so that no cause is told; a
sign behind the digits does not. -/
theorem parse_chains_stray :
    (∃ negative ds, Numeral.Writes " ٣_1".toList negative ds ∧ ds.length ≤ 4300) ∧
    ((∀ negative ds, ¬ Numeral.Writes "5-".toList negative ds) ∨
      ∃ negative ds, Numeral.Writes "5-".toList negative ds ∧ 4300 < ds.length) := by
  have numeral : parse "random ٣_1" = .error (.invalidDigit " ٣_1" none) := by decide +kernel
  have refused : parse "first5-" = .error (.invalidDigit "5-" (some .malformed)) := by
    decide +kernel
  have spaced : ¬ IsDigits " ٣_1".toList := fun digits => by simpa using digits.2 ' ' (by simp)
  have signed : ¬ IsDigits "5-".toList := fun digits => by simpa using digits.2 '-' (by simp)
  obtain ⟨-, -, -, chained⟩ := parse_chains numeral rfl
  obtain ⟨-, -, -, chained'⟩ := parse_chains refused rfl
  exact ⟨(chained spaced).2.2.1.mp rfl, (chained' signed).2.1.mp ⟨_, rfl⟩⟩

end Directive
end IndexScan
