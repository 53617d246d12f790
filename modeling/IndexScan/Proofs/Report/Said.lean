import IndexScan.Proofs.Console.Terminals
import IndexScan.Report

/-!
What calls print. A call leaves items for the console, and what comes of them is decided by the
terminal; calls that follow one another print one after the other, as long as none breaks off
(`andThen_printed`, `andThen_failure?`).
-/

namespace IndexScan.Report

open Console

variable {r : Report} {said : Said} {next : Report → Said} {lines shows : List String}

namespace Said

/-- A call does not break off if the terminal takes all its items and nothing else stops it. -/
theorem failureOn?_eq_none_iff {t : Terminal} :
    said.failureOn? t = none ↔ (t.printAll said.items).2 = none ∧ said.broken? = none := by
  rw [failureOn?, Option.or_eq_none_iff, Option.map_eq_none_iff]

theorem failure?_eq_none_iff :
    said.failure? = none ↔ (Terminal.ample.printAll said.items).2 = none ∧ said.broken? = none :=
  failureOn?_eq_none_iff

theorem andThen_of_failure {failure : Failure} (broken : said.failure? = some failure) :
    said.andThen next = said := by
  rw [andThen, broken]

theorem andThen_of_none (unbroken : said.failure? = none) :
    said.andThen next =
      { next said.report with items := said.items ++ (next said.report).items } := by
  rw [andThen, unbroken]

@[simp] theorem silent_andThen : r.silent.andThen next = next r := rfl

theorem andThen_report (unbroken : said.failure? = none) :
    (said.andThen next).report = (next said.report).report := by
  rw [andThen_of_none unbroken]

theorem andThen_failure? (unbroken : said.failure? = none) :
    (said.andThen next).failure? = (next said.report).failure? := by
  have taken := (failure?_eq_none_iff.mp unbroken).1
  rw [andThen_of_none unbroken, failure?, failureOn?, Terminal.printAll_append taken]
  rfl

theorem andThen_printed (unbroken : said.failure? = none) :
    (said.andThen next).printed = said.printed ++ (next said.report).printed := by
  have taken := (failure?_eq_none_iff.mp unbroken).1
  rw [andThen_of_none unbroken, printed, printedOn, Terminal.printAll_append taken]
  rfl

end Said

/-- What a call leaves that writes a text past the console. -/
def writing (r : Report) (cs : List Char) : Said := ⟨r, [.plain (String.ofList cs)], none⟩

@[simp] theorem writing_printed (r : Report) (cs : List Char) :
    (r.writing cs).printed = String.ofList cs := by
  rw [Said.printed, Said.printedOn, writing, Terminal.printAll_plain]

theorem printing_failure? (r : Report) (lines : List String) :
    (r.printing lines).failure? =
      (Terminal.ample.printAll (lines.map .marked)).2.map .console := by
  rw [Said.failure?, Said.failureOn?]
  exact Option.or_none

theorem printing_line {line shown : String} (r : Report) (printed : print line = .ok shown) :
    (r.printing [line]).failure? = none ∧ (r.printing [line]).printed = shown := by
  have all : Terminal.ample.printAll [.marked line] = (shown, none) := by
    rw [Terminal.printAll, Terminal.ample_print_marked, printed]
    exact congrArg (·, none) String.append_empty
  refine ⟨?_, congrArg Prod.fst all⟩
  rw [printing_failure?, List.map_singleton, all]
  rfl

/-- Lines that are printed one by one are printed by a report. -/
theorem printing_of_forall₂ (r : Report) (prints : List.Forall₂ Prints lines shows) :
    (r.printing lines).failure? = none ∧
      (r.printing lines).printed = String.join (shows.map (· ++ "\n")) := by
  have all := Terminal.printAll_of_forall₂ prints
  refine ⟨?_, ?_⟩
  · rw [printing_failure?, all]
    rfl
  · exact congrArg Prod.fst all

end IndexScan.Report
