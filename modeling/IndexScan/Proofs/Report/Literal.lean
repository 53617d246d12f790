import IndexScan.Proofs.Console.Fitting
import IndexScan.Proofs.Console.Stretches
import IndexScan.Proofs.Report.Said

/-!
Messages for a reader. Errors and warnings are escaped before they are printed, which no message
escapes unharmed (`Altered`): a backslash in front of a bracket that opens no tag is lost, the name of
an emoji between colons is replaced, a single backslash at the end is doubled, and spaces at the end
are lost when a line has more characters than cells. Every other message that fits in a line is
printed as it is, and none breaks a report off (`printed_literally_iff`).
-/

namespace IndexScan

namespace Console

open Text Markup

variable {cs tail : List Char} {mark : Char}

/-- A message that is not printed as it stands: between its tags a backslash stands in front of a
bracket or colons enclose the name of an emoji, or it ends in a single backslash, or in a space
behind more characters than a line has cells. -/
def Altered (cs : List Char) : Prop :=
  ¬ AllPlain cs ∨ EndsLone cs ∨ lineWidth < cs.length + 2 ∧ cs.getLast? = some ' '

theorem mem_of_namesEmoji (names : NamesEmoji cs) : ':' ∈ cs := by
  have two := two_le_count_of_namesEmoji names
  exact List.count_pos_iff.mp (by omega)

/-- A short message without colons is not altered if every backslash in it stands in front of
something other than a bracket. -/
theorem not_altered (colon : ':' ∉ cs) (slashed : ¬ Slashed cs) (last : cs.getLast? ≠ some '\\')
    (short : cs.length + 2 ≤ lineWidth) : ¬ Altered cs := by
  rintro (other | ⟨front, rfl, -⟩ | ⟨long, -⟩)
  · apply other
    intro stretch among
    have within : stretch <:+: cs := by
      have whole := stretches_flatten [] cs
      rw [List.reverse_nil, List.nil_append] at whole
      exact whole ▸ List.infix_of_mem_flatten among
    exact ⟨fun inside => slashed (List.IsInfix.trans inside within),
      fun names => colon (within.subset (mem_of_namesEmoji names))⟩
  · exact last List.getLast?_concat
  · omega

/-- A character of one cell that begins the line of a message. -/
structure IsMark (mark : Char) : Prop where
  printable : isPrintable mark = true
  solid : isBlank mark = false
  narrow : cells [mark] ≤ lineWidth
  backslash : mark ≠ '\\'
  bracket : mark ≠ '['
  shown : Markup.shown [mark] = [mark]

/-- The mark of an error. -/
theorem isMark_cross : IsMark '✗' := by
  constructor <;> decide +kernel

/-- The mark of a warning. -/
theorem isMark_sign : IsMark '⚠' := by
  constructor <;> decide +kernel

theorem IsMark.line (isMark : IsMark mark) (printable : Printable cs) :
    Printable (marked mark cs) :=
  List.forall_mem_cons.mpr ⟨isMark.printable,
    List.forall_mem_cons.mpr ⟨by decide +kernel, printable⟩⟩

/-- A line that fits is printed as it is unless it loses spaces at its end. -/
theorem endLines_marked_iff (isMark : IsMark mark) (printable : Printable cs)
    (fits : cells (marked mark cs) ≤ lineWidth) :
    endLines (wrap lineWidth .none .fold (marked mark cs)) = marked mark cs ++ ['\n'] ↔
      ¬ (lineWidth < cs.length + 2 ∧ cs.getLast? = some ' ') := by
  have whole := isMark.line printable
  rw [wrap_of_fits whole (solid_marked isMark.solid cs) fits,
    endLines_eq_iff (calm_of_printable whole), and_iff_left rfl, dropExcessBlanks_eq_self_iff,
    marked, List.length_cons, List.length_cons, not_iff_not]
  refine and_congr_right fun long => ?_
  have last : (mark :: ' ' :: cs).getLast? = cs.getLast? := by
    have filled : cs ≠ [] := by
      rintro rfl
      exact absurd long (by decide)
    exact List.getLast?_append_of_ne_nil [mark, ' '] filled
  rw [last]
  constructor
  · intro blank
    obtain ⟨c, ends, space⟩ := (Option.any_eq_true _ _).mp blank
    rw [ends, eq_space_of_isBlank (printable c (List.mem_of_getLast? ends)) space]
  · intro ends
    rw [ends]
    decide

/-- A message with a single backslash at its end is not printed as it is. -/
theorem endLines_marked_ne_of_lone (isMark : IsMark mark) (printable : Printable cs) :
    endLines (wrap lineWidth .none .fold (marked mark cs ++ ['\\'])) ≠
      marked mark cs ++ ['\n'] := by
  have slash : isBlank '\\' = false := by decide
  have calm := calm_of_printable (isMark.line printable)
  have ends : Printable ['\\'] := by decide +kernel
  have whole := isMark.line (printable.append ends)
  have line : marked mark (cs ++ ['\\']) = marked mark cs ++ ['\\'] := rfl
  intro same
  obtain ⟨first, others, lines, -⟩ := exists_wrap (calm_of_printable whole) lineWidth
  rw [← line, lines, endLines_eq_iff calm] at same
  obtain ⟨rfl, rfl⟩ := same
  -- The second backslash either fits and is printed, or breaks the line.
  by_cases short : cells (marked mark (cs ++ ['\\'])) ≤ lineWidth
  · have kept : dropExcessBlanks lineWidth (marked mark cs ++ ['\\']) = marked mark cs ++ ['\\'] :=
      dropExcessBlanks_eq_self_iff.mpr fun excess => by simp [slash] at excess
    rw [wrap_of_fits whole (solid_marked isMark.solid _) short, line, kept, List.cons.injEq] at lines
    exact absurd lines.1 (by simp)
  · refine wrap_of_long whole isMark.solid isMark.narrow ?_ _ lines
    rw [line, trimRight_of_last slash]
    exact Nat.lt_of_not_le short

/-- What becomes of a message on its line. -/
theorem endLines_displayed_iff (isMark : IsMark mark) (printable : Printable cs)
    (fits : cells (marked mark cs) ≤ lineWidth) (doubles : Doubles cs tail) :
    endLines (wrap lineWidth .none .fold (marked mark (displayed cs) ++ tail)) =
      marked mark cs ++ ['\n'] ↔ ¬ Altered cs := by
  have calm := calm_of_printable printable
  have whole := calm_of_printable (isMark.line printable)
  by_cases plain : AllPlain cs
  · rw [displayed_of_plain calm plain]
    rcases doubles with ⟨lone, rfl⟩ | ⟨many, rfl⟩
    · exact iff_of_false (endLines_marked_ne_of_lone isMark printable)
        fun unaltered => unaltered (.inr (.inl lone))
    · rw [List.append_nil, endLines_marked_iff isMark printable fits]
      simp only [Altered, plain, many, not_true_eq_false, false_or]
  · refine iff_of_false ?_ fun unaltered => unaltered (.inl plain)
    have parts : Parts (marked mark cs) (marked mark (displayed cs) ++ tail) := by
      have behind := ((parts_displayed calm plain).prepend [mark, ' ']).append [] tail
      rwa [List.append_nil] at behind
    have calm' : Calm (marked mark (displayed cs) ++ tail) := by
      have begins : Calm [mark, ' '] :=
        calm_of_printable (isMark.line (List.forall_mem_nil _ : Printable []))
      have ends : Calm tail := by
        rcases doubles with ⟨-, rfl⟩ | ⟨-, rfl⟩
        · exact List.forall_mem_singleton.mpr (by decide)
        · exact List.forall_mem_nil _
      exact List.forall_mem_append.mpr
        ⟨List.forall_mem_append.mpr ⟨begins, displayed_calm calm⟩, ends⟩
    exact endLines_wrap_ne whole calm' parts lineWidth

end Console

namespace Report

open Console Markup

variable {r : Report} {message : String}

/-- An escaped message is printed behind a mark that stands between tags. -/
theorem printing_marked {mark : Char} {word : List Char} (start begins : String)
    (isMark : IsMark mark) (isWord : IsWord word)
    (spells : start.toList = '[' :: (word ++ ']' :: mark :: (closing word ++ [' '])))
    (shows : begins.toList = [mark, ' ']) (printable : Printable message.toList) :
    (r.printing [start ++ literal message]).failure? = none ∧
      (cells (begins ++ message).toList ≤ lineWidth →
        ((r.printing [start ++ literal message]).printed = begins ++ message ++ "\n" ↔
          ¬ Altered message.toList)) := by
  obtain ⟨tail, doubles⟩ := exists_doubles message.toList
  have text : (start ++ literal message).toList =
      '[' :: (word ++ ']' :: mark :: (closing word ++ ' ' :: escape message.toList)) := by
    rw [String.toList_append, spells, literal, String.toList_ofList]
    simp
  have printed : print (start ++ literal message) = .ok (String.ofList (endLines
      (wrap lineWidth .none .fold (marked mark (displayed message.toList) ++ tail)))) := by
    rw [print, text, render_marked isWord isMark.backslash isMark.bracket isMark.shown doubles]
    rfl
  rw [(printing_line r printed).1, (printing_line r printed).2]
  refine ⟨rfl, fun fits => ?_⟩
  have line : (begins ++ message).toList = marked mark message.toList := by
    rw [String.toList_append, shows]
    rfl
  rw [← String.toList_inj, String.toList_ofList, String.toList_append, line]
  rw [line] at fits
  exact endLines_displayed_iff isMark printable fits doubles

/-- No printable message breaks a report off, whether it is an error or a warning, and one that fits
in a line is printed behind its mark exactly as it is unless escaping it does harm. -/
theorem printed_literally_iff (human : r.isJson = false) (printable : Printable message.toList)
    (category? : Option String) (exitCode : Int) :
    ((r.error message category? none exitCode).failure? = none ∧
      (cells ("✗ " ++ message).toList ≤ lineWidth →
        ((r.error message category? none exitCode).printed = "✗ " ++ message ++ "\n" ↔
          ¬ Altered message.toList))) ∧
    (r.warning message category? none).failure? = none ∧
      (cells ("⚠ " ++ message).toList ≤ lineWidth →
        ((r.warning message category? none).printed = "⚠ " ++ message ++ "\n" ↔
          ¬ Altered message.toList)) := by
  have red := isWord_of_mem "red" (by decide)
  have yellow := isWord_of_mem "yellow" (by decide)
  have failed := printing_marked (r := { r with exitCode }.setData "status" (.str "error"))
    "[red]✗[/red] " "✗ " isMark_cross red rfl rfl printable
  have odd := printing_marked (r := r)
    "[yellow]⚠[/yellow] " "⚠ " isMark_sign yellow rfl rfl printable
  rw [error, warning, suggestionLines]
  simp only [setData, human, Bool.false_eq_true, if_false] at failed ⊢
  exact ⟨failed, odd⟩

/-- Tags of either kind and a backslash between words are shown to a reader. -/
theorem printed_literally_tags :
    ((start false).error "[/red] is \\ no [mode]" none none invalidCode).printed =
      "✗ [/red] is \\ no [mode]\n" ∧
    ((start false).warning "[/red] is \\ no [mode]" none none).printed =
      "⚠ [/red] is \\ no [mode]\n" := by
  have unaltered : ¬ Altered "[/red] is \\ no [mode]".toList :=
    not_altered (by decide) (by decide) (by decide) (by decide)
  have printable : Printable "[/red] is \\ no [mode]".toList := by decide +kernel
  have human : (start false).isJson = false := rfl
  obtain ⟨⟨-, failed⟩, -, odd⟩ := printed_literally_iff human printable none invalidCode
  exact ⟨(failed (by decide +kernel)).mpr unaltered, (odd (by decide +kernel)).mpr unaltered⟩

/-- A single backslash at the end of a message is printed twice. -/
theorem printed_doubled :
    Printable "a\\".toList ∧ cells "✗ a\\".toList ≤ lineWidth ∧
    ((start false).error "a\\" none none invalidCode).printed = "✗ a\\\\\n" ∧
    ((start false).error "a\\" none none invalidCode).printed ≠ "✗ a\\\n" ∧
    ((start false).warning "a\\" none none).printed ≠ "⚠ a\\\n" := by
  decide +kernel

end Report

end IndexScan
