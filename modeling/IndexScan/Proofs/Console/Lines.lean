import IndexScan.Console.Basic
import IndexScan.Proofs.Console.Shown
import Mathlib.Data.List.Infix
import Mathlib.Data.List.TakeWhile

/-!
The lines of printed text. A text without controls is one line before it is broken
(`wrap_of_calm`), and its first line begins as the text does, whatever becomes of the rest
(`exists_wrap`); only a space can take the place of a character that is cut in half. So a text whose
begin parts from another is not printed as the other (`endLines_wrap_ne`).
-/

namespace IndexScan.Console

open Text Markup

variable {cs ds text line : List Char} {c : Char} {width : Nat}

/-! ### A line that begins a text -/

/-- A line holds the begin of a text, up to a space that stands for a character cut in half. -/
def Begins (line text : List Char) : Prop :=
  line <+: text ∨ ∃ front, front <+: text ∧ line = front ++ [' ']

theorem Begins.refl (text : List Char) : Begins text text :=
  .inl (List.prefix_refl text)

theorem Begins.extend (begins : Begins line cs) (within : cs <+: ds) : Begins line ds := by
  rcases begins with whole | ⟨front, whole, rfl⟩
  · exact .inl (whole.trans within)
  · exact .inr ⟨front, whole.trans within, rfl⟩

theorem Begins.prepend (begins : Begins line text) (xs : List Char) :
    Begins (xs ++ line) (xs ++ text) := by
  rcases begins with whole | ⟨front, whole, rfl⟩
  · exact .inl ((List.prefix_append_right_inj xs).mpr whole)
  · exact .inr ⟨xs ++ front, (List.prefix_append_right_inj xs).mpr whole,
      (List.append_assoc ..).symm⟩

/-- A text that parts from another begins no line of it: where they part stands no space. -/
theorem not_begins_of_parts (parts : Parts text ds) : ¬ Begins text ds := by
  rintro (whole | ⟨front, whole, same⟩)
  · exact parts.not_within whole
  obtain ⟨shared, c, d, rest, other, rfl, rfl, differ, solid⟩ := parts
  have early : shared ++ [c] <+: front := by
    have ends : shared ++ c :: rest <+: front ++ [' '] := same ▸ List.prefix_refl _
    have start : shared ++ [c] <+: front ++ [' '] :=
      ((List.prefix_append_right_inj shared).mpr ⟨rest, rfl⟩).trans ends
    rcases List.prefix_concat_iff.mp start with all | early
    · exact absurd (List.append_inj' all rfl).2 (by simpa using solid)
    · exact early
  have clash := (List.prefix_append_right_inj shared).mp (early.trans whole)
  exact differ (List.cons_prefix_cons.mp clash).1

/-! ### Cutting a line -/

/-- The characters of clusters, which come last one first throughout. -/
def unclustered (found : List Cluster) : List Char :=
  (found.reverse.map fun cluster => cluster.1.reverse).flatten

theorem unclustered_cons (cluster : Cluster) (found : List Cluster) :
    unclustered (cluster :: found) = unclustered found ++ cluster.1.reverse := by
  simp [unclustered]

/-- Clusters keep every character. -/
theorem unclustered_clustersAfter (found : List Cluster) (last : Option Char) (skip : Nat)
    (cs : List Char) :
    unclustered (clustersAfter found last skip cs) = unclustered found ++ cs := by
  induction cs generalizing found last skip with
  | nil => rw [clustersAfter, List.append_nil]
  | cons c rest ih =>
    rcases found with _ | ⟨⟨joined, size⟩, found⟩
    · rw [clustersAfter, ih, unclustered_cons]
      rfl
    · have joins (size' : Nat) : unclustered ((c :: joined, size') :: found) ++ rest =
          unclustered ((joined, size) :: found) ++ c :: rest := by
        rw [unclustered_cons, unclustered_cons, List.reverse_cons]
        simp only [List.append_assoc, List.singleton_append]
      cases skip with
      | succ skip =>
        rw [clustersAfter, ih]
        exact joins size
      | zero =>
        rw [clustersAfter]
        split_ifs
        on_goal 5 => rw [ih, unclustered_cons, List.append_assoc]; rfl
        all_goals rw [ih]; exact joins _

theorem clusters_flatten (cs : List Char) : ((clusters cs).map Prod.fst).flatten = cs := by
  have kept := unclustered_clustersAfter [] none 0 cs
  rw [unclustered] at kept
  rw [clusters, List.map_map]
  exact kept

theorem begins_takeCells (total : Nat) (found : List Cluster) :
    Begins (takeCells total found) (found.map Prod.fst).flatten := by
  induction found generalizing total with
  | nil => exact Begins.refl []
  | cons cluster found ih =>
    rw [takeCells, List.map_cons, List.flatten_cons]
    split_ifs
    · exact .inl List.nil_prefix
    · exact (ih _).prepend cluster.1
    · exact .inr ⟨[], List.nil_prefix, rfl⟩

theorem begins_truncate (width : Nat) (line : List Char) :
    Begins (truncate width .fold line) line := by
  by_cases fits : cells line ≤ width
  · rw [truncate, if_pos fits]
    exact Begins.refl line
  · have cut := begins_takeCells width (clusters line)
    rw [clusters_flatten] at cut
    rw [truncate, if_neg fits]
    simp only [setCells]
    rwa [if_neg (by omega), if_neg (by omega)]

theorem dropExcessBlanks_within (width : Nat) (line : List Char) :
    dropExcessBlanks width line <+: line :=
  List.take_prefix _ _

/-! ### The lines of a text -/

theorem not_mem_of_calm (calm : Calm cs) {control : Char} (low : control.toNat < 0x20) :
    control ∉ cs := by
  intro mem
  have above := calm control mem
  omega

theorem pieces_go_of_not_mem {mark : Char} (absent : mark ∉ cs) (piece : List Char) :
    pieces.go mark piece cs = [piece.reverse ++ cs] := by
  induction cs generalizing piece with
  | nil => simp [pieces.go]
  | cons c cs ih =>
    rw [List.mem_cons, not_or] at absent
    rw [pieces.go, if_neg (Ne.symm absent.1), ih absent.2]
    simp

/-- How a line is printed. -/
def setLine (width : Nat) (line : List Char) : List Char :=
  truncate width .fold (dropExcessBlanks width line)

theorem begins_setLine (width : Nat) (line : List Char) : Begins (setLine width line) line :=
  (begins_truncate width _).extend (dropExcessBlanks_within width line)

/-- Text without controls is only broken between its words. -/
theorem wrap_of_calm (calm : Calm text) (width : Nat) :
    wrap width .none .fold text =
      (cutAt 0 text (breaks width .fold 0 0 (wordsWithBlanks [] text))).map (setLine width) := by
  have whole : pieces '\n' text = [text] :=
    pieces_go_of_not_mem (not_mem_of_calm calm (by decide)) []
  have noTab : text.contains '\t' = false := by
    rw [List.contains_eq_mem]
    exact decide_eq_false (not_mem_of_calm calm (by decide))
  rw [wrap, whole, List.flatMap_singleton, noTab]
  rfl

/-- The first line begins the text, and it is the only one when nothing breaks the text. -/
theorem exists_wrap (calm : Calm text) (width : Nat) :
    ∃ first others, wrap width .none .fold text = first :: others ∧ Begins first text ∧
      (others = [] ↔ breaks width .fold 0 0 (wordsWithBlanks [] text) = []) := by
  rw [wrap_of_calm calm]
  cases breaks width .fold 0 0 (wordsWithBlanks [] text) with
  | nil => exact ⟨setLine width text, [], rfl, begins_setLine width text, by simp⟩
  | cons place places =>
    refine ⟨_, _, rfl, (begins_setLine width _).extend (List.take_prefix _ _), ?_⟩
    cases places <;> simp [cutAt]

/-! ### What is printed -/

/-- Lines that end in one line end are a single line. -/
theorem endLines_eq_iff (calm : Calm text) {first : List Char} {others : List (List Char)} :
    endLines (first :: others) = text ++ ['\n'] ↔ first = text ∧ others = [] := by
  have apart : endLines (first :: others) = first ++ '\n' :: endLines others := by
    simp [endLines]
  have none : endLines others = [] ↔ others = [] := by
    cases others <;> simp [endLines]
  rw [apart, eq_comm, List.append_cons_inj_of_notMem (not_mem_of_calm calm (by decide))
    List.not_mem_nil, eq_comm, and_iff_right rfl, eq_comm (a := []), none]

/-- What parts from a text is not printed as the text. -/
theorem endLines_wrap_ne (calm : Calm text) (calm' : Calm ds) (parts : Parts text ds)
    (width : Nat) : endLines (wrap width .none .fold ds) ≠ text ++ ['\n'] := by
  obtain ⟨first, others, lines, begins, -⟩ := exists_wrap calm' width
  intro same
  rw [lines, endLines_eq_iff calm] at same
  exact not_begins_of_parts parts (same.1 ▸ begins)

end IndexScan.Console
