import IndexScan.Proofs.Console.Fitting
import IndexScan.Proofs.Console.Stretches
import IndexScan.Proofs.Json.Numbers

/-!
Lines that are printed exactly. Text that holds no backslash, no bracket and no more than one colon
reads as itself, since no tag begins in it and no two colons enclose the name of an emoji
(`Unmarked.shown`). If it also fits in a line, it is printed as it is (`prints_unmarked`), and a
word as a tag around a part of it changes nothing (`prints_enclosed`). Lines that are printed one by
one are printed together (`Terminal.printAll_of_forall₂`).

Most lines are plain ASCII (`IsTame`), whose cells are its characters.
-/

namespace IndexScan.Console

open Text

variable {cs xs ys text : List Char}

/-! ### Tame text -/

/-- ASCII text that prints, without backslashes and opening brackets. -/
def IsTame (cs : List Char) : Prop :=
  ∀ c ∈ cs, (0x20 ≤ c.toNat ∧ c.toNat < 0x7F) ∧ c ≠ '\\' ∧ c ≠ '['

instance (cs : List Char) : Decidable (IsTame cs) :=
  List.decidableBAll _ cs

namespace IsTame

theorem append (left : IsTame xs) (right : IsTame ys) : IsTame (xs ++ ys) :=
  List.forall_mem_append.mpr ⟨left, right⟩

theorem ordinary (tame : IsTame cs) : Markup.Ordinary cs :=
  fun c mem => (tame c mem).2

theorem ascii (tame : IsTame cs) : ∀ c ∈ cs, 0x20 ≤ c.toNat ∧ c.toNat < 0x7F :=
  fun c mem => (tame c mem).1

theorem printable (tame : IsTame cs) : Printable cs := by
  intro c mem
  obtain ⟨low, high⟩ := tame.ascii c mem
  simp [isPrintable, low, high]

/-- Only spaces are blank. -/
theorem solid (tame : IsTame cs) {c : Char} (mem : c ∈ cs) (other : c ≠ ' ') : Solid cs :=
  ⟨c, mem, Bool.eq_false_iff.mpr fun blank =>
    other (eq_space_of_isBlank (tame.printable c mem) blank)⟩

theorem of_isDigits (digits : ∀ c ∈ cs, c.isDigit = true) : IsTame cs := by
  intro c mem
  have digit := digits c mem
  have code := Char.isDigit_iff_toNat.mp digit
  simp only [Char.reduceToNat] at code
  refine ⟨by omega, ?_, ?_⟩
  · rintro rfl
    exact absurd digit (by decide)
  · rintro rfl
    exact absurd digit (by decide)

end IsTame

/-! ### A line that fits -/

/-- Text that makes one line as it stands: it prints, is not all blank, and has no more characters and
cells than a line. -/
structure Fits (text : List Char) : Prop where
  printable : Printable text
  solid : Solid text
  cells : cells text ≤ lineWidth
  length : text.length ≤ lineWidth

/-- Tame text behind other text takes a cell a character. -/
theorem fits_append (front : Printable xs) (tame : IsTame ys) (solid : Solid (xs ++ ys))
    (narrow : cells xs + ys.length ≤ lineWidth) (short : xs.length + ys.length ≤ lineWidth) :
    Fits (xs ++ ys) where
  printable := front.append tame.printable
  solid := solid
  cells := by rwa [cells_append_ascii (unjoined_of_printable front) tame.ascii]
  length := by rwa [List.length_append]

theorem fits_of_tame (tame : IsTame cs) (solid : Solid cs) (short : cs.length ≤ lineWidth) :
    Fits cs := by
  have none : cells [] = 0 := rfl
  have behind : Fits ([] ++ cs) :=
    fits_append (by simp [Printable]) tame solid (by omega) (by simpa using short)
  exact behind

theorem wrap_of_line (fits : Fits text) : wrap lineWidth .none .fold text = [text] := by
  have kept : dropExcessBlanks lineWidth text = text :=
    dropExcessBlanks_eq_self_iff.mpr fun excess => absurd excess.1 (Nat.not_lt.mpr fits.length)
  rw [wrap_of_fits fits.printable fits.solid fits.cells, kept]

/-- Marked-up text is printed as one line with the given text. -/
def Prints (markup shown : String) : Prop :=
  print markup = .ok (shown ++ "\n")

theorem prints_of_fits {markup : String} (renders : Markup.render markup.toList = .ok text)
    (fits : Fits text) : Prints markup (String.ofList text) := by
  have line : endLines [text] = text ++ ['\n'] := List.append_nil _
  rw [Prints, print, renders, Except.map, wrap_of_line fits, line, String.ofList_append]

namespace Markup

/-! ### What is shown -/

variable {name inner after : List Char} {opened : List (List Char)}

/-- Ordinary characters are read into the text. -/
theorem pieces_ordinary_append (ordinary : Ordinary xs) (position : Nat) (plain rest : List Char) :
    pieces position 0 0 plain (xs ++ rest) =
      pieces (position + xs.length) 0 0 (xs.reverse ++ plain) rest := by
  induction xs generalizing position plain with
  | nil => rfl
  | cons c xs ih =>
    obtain ⟨⟨backslash, bracket⟩, others⟩ := List.forall_mem_cons.mp ordinary
    rw [List.cons_append, pieces_ordinary backslash bracket, ih others, List.length_cons,
      List.reverse_cons, List.append_assoc, Nat.add_right_comm, Nat.add_assoc]
    rfl

theorem interpret_ordinary (ordinary : Ordinary cs) (position : Nat) :
    interpret opened (pieces position 0 0 [] cs) = .ok (shown cs) := by
  have whole := pieces_ordinary_append ordinary position [] []
  rw [List.append_nil, List.append_nil] at whole
  rw [whole, pieces, List.replicate_zero, List.nil_append, List.reverse_reverse,
    ← List.append_nil (Piece.ofText cs), interpret_ofText, interpret, Except.map, List.append_nil]

theorem render_of_ordinary (ordinary : Ordinary cs) : render cs = .ok (shown cs) :=
  interpret_ordinary ordinary 0

/-- A word as a tag around text leaves no trace. -/
theorem render_enclosed (word : IsWord name) (inside : Ordinary inner) (behind : Ordinary after) :
    render ('[' :: (name ++ ']' :: (inner ++ (closing name ++ after)))) =
      .ok (shown inner ++ shown after) := by
  have close : closing name ++ after = '[' :: ('/' :: name ++ ']' :: after) := by simp [closing]
  rw [render, pieces_bracket (word.tag? _), bracketed, if_neg (by decide), word.ofTag,
    pieces_ordinary_append inside, close, pieces_bracket (word.tag?_closing _), bracketed,
    if_neg (by decide), word.ofTag_closing]
  simp only [List.append_assoc, Nat.zero_div, List.replicate_zero, List.reverse_nil,
    List.append_nil, List.reverse_reverse]
  rw [interpret_ofText, interpret_ofText, interpret_opening word, interpret_ofText,
    interpret_ofText, interpret_closing word, interpret_ordinary behind]
  rfl

end Markup

/-! ### Lines that are printed -/

/-- Printable text that reads as itself: without backslashes and opening brackets, and with one colon
at most. -/
structure Unmarked (cs : List Char) : Prop where
  printable : Printable cs
  ordinary : Markup.Ordinary cs
  colons : cs.count ':' ≤ 1

theorem IsTame.unmarked (tame : IsTame cs) (colons : cs.count ':' ≤ 1) : Unmarked cs :=
  ⟨tame.printable, tame.ordinary, colons⟩

theorem Unmarked.shown (unmarked : Unmarked cs) : Markup.shown cs = cs := by
  refine Markup.shown_of_plain (calm_of_printable unmarked.printable)
    ⟨fun slashed => ?_, fun names => ?_⟩
  · exact absurd rfl (unmarked.ordinary '\\' (slashed.subset (by simp))).1
  · have two := Markup.two_le_count_of_namesEmoji names
    have one := unmarked.colons
    omega

/-- Unmarked text that fits is printed as it is. -/
theorem prints_unmarked {text : String} (unmarked : Unmarked text.toList)
    (fits : Fits text.toList) : Prints text text := by
  have renders := Markup.render_of_ordinary unmarked.ordinary
  rw [unmarked.shown] at renders
  have line := prints_of_fits renders fits
  rwa [String.ofList_toList] at line

/-- So is unmarked text with a word as a tag around a part of it, without the tags. -/
theorem prints_enclosed {word markup inner after : String} (mem : word ∈ Markup.words)
    (inside : Unmarked inner.toList) (behind : Unmarked after.toList)
    (fits : Fits (inner ++ after).toList)
    (spells : markup.toList = '[' :: (word.toList ++ ']' ::
      (inner.toList ++ (Markup.closing word.toList ++ after.toList)))) :
    Prints markup (inner ++ after) := by
  have renders := Markup.render_enclosed (Markup.isWord_of_mem word mem) inside.ordinary
    behind.ordinary
  rw [inside.shown, behind.shown, ← spells, ← String.toList_append] at renders
  have line := prints_of_fits renders fits
  rwa [String.ofList_toList] at line

end IndexScan.Console
