import IndexScan.Proofs.Console.Lines
import IndexScan.Text.Printable
import Mathlib.Algebra.Order.Ring.Nat
import Mathlib.Tactic.Common

/-!
Text that fits in a line. In printable text the cells of words add up (`cells_append_word`), so a line
is broken exactly when it does not fit, blanks at its end apart (`breaks_eq_nil_iff`). A line that
fits is printed as it is (`wrap_of_fits`), but for blanks at its end when it has more characters than
cells (`dropExcessBlanks_eq_self_iff`).
-/

namespace IndexScan.Console

open Text Markup

variable {cs xs ys text word : List Char} {c : Char} {last last' : Option Char}
variable {words : List (List Char)} {width start offset : Nat}

/-! ### Printable text -/

/-- Text of printable characters. -/
def Printable (cs : List Char) : Prop :=
  ∀ c ∈ cs, isPrintable c = true

instance (cs : List Char) : Decidable (Printable cs) :=
  List.decidableBAll _ cs

theorem Printable.append (front : Printable xs) (behind : Printable ys) : Printable (xs ++ ys) :=
  List.forall_mem_append.mpr ⟨front, behind⟩

theorem Printable.front (printable : Printable (xs ++ ys)) : Printable xs :=
  (List.forall_mem_append.mp printable).1

theorem Printable.behind (printable : Printable (xs ++ ys)) : Printable ys :=
  (List.forall_mem_append.mp printable).2

theorem not_isPrintable {r : Nat × Nat} (mem : r ∈ unprintableRanges)
    (inside : r.1 ≤ c.toNat ∧ c.toNat ≤ r.2) (outside : c.toNat < 0x20 ∨ 0x7F ≤ c.toNat) :
    isPrintable c = false := by
  have found : inRanges unprintableRanges c = true :=
    List.any_eq_true.mpr ⟨r, mem, by simp [inside]⟩
  simp only [isPrintable, found, Bool.not_true, Bool.or_false, Bool.and_eq_false_iff,
    decide_eq_false_iff_not]
  omega

theorem le_of_isPrintable (printable : isPrintable c = true) : 0x20 ≤ c.toNat := by
  by_contra below
  have control : ((0x0000, 0x001F) : Nat × Nat) ∈ unprintableRanges := by decide +kernel
  rw [not_isPrintable control (by omega) (by omega)] at printable
  cases printable

theorem ne_joiner_of_isPrintable (printable : isPrintable c = true) : c ≠ joiner := by
  rintro rfl
  exact absurd printable (by decide +kernel)

theorem wideBlankRanges_unprintable : ∀ r ∈ wideBlankRanges,
    0x7F ≤ r.1 ∧ ∃ s ∈ unprintableRanges, s.1 ≤ r.1 ∧ r.2 ≤ s.2 := by
  decide +kernel

/-- The only blank that is printable is the space. -/
theorem eq_space_of_isBlank (printable : isPrintable c = true) (blank : isBlank c = true) :
    c = ' ' := by
  have low := le_of_isPrintable printable
  by_cases wide : inRanges wideBlankRanges c = true
  · obtain ⟨r, mem, inside⟩ := List.any_eq_true.mp wide
    rw [Bool.and_eq_true, decide_eq_true_eq, decide_eq_true_eq] at inside
    obtain ⟨high, s, found, left, right⟩ := wideBlankRanges_unprintable r mem
    rw [not_isPrintable found (by omega) (by omega)] at printable
    cases printable
  · simp only [isBlank, isNumeralBlank, wide, Bool.or_eq_true, Bool.and_eq_true, beq_iff_eq,
      decide_eq_true_eq] at blank
    have code : c.toNat = ' '.toNat := by
      change c.toNat = 0x20
      rcases blank with ((space | control) | other) | separator
      · exact space
      · omega
      · cases other
      · omega
    exact Char.toNat_inj.mp code

theorem calm_of_printable (printable : Printable cs) : Calm cs :=
  fun c mem => le_of_isPrintable (printable c mem)

theorem unjoined_of_printable (printable : Printable cs) : joiner ∉ cs :=
  fun mem => ne_joiner_of_isPrintable (printable joiner mem) rfl

/-! ### Cells add up -/

/-- The cells that one character adds. -/
def ownCells (last : Option Char) (c : Char) : Nat :=
  if c = emojiSelector then (if last.any (inRanges widenedRanges) then 1 else 0) else charWidth c

/-- The last character that can still be widened, after one more. -/
def lastAfter (last : Option Char) (c : Char) : Option Char :=
  if c = emojiSelector then none else if charWidth c = 0 then last else some c

theorem cellsAfter_cons (solid : c ≠ joiner) (last : Option Char) (cs : List Char) :
    cellsAfter last (c :: cs) = ownCells last c + cellsAfter (lastAfter last c) cs := by
  cases cs with
  | nil => exact if_neg solid
  | cons d cs =>
    rw [cellsAfter, if_neg solid, ownCells, lastAfter]
    split_ifs <;> rfl

/-- Only whether the last character can be widened matters. -/
theorem cellsAfter_congr (unjoined : joiner ∉ cs)
    (same : last.any (inRanges widenedRanges) = last'.any (inRanges widenedRanges)) :
    cellsAfter last cs = cellsAfter last' cs := by
  induction cs generalizing last last' with
  | nil => rfl
  | cons c cs ih =>
    rw [List.mem_cons, not_or] at unjoined
    rw [cellsAfter_cons (Ne.symm unjoined.1), cellsAfter_cons (Ne.symm unjoined.1), ownCells,
      ownCells, same]
    congr 1
    apply ih unjoined.2
    rw [lastAfter, lastAfter]
    split_ifs
    · rfl
    · exact same
    · rfl

theorem cellsAfter_append (unjoined : joiner ∉ xs) (last : Option Char) (ys : List Char) :
    cellsAfter last (xs ++ ys) = cellsAfter last xs + cellsAfter (xs.foldl lastAfter last) ys := by
  induction xs generalizing last with
  | nil => rw [List.nil_append, cellsAfter, Nat.zero_add, List.foldl_nil]
  | cons c xs ih =>
    rw [List.mem_cons, not_or] at unjoined
    rw [List.cons_append, cellsAfter_cons (Ne.symm unjoined.1), ih unjoined.2,
      cellsAfter_cons (Ne.symm unjoined.1), List.foldl_cons, Nat.add_assoc]

/-- Behind a space, text is measured anew. -/
theorem cells_append_word (printable : Printable xs) (printable' : Printable ys) :
    cells (xs ++ ' ' :: ys) = cells (xs ++ [' ']) + cells ys := by
  have spaced : joiner ∉ xs ++ [' '] :=
    unjoined_of_printable (printable.append (by decide +kernel))
  have behind : (xs ++ [' ']).foldl lastAfter none = some ' ' := by
    rw [List.foldl_append]
    rfl
  have anew : cellsAfter (some ' ') ys = cells ys :=
    cellsAfter_congr (unjoined_of_printable printable') (by decide)
  have apart : xs ++ ' ' :: ys = xs ++ [' '] ++ ys := by simp
  rw [cells, apart, cellsAfter_append spaced, behind, anew]
  rfl

/-- Every character of ASCII that is no control takes a cell. -/
theorem cells_append_ascii (unjoined : joiner ∉ xs)
    (ascii : ∀ c ∈ ys, 0x20 ≤ c.toNat ∧ c.toNat < 0x7F) :
    cells (xs ++ ys) = cells xs + ys.length := by
  have alone (last : Option Char) : cellsAfter last ys = ys.length := by
    induction ys generalizing last with
    | nil => rfl
    | cons c ys ih =>
      obtain ⟨first, later⟩ := List.forall_mem_cons.mp ascii
      have solid : c ≠ joiner := by
        rintro rfl
        exact absurd first.2 (by decide)
      have plain : c ≠ emojiSelector := by
        rintro rfl
        exact absurd first.2 (by decide)
      have one : charWidth c = 1 := if_pos first
      rw [cellsAfter_cons solid, ownCells, if_neg plain, one, ih later, List.length_cons,
        Nat.add_comm]
  rw [cells, cellsAfter_append unjoined, alone]
  rfl

theorem cells_le_append_blanks (printable : Printable (xs ++ ys))
    (blank : ∀ c ∈ ys, isBlank c = true) : cells xs ≤ cells (xs ++ ys) := by
  have spaces : ∀ c ∈ ys, 0x20 ≤ c.toNat ∧ c.toNat < 0x7F := by
    intro c mem
    rw [eq_space_of_isBlank (printable.behind c mem) (blank c mem)]
    decide
  rw [cells_append_ascii (unjoined_of_printable printable.front) spaces]
  omega

/-! ### Blanks at the end -/

/-- A text with a character that is not blank. -/
def Solid (cs : List Char) : Prop :=
  ∃ c ∈ cs, isBlank c = false

theorem trimRight_append (solid : Solid ys) (xs : List Char) :
    trimRight isBlank (xs ++ ys) = xs ++ trimRight isBlank ys := by
  obtain ⟨c, mem, other⟩ := solid
  have stays : (ys.reverse.dropWhile isBlank).isEmpty = false := by
    rw [Bool.eq_false_iff, ne_eq, List.isEmpty_iff, List.dropWhile_eq_nil_iff]
    intro blank
    rw [blank c (List.mem_reverse.mpr mem)] at other
    cases other
  rw [trimRight, List.reverse_append, List.dropWhile_append, stays, if_neg (by decide),
    List.reverse_append, List.reverse_reverse]
  rfl

theorem trimRight_append_blanks (cs : List Char) :
    trimRight isBlank cs ++ (cs.reverse.takeWhile isBlank).reverse = cs := by
  rw [trimRight, ← List.reverse_append, List.takeWhile_append_dropWhile, List.reverse_reverse]

theorem trimRight_of_last (solid : isBlank c = false) (cs : List Char) :
    trimRight isBlank (cs ++ [c]) = cs ++ [c] := by
  rw [trimRight, List.reverse_append, List.reverse_singleton, List.singleton_append,
    List.dropWhile_cons_of_neg (by simp [solid]), List.reverse_cons, List.reverse_reverse]

theorem printable_trimRight (printable : Printable cs) : Printable (trimRight isBlank cs) := by
  rw [← trimRight_append_blanks cs] at printable
  exact printable.front

theorem cells_trimRight_le (printable : Printable cs) :
    cells (trimRight isBlank cs) ≤ cells cs := by
  have whole := trimRight_append_blanks cs
  have blank : ∀ c ∈ (cs.reverse.takeWhile isBlank).reverse, isBlank c = true :=
    fun c mem => List.mem_takeWhile_imp (List.mem_reverse.mp mem)
  have grows := cells_le_append_blanks (whole.symm ▸ printable) blank
  rwa [whole] at grows

/-- The blanks at the end of a line that are left out. -/
def excess (width : Nat) (line : List Char) : Nat :=
  min (line.reverse.takeWhile isBlank).length (line.length - width)

theorem dropExcessBlanks_append (width : Nat) (line : List Char) :
    dropExcessBlanks width line ++ line.drop (line.length - excess width line) = line :=
  List.take_append_drop _ _

theorem isBlank_of_mem_excess (width : Nat) (line : List Char) :
    ∀ c ∈ line.drop (line.length - excess width line), isBlank c = true := by
  intro c mem
  have back : line.drop (line.length - excess width line) =
      (line.reverse.take (excess width line)).reverse := by
    rw [List.reverse_take, List.reverse_reverse, List.length_reverse]
  rw [back, List.mem_reverse] at mem
  have within : line.reverse.take (excess width line) <+: line.reverse.takeWhile isBlank := by
    refine List.prefix_of_prefix_length_le (List.take_prefix _ _) (List.takeWhile_prefix _) ?_
    exact Nat.le_trans (List.length_take_le _ _) (Nat.min_le_left _ _)
  exact List.mem_takeWhile_imp (within.subset mem)

/-- A line keeps all its characters unless it ends in a blank and has more of them than cells. -/
theorem dropExcessBlanks_eq_self_iff {line : List Char} :
    dropExcessBlanks width line = line ↔
      ¬ (width < line.length ∧ line.getLast?.any isBlank = true) := by
  have solid : (line.reverse.takeWhile isBlank).length = 0 ↔
      ¬ line.getLast?.any isBlank = true := by
    rw [← List.head?_reverse]
    cases line.reverse with
    | nil => simp
    | cons c cs =>
      rw [List.takeWhile_cons, List.head?_cons, Option.any_some]
      split <;> simp [*]
  have few : (line.reverse.takeWhile isBlank).length ≤ line.length := by
    rw [← line.length_reverse]
    exact (List.takeWhile_prefix _).length_le
  rw [dropExcessBlanks, List.take_eq_self_iff, not_and, ← solid]
  omega

/-! ### Words -/

/-- The words of a line: each but the last ends in a space. -/
inductive Words : List Char → List (List Char) → Prop
  | last {word : List Char} : Solid word → Words word [word]
  | cons {word rest : List Char} {others : List (List Char)} : Solid word → Words rest others →
      Words (word ++ ' ' :: rest) ((word ++ [' ']) :: others)

theorem Words.solid (spaced : Words text words) : Solid text := by
  cases spaced with
  | last solid => exact solid
  | cons solid _ =>
    obtain ⟨c, mem, other⟩ := solid
    exact ⟨c, List.mem_append_left _ mem, other⟩

/-- Printable text is taken apart into words. -/
theorem words_wordsWithBlanks (word : List Char) (printable : Printable (word.reverse ++ cs))
    (solid : Solid (word.reverse ++ cs)) :
    Words (word.reverse ++ cs) (wordsWithBlanks word cs) := by
  induction cs generalizing word with
  | nil =>
    rw [List.append_nil] at solid ⊢
    have ⟨c, mem, other⟩ := solid
    have notBlank : word.all isBlank = false :=
      List.all_eq_false.mpr ⟨c, List.mem_reverse.mp mem, by simp [other]⟩
    rw [wordsWithBlanks, notBlank, if_neg (by decide)]
    exact .last solid
  | cons c cs ih =>
    rw [wordsWithBlanks]
    split_ifs with ends
    · -- A word ends here, so the text read so far ends in a space.
      rw [Bool.and_eq_true, Bool.and_eq_true, Bool.not_eq_true', Bool.not_eq_true',
        Option.any_eq_true] at ends
      obtain ⟨⟨begins, blank, first, ended⟩, notBlank⟩ := ends
      obtain ⟨front, rfl⟩ := List.head?_eq_some_iff.mp first
      obtain rfl : blank = ' ' := eq_space_of_isBlank (printable blank (by simp)) ended
      have solid' : Solid front.reverse := by
        rw [List.all_cons, ended, Bool.true_and, List.all_eq_false] at notBlank
        obtain ⟨d, mem, other⟩ := notBlank
        exact ⟨d, List.mem_reverse.mpr mem, Bool.not_eq_true _ ▸ other⟩
      rw [List.reverse_cons, List.append_assoc, List.singleton_append]
      exact .cons solid' (ih [c] printable.behind ⟨c, by simp, begins⟩)
    · have shift : word.reverse ++ c :: cs = (c :: word).reverse ++ cs := by simp
      rw [shift] at printable solid ⊢
      exact ih (c :: word) printable solid

/-- A word that has begun to end goes on to the last of its blanks. -/
theorem exists_wordsWithBlanks (printable : Printable cs) (solid : word.all isBlank = false) :
    ∃ n words, wordsWithBlanks (' ' :: word) cs =
      (word.reverse ++ List.replicate (n + 1) ' ') :: words := by
  induction cs generalizing word with
  | nil =>
    refine ⟨0, [], ?_⟩
    rw [wordsWithBlanks, List.all_cons, solid, Bool.and_false, if_neg (by decide),
      List.reverse_cons]
    rfl
  | cons c cs ih =>
    obtain ⟨first, later⟩ := List.forall_mem_cons.mp printable
    by_cases blank : isBlank c = true
    · obtain rfl := eq_space_of_isBlank first blank
      have begun : (' ' :: word).all isBlank = false := by
        rw [List.all_cons, solid, Bool.and_false]
      obtain ⟨n, words, whole⟩ := ih later begun
      refine ⟨n + 1, words, ?_⟩
      rw [wordsWithBlanks, blank, if_neg (by simp), whole, List.reverse_cons, List.append_assoc]
      rfl
    · refine ⟨0, wordsWithBlanks [c] cs, ?_⟩
      rw [wordsWithBlanks, if_pos, List.reverse_cons]
      · rfl
      · simp only [blank, solid, List.head?_cons, Option.any_some, List.all_cons, Bool.and_false,
          Bool.not_false, Bool.and_true]
        decide

/-! ### Folding a long word -/

/-- Characters behind a cluster add their cells to it, or to clusters of their own. -/
theorem sum_clustersAfter (unjoined : joiner ∉ cs) (cluster : Cluster) (found : List Cluster) :
    ((clustersAfter (cluster :: found) last 0 cs).map Prod.snd).sum =
      cluster.2 + (found.map Prod.snd).sum + cellsAfter last cs := by
  induction cs generalizing cluster found last with
  | nil => rfl
  | cons c cs ih =>
    rw [List.mem_cons, not_or] at unjoined
    obtain ⟨solid, later⟩ := unjoined
    rw [clustersAfter, if_neg (Ne.symm solid), cellsAfter_cons (Ne.symm solid), ownCells, lastAfter]
    by_cases selector : c = emojiSelector
    · rw [if_pos selector, if_pos selector, if_pos selector]
      by_cases widens : last.any (inRanges widenedRanges) = true
      · rw [if_pos widens, if_pos widens, ih later]
        omega
      · have narrow : last.any (inRanges widenedRanges) = none.any (inRanges widenedRanges) :=
          Bool.eq_false_iff.mpr widens
        rw [if_neg widens, if_neg widens, ih later, Nat.zero_add, cellsAfter_congr later narrow]
    · rw [if_neg selector, if_neg selector, if_neg selector]
      by_cases mark : charWidth c = 0
      · rw [if_pos mark, if_pos mark, ih later, mark, Nat.zero_add]
      · rw [if_neg mark, if_neg mark, ih later, List.map_cons, List.sum_cons]
        omega

/-- Clusters take the cells of their text. -/
theorem sum_clusters (unjoined : joiner ∉ cs) : ((clusters cs).map Prod.snd).sum = cells cs := by
  have same : (Prod.snd ∘ fun cluster : Cluster => (cluster.1.reverse, cluster.2)) = Prod.snd :=
    rfl
  rw [clusters, List.map_map, same, List.map_reverse, List.sum_reverse]
  cases cs with
  | nil => rfl
  | cons c cs =>
    rw [List.mem_cons, not_or] at unjoined
    obtain ⟨solid, later⟩ := unjoined
    rw [clustersAfter, sum_clustersAfter later, cells, cellsAfter_cons (Ne.symm solid), ownCells,
      lastAfter]
    by_cases selector : c = emojiSelector
    · rw [if_pos (.inr selector), if_pos rfl, if_pos selector, if_pos selector]
      rfl
    · rw [if_neg (not_or.mpr ⟨Ne.symm solid, selector⟩), if_neg selector, if_neg selector]
      rfl

theorem foldClusters_ne_nil {line : List Char} {size : Nat} {found : List Cluster}
    (wide : 0 < size + (found.map Prod.snd).sum) : foldClusters width line size found ≠ [] := by
  induction found generalizing line size with
  | nil =>
    rw [List.map_nil, List.sum_nil, Nat.add_zero] at wide
    rw [foldClusters, if_neg (by omega)]
    exact List.cons_ne_nil _ _
  | cons cluster found ih =>
    rw [foldClusters]
    split_ifs
    · exact List.cons_ne_nil _ _
    · rw [List.map_cons, List.sum_cons] at wide
      exact ih (by omega)

theorem foldCells_ne_nil (unjoined : joiner ∉ cs) (wide : 0 < cells cs) :
    foldCells width cs ≠ [] := by
  apply foldClusters_ne_nil
  rwa [sum_clusters unjoined, Nat.zero_add]

/-- The place where a folded word begins is among its places. -/
theorem mem_foldl_places (pieces : List (List Char)) {found : List Nat} (mem : start ∈ found) :
    start ∈ pieces.foldl
      (fun (found : List Nat) piece => found ++ [found.getLast?.getD start + piece.length])
      found := by
  induction pieces generalizing found with
  | nil => exact mem
  | cons piece pieces ih => exact ih (List.mem_append_left _ mem)

/-! ### Where a line breaks -/

/-- A word that fits is set on the line. -/
theorem breaks_of_fits (fits : offset + cells (trimRight isBlank word) ≤ width)
    (words : List (List Char)) :
    breaks width .fold start offset (word :: words) =
      breaks width .fold (start + word.length) (offset + cells word) words :=
  if_pos fits

/-- A word that does not fit on a line begun breaks it. -/
theorem breaks_ne_nil (printable : Printable word) (begun : 0 < start) (filled : 0 < offset)
    (long : width < offset + cells (trimRight isBlank word)) (words : List (List Char)) :
    breaks width .fold start offset (word :: words) ≠ [] := by
  rw [breaks]
  simp only
  rw [if_neg (by omega)]
  by_cases wide : width < cells (trimRight isBlank word)
  · have short := cells_trimRight_le printable
    have pieces : foldCells width word ≠ [] :=
      foldCells_ne_nil (unjoined_of_printable printable) (by omega)
    rw [if_pos wide, List.isEmpty_eq_false_iff.mpr pieces, if_neg (by decide)]
    -- The first piece of a folded word begins a line of its own.
    intro unbroken
    have place := mem_foldl_places (foldCells width word).dropLast (List.mem_singleton_self start)
    rw [List.append_eq_nil_iff, List.filter_eq_nil_iff] at unbroken
    exact unbroken.1 start place (decide_eq_true begun)
  · rw [if_neg wide, if_pos ⟨filled, begun⟩]
    exact List.cons_ne_nil _ _

/-- Behind a space, what is left when the blanks at the end go is measured anew. -/
theorem cells_trimRight_append (solid : Solid ys) (printable : Printable (xs ++ ' ' :: ys)) :
    cells (trimRight isBlank (xs ++ ' ' :: ys)) =
      cells (xs ++ [' ']) + cells (trimRight isBlank ys) := by
  have behind : Printable ys := (List.forall_mem_cons.mp printable.behind).2
  rw [List.append_cons, trimRight_append solid, ← List.append_cons]
  exact cells_append_word printable.front (printable_trimRight behind)

theorem cells_append_space (printable : Printable xs) : cells (xs ++ [' ']) = cells xs + 1 :=
  cells_append_ascii (unjoined_of_printable printable) (List.forall_mem_singleton.mpr (by decide))

/-- A line begun is broken exactly when what is to come does not fit, blanks at its end apart. -/
theorem breaks_eq_nil_iff (spaced : Words text words) (printable : Printable text)
    (begun : 0 < start) (filled : 0 < offset) :
    breaks width .fold start offset words = [] ↔
      offset + cells (trimRight isBlank text) ≤ width := by
  induction spaced generalizing start offset with
  | @last word solid =>
    by_cases fits : offset + cells (trimRight isBlank word) ≤ width
    · rw [breaks_of_fits fits]
      exact iff_of_true rfl fits
    · exact iff_of_false (breaks_ne_nil printable begun filled (by omega) []) fits
  | @cons word rest others solid later ih =>
    -- The word ends in a space, so what follows is measured from where the word ends.
    have front : Printable (word ++ [' ']) := by
      rw [List.append_cons] at printable
      exact printable.front
    have behind : Printable rest := (List.forall_mem_cons.mp printable.behind).2
    have total := cells_trimRight_append later.solid printable
    have short := cells_trimRight_le front
    by_cases fits : offset + cells (trimRight isBlank (word ++ [' '])) ≤ width
    · rw [breaks_of_fits fits, ih behind (by omega) (by omega), total, Nat.add_assoc]
    · exact iff_of_false (breaks_ne_nil front begun filled (by omega) _) (by omega)

/-- A line whose first word fits is broken exactly when it does not fit. -/
theorem breaks_first (spaced : Words text (word :: words)) (printable : Printable text)
    (fits : cells (trimRight isBlank word) ≤ width) :
    breaks width .fold 0 0 (word :: words) = [] ↔ cells (trimRight isBlank text) ≤ width := by
  rw [breaks_of_fits (by rwa [Nat.zero_add]), Nat.zero_add, Nat.zero_add]
  cases spaced with
  | last _ => exact iff_of_true rfl fits
  | @cons front rest _ _ later =>
    have behind : Printable rest := (List.forall_mem_cons.mp printable.behind).2
    have begun : 0 < (front ++ [' ']).length := by simp
    have filled : 0 < cells (front ++ [' ']) := by
      rw [cells_append_space printable.front]
      exact Nat.succ_pos _
    rw [breaks_eq_nil_iff later behind begun filled, cells_trimRight_append later.solid printable]

/-- A line that fits is not broken: its first word fits, too. -/
theorem breaks_of_fitting (spaced : Words text words) (printable : Printable text)
    (fits : cells (trimRight isBlank text) ≤ width) : breaks width .fold 0 0 words = [] := by
  cases spaced with
  | last solid => exact (breaks_first (.last solid) printable fits).mpr fits
  | @cons word rest others solid later =>
    have front : Printable (word ++ [' ']) := by
      rw [List.append_cons] at printable
      exact printable.front
    have total := cells_trimRight_append later.solid printable
    have shorter := cells_trimRight_le front
    exact (breaks_first (.cons solid later) printable (by omega)).mpr fits

/-- A line that fits is printed as it is, but for excess blanks at its end. -/
theorem wrap_of_fits (printable : Printable text) (solid : Solid text)
    (fits : cells text ≤ width) :
    wrap width .none .fold text = [dropExcessBlanks width text] := by
  have trimmed := Nat.le_trans (cells_trimRight_le printable) fits
  have whole := dropExcessBlanks_append width text
  have shorter := cells_le_append_blanks (whole.symm ▸ printable) (isBlank_of_mem_excess width text)
  rw [whole] at shorter
  rw [wrap_of_calm (calm_of_printable printable),
    breaks_of_fitting (words_wordsWithBlanks [] printable solid) printable trimmed, cutAt,
    List.map_singleton, setLine, truncate, if_pos (Nat.le_trans shorter fits)]

/-! ### A line behind a mark -/

section Marked

variable {mark : Char}

/-- A line that a mark begins. -/
def marked (mark : Char) (cs : List Char) : List Char :=
  mark :: ' ' :: cs

theorem solid_marked (solid : isBlank mark = false) (cs : List Char) : Solid (marked mark cs) :=
  ⟨mark, List.mem_cons_self, solid⟩

/-- A line that a mark begins is broken exactly when it does not fit, blanks at its end apart. -/
theorem breaks_marked (printable : Printable (marked mark cs)) (solid : isBlank mark = false)
    (narrow : cells [mark] ≤ width) :
    breaks width .fold 0 0 (wordsWithBlanks [] (marked mark cs)) = [] ↔
      cells (trimRight isBlank (marked mark cs)) ≤ width := by
  have spaced : Words (marked mark cs) (wordsWithBlanks [] (marked mark cs)) :=
    words_wordsWithBlanks [] printable (solid_marked solid cs)
  have behind : Printable cs := (List.forall_mem_cons.mp (List.forall_mem_cons.mp printable).2).2
  have begun : [mark].all isBlank = false := by
    rw [List.all_cons, solid, Bool.false_and]
  obtain ⟨n, words, first⟩ := exists_wordsWithBlanks behind begun
  have begins : wordsWithBlanks [] (marked mark cs) =
      ([mark] ++ List.replicate (n + 1) ' ') :: words := by
    rw [marked, wordsWithBlanks, if_neg (by simp), wordsWithBlanks, if_neg (by simp), first]
    rfl
  have alone : trimRight isBlank ([mark] ++ List.replicate (n + 1) ' ') = [mark] := by
    have blank : ∀ c ∈ (List.replicate (n + 1) ' ').reverse, isBlank c = true := by
      intro c mem
      rw [List.eq_of_mem_replicate (List.mem_reverse.mp mem)]
      decide
    rw [trimRight, List.reverse_append, List.dropWhile_append_of_pos blank]
    exact trimRight_of_last solid []
  rw [begins] at spaced ⊢
  exact breaks_first spaced printable (alone.symm ▸ narrow)

/-- A line that does not fit, even without the blanks at its end, is not printed as one. -/
theorem wrap_of_long (printable : Printable (marked mark cs)) (solid : isBlank mark = false)
    (narrow : cells [mark] ≤ width) (long : width < cells (trimRight isBlank (marked mark cs)))
    (line : List Char) : wrap width .none .fold (marked mark cs) ≠ [line] := by
  obtain ⟨first, others, lines, -, single⟩ := exists_wrap (calm_of_printable printable) width
  have broken : others ≠ [] := by
    rw [ne_eq, single, breaks_marked printable solid narrow]
    omega
  intro same
  rw [lines, List.cons.injEq] at same
  exact broken same.2

end Marked

end IndexScan.Console
