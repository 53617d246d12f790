import IndexScan.Proofs.Json.Strings
import IndexScan.Proofs.Yaml.Cursor
import IndexScan.Yaml.Token.Scalar
import IndexScan.Yaml.Writer

/-!
Scalars between quotes. What the writer puts between single quotes is read as the text that was
written (`scanQuoted_folded`).

The reader takes words, and the gaps between words, in turn; the writer decides about one character
at a time. The two meet in `Reads`, which says what the rest of a quoted scalar is read as: each rule
of it puts one more piece of written text in front.
-/

namespace IndexScan.Yaml

variable {double : Bool} {start : Mark} {rest tail : List Char} {ps : Points}

/-! ### Reading on -/

/-- Goes on reading a quoted scalar, in the middle of a word as well as in front of one. -/
def resumed (double : Bool) (start : Mark) (textFuel fuel : Nat) (c : Cursor) :
    Except Error (Points × Cursor) := do
  let (text, c) ← quotedText double start textFuel c
  if c.peek = (if double then '"' else '\'') then return (text, c.next)
  else
    let (spaces, c) ← quotedSpaces start c
    let (rest, c) ← quotedParts double start fuel c
    return (text ++ spaces ++ rest, c)

theorem quotedParts_succ (fuel : Nat) (c : Cursor) :
    quotedParts double start (fuel + 1) c =
      resumed double start (c.rest.length + 1) fuel c := rfl

/-- What was read before the rest of a scalar stands in front of it. -/
def behind (ps : Points) (reading : Except Error (Points × Cursor)) :
    Except Error (Points × Cursor) :=
  reading.map fun (qs, c) => (ps ++ qs, c)

/-- A piece that is part of a word is read in front of what follows it. -/
theorem resumed_of_text {textFuel textFuel' fuel : Nat} {c c' : Cursor} {found : Points}
    (text : quotedText double start textFuel c =
      behind found (quotedText double start textFuel' c')) :
    resumed double start textFuel fuel c = behind found (resumed double start textFuel' fuel c') := by
  rw [resumed, resumed, text]
  cases quotedText double start textFuel' c' with
  | error e => rfl
  | ok result =>
    obtain ⟨qs, after⟩ := result
    simp only [behind, Except.map, bind, Except.bind]
    generalize (if double then '"' else '\'') = quote
    split_ifs with closed
    · rfl
    · cases quotedSpaces start after with
      | error e => rfl
      | ok gap =>
        simp only
        cases quotedParts double start fuel gap.2 with
        | error e => rfl
        | ok later => simp [pure, Except.pure, List.append_assoc]

/-- `rest`, up to the closing quote, is read as `ps`, and leaves `tail`. -/
def Reads (double : Bool) (start : Mark) (rest : List Char) (ps : Points) (tail : List Char) : Prop :=
  ∀ c textFuel fuel, c.rest = rest → rest.length < textFuel → rest.length ≤ fuel →
    ∃ c', c'.rest = tail ∧ resumed double start textFuel fuel c = .ok (ps, c')

/-- What has been shown of the rest of a scalar is what reading its parts gives. -/
theorem Reads.parts (reads : Reads double start rest ps tail) {c : Cursor} (here : c.rest = rest)
    {fuel : Nat} (enough : rest.length < fuel) :
    ∃ c', c'.rest = tail ∧ quotedParts double start fuel c = .ok (ps, c') := by
  cases fuel with
  | zero => exact absurd enough (Nat.not_lt_zero _)
  | succ fuel =>
    rw [quotedParts_succ, here]
    exact reads c (rest.length + 1) fuel here (Nat.lt_succ_self _) (Nat.le_of_lt_succ enough)

/-- A piece of a word goes in front of the rest if reading it takes the reader there. -/
theorem Reads.piece (reads : Reads double start rest ps tail) (piece : List Char) (found : Points)
    (longer : piece ≠ [])
    (text : ∀ c fuel, c.rest = piece ++ rest → ∃ c' fuel', c'.rest = rest ∧ fuel ≤ fuel' ∧
      quotedText double start (fuel + 1) c = behind found (quotedText double start fuel' c')) :
    Reads double start (piece ++ rest) (found ++ ps) tail := by
  intro c textFuel fuel here enough most
  have positive : 0 < piece.length := List.length_pos_iff.mpr longer
  rw [List.length_append] at enough most
  obtain ⟨textFuel, rfl⟩ : ∃ k, textFuel = k + 1 := ⟨textFuel - 1, by omega⟩
  obtain ⟨c', fuel', there, more, step⟩ := text c textFuel here
  obtain ⟨last, left, whole⟩ := reads c' fuel' fuel there (by omega) (by omega)
  refine ⟨last, left, ?_⟩
  rw [resumed_of_text step, whole]
  rfl

/-! ### Words -/

/-- The closing quote ends the scalar. -/
theorem reads_close (apart : tail.head? ≠ some '\'') :
    Reads double start ((if double then '"' else '\'') :: tail) [] tail := by
  intro c textFuel fuel here enough most
  obtain ⟨textFuel, rfl⟩ : ∃ k, textFuel = k + 1 := ⟨textFuel - 1, by simp at enough; omega⟩
  have peek := c.peek_of_rest here
  have unspanned : c.span isOrdinary = ([], c) := c.span_stop here (by cases double <;> decide)
  have second : c.peekAt 1 ≠ '\'' := by
    rw [c.peekAt_one here]
    cases tail with
    | nil => decide
    | cons d tail => simpa using apart
  refine ⟨c.next, by rw [c.next_rest, here]; rfl, ?_⟩
  have text : quotedText double start (textFuel + 1) c = .ok ([], c) := by
    cases double <;> simp [quotedText, unspanned, peek, second, pointsOf, pure, Except.pure]
  simp [resumed, text, peek, bind, Except.bind, pure, Except.pure]

/-- A word begins with a character that stands for itself if the rest is the rest of the word. -/
theorem quotedText_ordinary {ch : Char} {c : Cursor} (here : c.rest = ch :: rest)
    (ordinary : isOrdinary ch = true) (fuel : Nat) :
    quotedText double start (fuel + 1) c =
      behind [ch.toNat] (quotedText double start (fuel + 1) c.next) := by
  rw [quotedText, quotedText, c.span_cons here ordinary]
  rcases c.next.span isOrdinary with ⟨plain, after⟩
  simp only [behind, pointsOf, List.map_cons, List.cons_append]
  split_ifs
  · cases quotedText double start fuel (after.forward 2) <;> rfl
  · cases quotedText double start fuel after.next <;> rfl
  · cases scanEscape start after.next with
    | error e => rfl
    | ok found =>
      simp only [bind, Except.bind]
      cases quotedText double start fuel found.2 <;> rfl
  · rfl

/-- A character that means nothing between these quotes stands for itself. -/
theorem quotedText_literal {ch : Char} {c : Cursor} (here : c.rest = ch :: rest)
    (literal : (double = true ∧ ch = '\'') ∨ (double = false ∧ (ch = '"' ∨ ch = '\\')))
    (fuel : Nat) :
    quotedText double start (fuel + 1) c =
      behind [ch.toNat] (quotedText double start fuel c.next) := by
  have unspanned : c.span isOrdinary = ([], c) := c.span_stop here (by
    rcases literal with ⟨-, rfl⟩ | ⟨-, rfl | rfl⟩ <;> decide)
  have peek := c.peek_of_rest here
  rcases literal with ⟨rfl, rfl⟩ | ⟨rfl, rfl | rfl⟩ <;>
    simp [quotedText, unspanned, peek, pointsOf, behind, bind, Except.bind, Except.map, pure,
      Except.pure]

/-- A single quote is written twice between single quotes. -/
theorem quotedText_doubled {c : Cursor} (here : c.rest = '\'' :: '\'' :: rest) (fuel : Nat) :
    quotedText false start (fuel + 1) c =
      behind ['\''.toNat] (quotedText false start fuel (c.forward 2)) := by
  have unspanned : c.span isOrdinary = ([], c) := c.span_stop here (by decide)
  have peek := c.peek_of_rest here
  have second : c.peekAt 1 = '\'' := c.peekAt_one here
  simp [quotedText, unspanned, peek, second, pointsOf, behind, bind, Except.bind, Except.map, pure,
    Except.pure]

/-- Between double quotes, a backslash begins an escape. -/
theorem quotedText_escape {c c' : Cursor} {found : Points} (here : c.rest = '\\' :: rest)
    (escape : scanEscape start c.next = .ok (found, c')) (fuel : Nat) :
    quotedText true start (fuel + 1) c = behind found (quotedText true start fuel c') := by
  have unspanned : c.span isOrdinary = ([], c) := c.span_stop here (by decide)
  have peek := c.peek_of_rest here
  simp [quotedText, unspanned, peek, escape, pointsOf, behind, bind, Except.bind, Except.map, pure,
    Except.pure]

theorem reads_ordinary {ch : Char} (ordinary : isOrdinary ch = true)
    (reads : Reads double start rest ps tail) :
    Reads double start (ch :: rest) (ch.toNat :: ps) tail := by
  refine reads.piece [ch] [ch.toNat] (by simp) fun c fuel here => ?_
  exact ⟨c.next, fuel + 1, by rw [c.next_rest, here]; rfl, Nat.le_succ _,
    quotedText_ordinary here ordinary fuel⟩

theorem reads_literal {ch : Char}
    (literal : (double = true ∧ ch = '\'') ∨ (double = false ∧ (ch = '"' ∨ ch = '\\')))
    (reads : Reads double start rest ps tail) :
    Reads double start (ch :: rest) (ch.toNat :: ps) tail := by
  refine reads.piece [ch] [ch.toNat] (by simp) fun c fuel here => ?_
  exact ⟨c.next, fuel, by rw [c.next_rest, here]; rfl, Nat.le_refl _,
    quotedText_literal here literal fuel⟩

theorem reads_doubled (reads : Reads false start rest ps tail) :
    Reads false start ('\'' :: '\'' :: rest) ('\''.toNat :: ps) tail := by
  refine reads.piece ['\'', '\''] ['\''.toNat] (by simp) fun c fuel here => ?_
  exact ⟨c.forward 2, fuel, by rw [c.forward_rest, here]; rfl, Nat.le_refl _,
    quotedText_doubled here fuel⟩

/-- An escape is read where it stands in front of the rest. -/
theorem reads_escape (body : List Char) (found : Points)
    (escape : ∀ c : Cursor, c.rest = body ++ rest →
      ∃ c', c'.rest = rest ∧ scanEscape start c = .ok (found, c'))
    (reads : Reads true start rest ps tail) :
    Reads true start ('\\' :: body ++ rest) (found ++ ps) tail := by
  refine reads.piece ('\\' :: body) found (by simp) fun c fuel here => ?_
  obtain ⟨c', there, scanned⟩ := escape c.next (by rw [c.next_rest, here]; rfl)
  exact ⟨c', fuel, there, Nat.le_refl _, quotedText_escape here scanned fuel⟩

/-! ### Gaps -/

/-- The blanks that may stand between words. -/
def isGapBlank (ch : Char) : Bool :=
  ch == ' ' || ch == '\t'

/-- What follows begins with something other than a blank or a line end. -/
def Solid (rest : List Char) : Prop :=
  ∃ ch more, rest = ch :: more ∧ isGapBlank ch = false ∧ isBreak ch = false

/-- A reader in a gap, behind a line end, goes on so that the whole is read as `ps`. -/
def ReadsGap (double : Bool) (start : Mark) (rest : List Char) (ps : Points) (tail : List Char) :
    Prop :=
  ∀ c gapFuel fuel, c.rest = rest → rest.length < gapFuel → rest.length < fuel →
    ∃ breaks behindGap qs c', quotedBreaks start gapFuel c = .ok (breaks, behindGap) ∧
      quotedParts double start fuel behindGap = .ok (qs, c') ∧ c'.rest = tail ∧
      ps = pointsOf breaks ++ qs

/-- The indentation of a line that goes on is passed over. -/
theorem quotedBreaks_indent {c : Cursor} (here : c.rest = ' ' :: ' ' :: rest) (solid : Solid rest)
    (fuel : Nat) : quotedBreaks start (fuel + 1) c = .ok ([], c.forward 2) := by
  obtain ⟨ch, more, rfl, notBlank, notBreak⟩ := solid
  have run : c.rest = [' ', ' '] ++ ch :: more := here
  have skipped : c.skip (fun ch => ch == ' ' || ch == '\t') = c.forward 2 :=
    c.skip_append run (by simp) notBlank
  have there : (c.forward 2).rest = ch :: more := by rw [c.forward_rest, here]; rfl
  simp [quotedBreaks, c.atSeparator_of_rest here (by decide) (by decide), skipped,
    Cursor.peek_of_rest there, notBreak]

/-- The indentation of a line that goes on ends the gap. -/
theorem gap_indent (reads : Reads double start rest ps tail) (solid : Solid rest) :
    ReadsGap double start (' ' :: ' ' :: rest) ps tail := by
  intro c gapFuel fuel here enough most
  obtain ⟨gapFuel, rfl⟩ : ∃ k, gapFuel = k + 1 := ⟨gapFuel - 1, by omega⟩
  have there : (c.forward 2).rest = rest := by rw [c.forward_rest, here]; rfl
  have shorter : rest.length < fuel := by simp at most; omega
  obtain ⟨c', left, read⟩ := reads.parts there shorter
  exact ⟨[], c.forward 2, ps, c', quotedBreaks_indent here solid gapFuel, read, left, rfl⟩

/-- An empty line is kept as a line feed. -/
theorem quotedBreaks_feed {c behindGap : Cursor} {breaks : List Char} {fuel : Nat}
    (here : c.rest = '\n' :: rest)
    (gap : quotedBreaks start fuel ⟨rest, c.index + 1, c.line + 1, 0⟩ = .ok (breaks, behindGap)) :
    quotedBreaks start (fuel + 1) c = .ok ('\n' :: breaks, behindGap) := by
  have still : c.skip (fun ch => ch == ' ' || ch == '\t') = c := c.skip_stop here (by decide)
  have feed : isBreak '\n' = true := by decide
  simp [quotedBreaks, c.atSeparator_of_rest here (by decide) (by decide), still,
    c.peek_of_rest here, feed, c.lineBreak_of_feed here, gap, bind, Except.bind, pure, Except.pure]

theorem gap_break (gap : ReadsGap double start rest ps tail) :
    ReadsGap double start ('\n' :: rest) ('\n'.toNat :: ps) tail := by
  intro c gapFuel fuel here enough most
  obtain ⟨gapFuel, rfl⟩ : ∃ k, gapFuel = k + 1 := ⟨gapFuel - 1, by omega⟩
  rw [List.length_cons] at enough most
  obtain ⟨breaks, behindGap, qs, c', read, parts, left, rfl⟩ :=
    gap ⟨rest, c.index + 1, c.line + 1, 0⟩ gapFuel fuel rfl (by omega) (by omega)
  exact ⟨'\n' :: breaks, behindGap, qs, c', quotedBreaks_feed here read, parts, left, rfl⟩

/-- Where a word ends and its scalar does not, the reader goes on with a gap. -/
theorem resumed_of_gap {ch : Char} {c : Cursor} (here : c.rest = ch :: rest)
    (ends : ch = ' ' ∨ ch = '\n') (textFuel fuel : Nat) :
    resumed double start (textFuel + 1) fuel c = (do
      let (spaces, c) ← quotedSpaces start c
      let (rest, c) ← quotedParts double start fuel c
      return (spaces ++ rest, c)) := by
  have unspanned : c.span isOrdinary = ([], c) := c.span_stop here (by
    rcases ends with rfl | rfl <;> decide)
  have peek := c.peek_of_rest here
  have text : quotedText double start (textFuel + 1) c = .ok ([], c) := by
    rcases ends with rfl | rfl <;>
      simp [quotedText, unspanned, peek, pointsOf, pure, Except.pure]
  have inside : ¬ c.peek = (if double then '"' else '\'') := by
    rw [peek]
    rcases ends with rfl | rfl <;> cases double <;> decide
  simp only [resumed, text, bind, Except.bind, if_neg inside, List.nil_append]

/-- A line end is read as what its gap comes to. -/
theorem quotedSpaces_feed {c behindGap : Cursor} {breaks : List Char} (here : c.rest = '\n' :: rest)
    (gap : quotedBreaks start (rest.length + 1) ⟨rest, c.index + 1, c.line + 1, 0⟩ =
      .ok (breaks, behindGap)) :
    quotedSpaces start c = .ok (pointsOf (joined ['\n'] breaks), behindGap) := by
  have unspanned : c.span (fun ch => ch == ' ' || ch == '\t') = ([], c) :=
    c.span_stop here (by decide)
  have feed : isBreak '\n' = true := by decide
  simp [quotedSpaces, unspanned, here, c.peek_of_rest here, feed, c.lineBreak_of_feed here, gap,
    bind, Except.bind, pure, Except.pure]

/-- One line end in a gap is read as a space. -/
theorem reads_fold (reads : Reads double start rest ps tail) (solid : Solid rest) :
    Reads double start ('\n' :: ' ' :: ' ' :: rest) (' '.toNat :: ps) tail := by
  intro c textFuel fuel here enough most
  obtain ⟨textFuel, rfl⟩ : ∃ k, textFuel = k + 1 := ⟨textFuel - 1, by omega⟩
  let line : Cursor := ⟨' ' :: ' ' :: rest, c.index + 1, c.line + 1, 0⟩
  have spaces : quotedSpaces start c = .ok (pointsOf [' '], line.forward 2) :=
    quotedSpaces_feed here (quotedBreaks_indent (c := line) rfl solid _)
  have there : (line.forward 2).rest = rest := by rw [Cursor.forward_rest]; rfl
  have shorter : rest.length < fuel := by simp at most; omega
  obtain ⟨c', left, read⟩ := reads.parts there shorter
  refine ⟨c', left, ?_⟩
  rw [resumed_of_gap here (.inr rfl), spaces]
  simp only [bind, Except.bind, read]
  rfl

/-- More line ends in a gap are read as one less. -/
theorem reads_breaks (gap : ReadsGap double start rest ps tail) :
    Reads double start ('\n' :: '\n' :: rest) ('\n'.toNat :: ps) tail := by
  intro c textFuel fuel here enough most
  obtain ⟨textFuel, rfl⟩ : ∃ k, textFuel = k + 1 := ⟨textFuel - 1, by omega⟩
  let line : Cursor := ⟨rest, c.index + 2, c.line + 2, 0⟩
  have shorter : rest.length < fuel := by simp at most; omega
  obtain ⟨breaks, behindGap, qs, c', read, parts, left, rfl⟩ :=
    gap line (rest.length + 1) fuel rfl (Nat.lt_succ_self _) shorter
  refine ⟨c', left, ?_⟩
  have spaces : quotedSpaces start c = .ok (pointsOf (joined ['\n'] ('\n' :: breaks)), behindGap) :=
    quotedSpaces_feed here (quotedBreaks_feed rfl read)
  rw [resumed_of_gap here (.inr rfl), spaces]
  simp only [bind, Except.bind, parts]
  rfl

/-- Blanks within a line are read as they are. -/
theorem reads_blanks (reads : Reads double start rest ps tail) (solid : Solid rest) (n : Nat) :
    Reads double start (List.replicate n ' ' ++ rest) (List.replicate n ' '.toNat ++ ps) tail := by
  cases n with
  | zero => exact reads
  | succ n =>
    intro c textFuel fuel here enough most
    obtain ⟨textFuel, rfl⟩ : ∃ k, textFuel = k + 1 := ⟨textFuel - 1, by omega⟩
    obtain ⟨ch, more, rfl, notBlank, notBreak⟩ := solid
    have blanks : ∀ d ∈ List.replicate (n + 1) ' ', (d == ' ' || d == '\t') = true := by
      intro d mem
      rw [List.eq_of_mem_replicate mem]
      rfl
    have span := c.span_append here blanks notBlank
    rw [List.length_replicate] at span
    have there : (c.forward (n + 1)).rest = ch :: more := by
      rw [c.forward_rest, here, List.drop_append_of_le_length (by simp)]
      simp
    have spaces : quotedSpaces start c =
        .ok (pointsOf (List.replicate (n + 1) ' '), c.forward (n + 1)) := by
      simp [quotedSpaces, span, there, Cursor.peek_of_rest there, notBreak]
    have shorter : (ch :: more).length < fuel := by simp at most ⊢; omega
    obtain ⟨c', left, read⟩ := reads.parts there shorter
    refine ⟨c', left, ?_⟩
    rw [resumed_of_gap here (.inl rfl), spaces]
    simp only [bind, Except.bind, read]
    simp [pointsOf, pure, Except.pure]

/-! ### Lines -/

/-- The rest of a scalar on the line of the reader: blanks, and a word behind them. -/
def ReadsLine (double : Bool) (start : Mark) (rest : List Char) (ps : Points) (tail : List Char) :
    Prop :=
  ∃ n word qs, rest = List.replicate n ' ' ++ word ∧ ps = List.replicate n ' '.toNat ++ qs ∧
    Solid word ∧ Reads double start word qs tail

theorem ReadsLine.reads (line : ReadsLine double start rest ps tail) :
    Reads double start rest ps tail := by
  obtain ⟨n, word, qs, rfl, rfl, solid, reads⟩ := line
  exact reads_blanks reads solid n

theorem ReadsLine.blank (line : ReadsLine double start rest ps tail) :
    ReadsLine double start (' ' :: rest) (' '.toNat :: ps) tail := by
  obtain ⟨n, word, qs, rfl, rfl, solid, reads⟩ := line
  exact ⟨n + 1, word, qs, rfl, rfl, solid, reads⟩

theorem Reads.line (reads : Reads double start rest ps tail) (solid : Solid rest) :
    ReadsLine double start rest ps tail :=
  ⟨0, rest, ps, rfl, rfl, solid, reads⟩

theorem solid_of_flat {ch : Char} (flat : IsFlat ch) (space : ch ≠ ' ') : Solid (ch :: rest) := by
  have tab := flat.ne (d := '\t') (by decide)
  exact ⟨ch, rest, rfl, by simp [isGapBlank, space, tab], flat.isBreak_eq⟩

theorem isOrdinary_of_flat {ch : Char} (flat : IsFlat ch) (space : ch ≠ ' ') (single : ch ≠ '\'')
    (double : ch ≠ '"') (backslash : ch ≠ '\\') : isOrdinary ch = true := by
  simp [isOrdinary, flat.isBlankOrEnd_eq space, single, double, backslash]

/-! ### Single quotes -/

namespace Writer

theorem folded_word {ch : Char} {cs : List Char} {column : Nat} {before : Option Char}
    (space : ch ≠ ' ') (feed : ch ≠ '\n') (single : ch ≠ '\'') :
    folded true column before (ch :: cs) = ch :: folded true (column + 1) (some ch) cs := by
  simp [folded, space, feed, single]

theorem folded_quote {cs : List Char} {column : Nat} {before : Option Char} :
    folded true column before ('\'' :: cs) =
      '\'' :: '\'' :: folded true (column + 2) (some '\'') cs := by
  simp [folded]

theorem folded_feed {cs : List Char} {column : Nat} {before : Option Char} :
    folded true column before ('\n' :: cs) =
      (if before = some '\n' then [] else ['\n']) ++
        '\n' :: ((if cs.head? = some '\n' then [] else indent) ++
          folded true indent.length (some '\n') cs) := by
  simp [folded]

theorem isSimple_cons {ch : Char} {cs : List Char} (simple : isSimple (ch :: cs) = true) :
    (ch = '\n' ∨ IsFlat ch) ∧ isSimple cs = true := by
  simpa [isSimple, IsFlat] using simple

theorem hasSpaceAtBreak_cons {ch : Char} {cs : List Char}
    (tidy : hasSpaceAtBreak (ch :: cs) = false) :
    ((ch = ' ' → cs.head? ≠ some '\n') ∧ (ch = '\n' → cs.head? ≠ some ' ')) ∧
      hasSpaceAtBreak cs = false := by
  cases cs with
  | nil => simp [hasSpaceAtBreak]
  | cons d cs => simpa [hasSpaceAtBreak, and_assoc] using tidy

/-- Folded text does not begin with a blank or a line end where the text does not. -/
theorem folded_solid {ch : Char} {cs : List Char} (column : Nat) (before : Option Char)
    (flat : IsFlat ch) (space : ch ≠ ' ') (rest : List Char) :
    Solid (folded true column before (ch :: cs) ++ rest) := by
  have feed := flat.ne (d := '\n') (by decide)
  by_cases single : ch = '\''
  · subst single
    rw [folded_quote]
    exact solid_of_flat flat space
  · rw [folded_word space feed single]
    exact solid_of_flat flat space

end Writer

/-- What is written between single quotes is read as the text: in the middle of a word, behind a
blank, and in a gap behind a line end. -/
structure ReadsFolded (start : Mark) (tail cs : List Char) : Prop where
  word (column : Nat) (before : Option Char) (fresh : cs.head? = some '\n' → before ≠ some '\n') :
    Reads false start (Writer.folded true column before cs ++ '\'' :: tail) (pointsOf cs) tail
  line (column : Nat) (inside : cs.head? ≠ some '\n') :
    ReadsLine false start (Writer.folded true column (some ' ') cs ++ '\'' :: tail) (pointsOf cs) tail
  gap (column : Nat) (solid : cs.head? ≠ some ' ') :
    ReadsGap false start ((if cs.head? = some '\n' then [] else Writer.indent) ++
      Writer.folded true column (some '\n') cs ++ '\'' :: tail) (pointsOf cs) tail

namespace ReadsFolded

open Writer

variable {cs : List Char}

theorem nil (apart : tail.head? ≠ some '\'') : ReadsFolded start tail [] := by
  have quote : Solid ('\'' :: tail) := solid_of_flat (by decide) (by decide)
  have close : Reads false start ('\'' :: tail) [] tail := reads_close apart
  exact ⟨fun _ _ _ => close, fun _ _ => close.line quote, fun _ _ => gap_indent close quote⟩

/-- The line may end at a space, if a word follows. -/
theorem space (rest : ReadsFolded start tail cs) (simple : isSimple cs = true)
    (next : cs.head? ≠ some '\n') : ReadsFolded start tail (' ' :: cs) where
  word column before _ := by
    rw [folded, if_pos rfl]
    split_ifs with full
    · obtain ⟨-, -, -, nonempty, single⟩ := full
      cases cs with
      | nil => exact absurd rfl nonempty
      | cons d cs =>
        have flat : IsFlat d := (isSimple_cons simple).1.resolve_left (by simpa using next)
        exact reads_fold (rest.word 2 (some ' ') fun _ => by decide)
          (folded_solid 2 (some ' ') flat (by simpa using single) _)
    · exact (rest.line (column + 1) next).blank.reads
  line column _ := by
    rw [folded, if_pos rfl, if_neg (by simp)]
    exact (rest.line (column + 1) next).blank
  gap _ solid := absurd rfl solid

/-- Line feeds are doubled where a gap begins, and only there. -/
theorem feed (rest : ReadsFolded start tail cs) (next : cs.head? ≠ some ' ') :
    ReadsFolded start tail ('\n' :: cs) where
  word column before fresh := by
    have gap := rest.gap indent.length next
    rw [folded_feed, if_neg (fresh rfl)]
    simp only [List.append_assoc, List.cons_append] at gap ⊢
    exact reads_breaks gap
  line _ inside := absurd rfl inside
  gap column _ := by
    have gap := rest.gap indent.length next
    have first : ('\n' :: cs).head? = some '\n' := rfl
    rw [folded_feed, if_pos rfl, if_pos first]
    simp only [List.nil_append, List.append_assoc, List.cons_append] at gap ⊢
    exact gap_break gap

theorem flat {ch : Char} (rest : ReadsFolded start tail cs) (flat : IsFlat ch) (space : ch ≠ ' ') :
    ReadsFolded start tail (ch :: cs) := by
  have feed : ch ≠ '\n' := flat.ne (by decide)
  have reads (column : Nat) (before : Option Char) : Reads false start
      (folded true column before (ch :: cs) ++ '\'' :: tail) (pointsOf (ch :: cs)) tail := by
    have rest (column : Nat) := rest.word column (some ch) fun _ => by simpa using feed
    by_cases single : ch = '\''
    · subst single
      rw [folded_quote]
      exact reads_doubled (rest (column + 2))
    · rw [folded_word space feed single]
      by_cases ordinary : isOrdinary ch = true
      · exact reads_ordinary ordinary (rest (column + 1))
      · refine reads_literal (.inr ⟨rfl, ?_⟩) (rest (column + 1))
        by_contra other
        rw [not_or] at other
        exact ordinary (isOrdinary_of_flat flat space single other.1 other.2)
  have solid (column : Nat) (before : Option Char) :
      Solid (folded true column before (ch :: cs) ++ '\'' :: tail) :=
    folded_solid column before flat space _
  refine ⟨fun column before _ => reads column before,
    fun column _ => (reads column _).line (solid column _), fun column _ => ?_⟩
  rw [if_neg (by simpa using feed)]
  exact gap_indent (reads column _) (solid column _)

end ReadsFolded

/-- The induction is on the text, one character at a time. -/
theorem reads_folded (apart : tail.head? ≠ some '\'') {cs : List Char}
    (simple : Writer.isSimple cs = true) (tidy : Writer.hasSpaceAtBreak cs = false) :
    ReadsFolded start tail cs := by
  induction cs with
  | nil => exact .nil apart
  | cons ch cs ih =>
    obtain ⟨plain, simple'⟩ := Writer.isSimple_cons simple
    obtain ⟨⟨apart, apart'⟩, tidy'⟩ := Writer.hasSpaceAtBreak_cons tidy
    have rest := ih simple' tidy'
    by_cases space : ch = ' '
    · subst space
      exact rest.space simple' (apart rfl)
    · rcases plain with rfl | flat
      · exact rest.feed (apart' rfl)
      · exact rest.flat flat space

/-- A quoted scalar is read from its opening quote. -/
theorem scanQuoted_of_reads {quote : Char} {c : Cursor} (here : c.rest = quote :: rest)
    (reads : Reads double c.mark rest ps tail) :
    ∃ last, scanQuoted double c = .ok (⟨.scalar ps false, c.mark, last.mark⟩, last) ∧
      last.rest = tail := by
  have behind : c.next.rest = rest := by rw [c.next_rest, here]; rfl
  have enough : rest.length < c.rest.length + 1 := by
    rw [here, List.length_cons]
    omega
  obtain ⟨last, left, read⟩ := reads.parts behind enough
  exact ⟨last, by simp [scanQuoted, read, bind, Except.bind, pure, Except.pure], left⟩

/-- A text that can stand between single quotes is read from what is written there. -/
theorem scanQuoted_folded {cs : List Char} (apart : tail.head? ≠ some '\'')
    (allowed : Writer.allowsSingle cs = true) (column : Nat) {c : Cursor}
    (here : c.rest = '\'' :: Writer.folded true column none cs ++ '\'' :: tail) :
    ∃ last, scanQuoted false c = .ok (⟨.scalar (pointsOf cs) false, c.mark, last.mark⟩, last) ∧
      last.rest = tail := by
  rw [Writer.allowsSingle, Bool.and_eq_true, Bool.not_eq_true'] at allowed
  exact scanQuoted_of_reads here
    ((reads_folded apart allowed.1 allowed.2).word column none fun _ => by simp)

end IndexScan.Yaml
