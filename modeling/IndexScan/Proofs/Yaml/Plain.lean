import IndexScan.Proofs.Yaml.Quoted

/-!
Plain scalars. What the writer writes without quotes is read as the text (`scanPlain_folded`), and so
is a word in front of a colon (`scanPlain_word`). As between quotes, the rest of a scalar is described
by what it is read as (`ReadsPlain`), one character at a time.
-/

namespace IndexScan.Yaml

open Writer

variable {rest tail cs : List Char} {c : Cursor} {indent : Int}

/-! ### Reading on -/

/-- Goes on reading a plain scalar, in the middle of a word as well as in front of one. -/
def resumedPlain (indent : Int) (fuel : Nat) (c : Cursor) : PlainText × Cursor :=
  let length := plainLength false c.rest
  let behindWord := c.forward length
  let (gap, broken, after) := plainSpaces behindWord
  let ending : PlainText := ⟨[], behindWord.mark, broken⟩
  let (later, last) :=
    if gap.isEmpty ∨ after.peek = '#' ∨ after.column < indent then (ending, after)
    else scanPlainParts false indent gap ending fuel after
  ({ later with text := c.rest.take length ++ later.text }, last)

/-- `rest` begins with a word of a plain scalar. -/
def BeginsWord (rest : List Char) : Prop :=
  ∃ ch more, rest = ch :: more ∧ isBlankOrEnd ch = false ∧ ch ≠ '#' ∧
    (ch = ':' → isBlankOrEnd (more.headD endMark) = false)

/-- A character of a word, which is followed by the rest of the word. -/
theorem plainLength_cons {ch : Char} (inside : isBlankOrEnd ch = false)
    (colon : ch = ':' → isBlankOrEnd (rest.headD endMark) = false) :
    plainLength false (ch :: rest) = plainLength false rest + 1 := by
  have open_ : ¬ (ch = ':' ∧ isBlankOrEnd (rest.headD endMark) = true) := fun ⟨same, blank⟩ => by
    rw [colon same] at blank
    cases blank
  simp only [List.headD_eq_head?_getD] at open_
  simp [plainLength, inside, open_]

theorem plainLength_blank {ch : Char} (blank : isBlankOrEnd ch = true) :
    plainLength false (ch :: rest) = 0 := by
  simp [plainLength, blank]

/-- In front of a word, reading the parts of a scalar is reading on. -/
theorem scanPlainParts_word (word : BeginsWord c.rest) (spaces : List Char) (ending : PlainText)
    (fuel : Nat) :
    scanPlainParts false indent spaces ending (fuel + 1) c =
      ({ (resumedPlain indent fuel c).1 with
          text := spaces ++ (resumedPlain indent fuel c).1.text },
        (resumedPlain indent fuel c).2) := by
  obtain ⟨ch, more, here, inside, sharp, colon⟩ := word
  have long : plainLength false c.rest ≠ 0 := by
    rw [here, plainLength_cons inside colon]
    exact Nat.succ_ne_zero _
  have peek : c.peek ≠ '#' := by rwa [c.peek_of_rest here]
  rw [scanPlainParts, if_neg (by simp [peek, long])]
  simp [resumedPlain, List.append_assoc]

/-- `rest` is read as `cs` up to the end of its line, behind which `tail` follows. -/
def ReadsPlain (rest cs tail : List Char) : Prop :=
  ∀ (c : Cursor) (fuel : Nat), c.rest = rest → rest.length ≤ fuel →
    ∃ stop last, resumedPlain 1 fuel c = (⟨cs, stop, true⟩, last) ∧
      last.rest = tail ∧ last.column = 0 ∧ c.line < last.line

/-- No gap is ahead: `rest` does not begin with a blank, a comment or a line end. -/
def NoGap (rest : List Char) : Prop :=
  ∀ ch more, rest = ch :: more → ch ≠ ' ' ∧ ch ≠ '#' ∧ isBreak ch = false ∧ ch.toNat ≠ 0xFEFF

theorem noGap_cons {ch : Char} (flat : IsFlat ch) (space : ch ≠ ' ') (sharp : ch ≠ '#') :
    NoGap (ch :: rest) := by
  intro d more same
  cases same
  refine ⟨space, sharp, flat.isBreak_eq, ?_⟩
  obtain ⟨-, most⟩ := flat
  omega

/-- `tail` begins a line that does not go on with a plain scalar. -/
def BeginsLine (tail : List Char) : Prop :=
  NoGap tail ∧ ∀ c : Cursor, c.rest = tail → c.atSeparator = false

/-! ### Words -/

theorem resumedPlain_cons {ch : Char} (here : c.rest = ch :: rest)
    (inside : isBlankOrEnd ch = false)
    (colon : ch = ':' → isBlankOrEnd (rest.headD endMark) = false) (fuel : Nat) :
    resumedPlain indent fuel c =
      ({ (resumedPlain indent fuel c.next).1 with
          text := ch :: (resumedPlain indent fuel c.next).1.text },
        (resumedPlain indent fuel c.next).2) := by
  have behind : c.next.rest = rest := by rw [c.next_rest, here]; rfl
  simp only [resumedPlain, here, behind, plainLength_cons inside colon, Cursor.forward,
    List.take_succ_cons, List.cons_append]

theorem readsPlain_cons {ch : Char} (flat : IsFlat ch) (space : ch ≠ ' ')
    (colon : ch = ':' → isBlankOrEnd (rest.headD endMark) = false)
    (reads : ReadsPlain rest cs tail) : ReadsPlain (ch :: rest) (ch :: cs) tail := by
  intro c fuel here enough
  rw [List.length_cons] at enough
  have next := c.next_of_flat here flat
  obtain ⟨stop, last, read, left, column, line⟩ := reads c.next fuel (by rw [next]) (by omega)
  rw [resumedPlain_cons here (flat.isBlankOrEnd_eq space) colon, read]
  rw [next] at line
  exact ⟨stop, last, rfl, left, column, line⟩

theorem beginsWord_cons {ch : Char} (flat : IsFlat ch) (space : ch ≠ ' ') (sharp : ch ≠ '#')
    (colon : ch = ':' → isBlankOrEnd (rest.headD endMark) = false) : BeginsWord (ch :: rest) :=
  ⟨ch, rest, rfl, flat.isBlankOrEnd_eq space, sharp, colon⟩

/-! ### Gaps -/

/-- Where the rest of a scalar begins with a gap, nothing of a word is left. -/
theorem resumedPlain_gap {ch : Char} (here : c.rest = ch :: rest) (blank : isBlankOrEnd ch = true)
    {gap : List Char} {broken : Bool} {after : Cursor} (spaces : plainSpaces c = (gap, broken, after))
    (fuel : Nat) :
    resumedPlain indent fuel c =
      if gap.isEmpty ∨ after.peek = '#' ∨ after.column < indent then (⟨[], c.mark, broken⟩, after)
      else scanPlainParts false indent gap ⟨[], c.mark, broken⟩ fuel after := by
  have none : plainLength false c.rest = 0 := by rw [here, plainLength_blank blank]
  simp only [resumedPlain, none, Cursor.forward, spaces, List.take_zero, List.nil_append]

/-- A gap in front of a word stands in front of it. -/
theorem readsPlain_gap (ch : Char) (gap : List Char) {ahead : List Char}
    (blank : isBlankOrEnd ch = true) (nonempty : gap ≠ []) (shorter : rest.length ≤ ahead.length)
    (spaces : ∀ c : Cursor, c.rest = ch :: ahead → ∃ broken after,
      plainSpaces c = (gap, broken, after) ∧ after.rest = rest ∧ c.line ≤ after.line ∧
        1 ≤ after.column)
    (reads : ReadsPlain rest cs tail) (word : BeginsWord rest) :
    ReadsPlain (ch :: ahead) (gap ++ cs) tail := by
  intro c fuel here enough
  rw [List.length_cons] at enough
  obtain ⟨fuel, rfl⟩ : ∃ k, fuel = k + 1 := ⟨fuel - 1, by omega⟩
  obtain ⟨broken, after, split, there, line, column⟩ := spaces c here
  have sharp : after.peek ≠ '#' := by
    obtain ⟨d, more, rfl, -, sharp, -⟩ := word
    rwa [after.peek_of_rest there]
  obtain ⟨stop, last, read, left, first, further⟩ := reads after fuel there (by omega)
  refine ⟨stop, last, ?_, left, first, by omega⟩
  have stay : ¬ (gap.isEmpty = true ∨ after.peek = '#' ∨ (after.column : Int) < 1) := by
    rw [List.isEmpty_iff]
    rintro (empty | sharp' | left)
    · exact nonempty empty
    · exact sharp sharp'
    · omega
  rw [resumedPlain_gap here blank split, if_neg stay,
    scanPlainParts_word (there.symm ▸ word), read]

theorem BeginsWord.solid (word : BeginsWord rest) :
    ∃ ch more, rest = ch :: more ∧ ch ≠ ' ' ∧ isBreak ch = false := by
  obtain ⟨ch, more, rfl, inside, -⟩ := word
  refine ⟨ch, more, rfl, ?_, ?_⟩
  · rintro rfl
    exact absurd inside (by decide)
  · simp only [isBlankOrEnd, isSpaceOrEnd, isBreakOrEnd, Bool.or_eq_false_iff] at inside
    exact inside.2.2.2

theorem readsPlain_spaces (n : Nat) (reads : ReadsPlain rest cs tail) (word : BeginsWord rest) :
    ReadsPlain (List.replicate n ' ' ++ rest) (List.replicate n ' ' ++ cs) tail := by
  cases n with
  | zero => exact reads
  | succ n =>
    refine readsPlain_gap ' ' (List.replicate (n + 1) ' ') (by decide) (by simp)
      (by simp) (fun c here => ?_) reads word
    obtain ⟨ch, more, rfl, space, inside⟩ := word.solid
    have run : c.rest = List.replicate (n + 1) ' ' ++ ch :: more := here
    have span := c.span_append (p := (· == ' ')) run (by simp) (by simpa using space)
    have flat : ∀ d ∈ List.replicate (n + 1) ' ', IsFlat d := by
      intro d mem
      rw [List.eq_of_mem_replicate mem]
      decide
    rw [c.forward_of_flat run flat, List.length_replicate] at span
    let after : Cursor := ⟨ch :: more, c.index + (n + 1), c.line, c.column + (n + 1)⟩
    have stays : ¬ isBreak after.peek = true := by
      rw [Cursor.peek_of_rest (c := after) rfl, inside]
      decide
    refine ⟨false, after, ?_, rfl, Nat.le_refl _, Nat.le_add_left 1 _⟩
    rw [plainSpaces, span]
    exact if_neg stays

/-- The line break ahead ends the line. -/
theorem plainSpaces_feed (here : c.rest = '\n' :: rest)
    (line : ∀ d : Cursor, d.rest = rest → d.atSeparator = false) {empty : List Char} {after : Cursor}
    (breaks : plainBreaks (rest.length + 1) ⟨rest, c.index + 1, c.line + 1, 0⟩ =
      (some empty, after)) :
    plainSpaces c = (joined ['\n'] empty, true, after) := by
  have unspanned : c.span (· == ' ') = ([], c) := c.span_stop here (by decide)
  have feed : isBreak '\n' = true := by decide
  have apart := line ⟨rest, c.index + 1, c.line + 1, 0⟩ rfl
  simp [plainSpaces, unspanned, c.peek_of_rest here, feed, c.lineBreak_of_feed here, apart, breaks]

/-- A line end and the indentation behind it are read as a space. -/
theorem readsPlain_fold (reads : ReadsPlain rest cs tail) (word : BeginsWord rest) :
    ReadsPlain ('\n' :: ' ' :: ' ' :: rest) (' ' :: cs) tail := by
  refine readsPlain_gap '\n' [' '] (by decide) (by simp)
    (Nat.le_add_right _ 2) (fun c here => ?_) reads word
  obtain ⟨ch, more, rfl, space, inside⟩ := word.solid
  let line : Cursor := ⟨' ' :: ' ' :: ch :: more, c.index + 1, c.line + 1, 0⟩
  have first : line.next = ⟨' ' :: ch :: more, c.index + 2, c.line + 1, 1⟩ :=
    line.next_of_flat rfl (by decide)
  have second : line.next.next = ⟨ch :: more, c.index + 3, c.line + 1, 2⟩ := by
    rw [first]
    exact Cursor.next_of_flat rfl (by decide)
  have breaks : plainBreaks (line.rest.length + 1) line = (some [], line.next.next) := by
    have peek : line.next.next.peek = ch := Cursor.peek_of_rest (by rw [second])
    have word : plainBreaks (more.length + 2) line.next.next = (some [], line.next.next) := by
      rw [plainBreaks, peek, if_neg space, if_neg (by simp [inside])]
    rw [← word, first]
    rfl
  refine ⟨true, line.next.next, ?_, by rw [second], by rw [second]; exact Nat.le_succ _,
    by rw [second]; exact Nat.le_succ 1⟩
  exact plainSpaces_feed here
    (fun d there => d.atSeparator_of_rest there (by decide) (by decide)) breaks

/-- A line end in front of a line that does not go on with the scalar ends it. -/
theorem readsPlain_end (fresh : BeginsLine tail) : ReadsPlain ('\n' :: tail) [] tail := by
  intro c fuel here enough
  let line : Cursor := ⟨tail, c.index + 1, c.line + 1, 0⟩
  obtain ⟨begins, apart⟩ := fresh
  have peek : line.peek ≠ ' ' ∧ isBreak line.peek = false := by
    cases tail with
    | nil =>
      rw [Cursor.peek_of_end (c := line) rfl]
      decide
    | cons ch tail =>
      obtain ⟨space, -, inside, -⟩ := begins ch tail rfl
      rw [Cursor.peek_of_rest (c := line) rfl]
      exact ⟨space, inside⟩
  have breaks : plainBreaks (line.rest.length + 1) line = (some [], line) := by
    rw [plainBreaks, if_neg peek.1, if_neg (by simp [peek.2])]
  have spaces := plainSpaces_feed here apart breaks
  refine ⟨c.mark, line, ?_, rfl, rfl, Nat.lt_succ_self _⟩
  rw [resumedPlain_gap here (by decide) spaces, if_pos (.inr (.inr Int.one_pos))]

/-! ### Lines -/

/-- The rest of a scalar on the line of the reader: blanks, and a word behind them. -/
def ReadsPlainLine (rest cs tail : List Char) : Prop :=
  ∃ n word ds, rest = List.replicate n ' ' ++ word ∧ cs = List.replicate n ' ' ++ ds ∧
    BeginsWord word ∧ ReadsPlain word ds tail

theorem ReadsPlainLine.reads (line : ReadsPlainLine rest cs tail) : ReadsPlain rest cs tail := by
  obtain ⟨n, word, ds, rfl, rfl, begins, reads⟩ := line
  exact readsPlain_spaces n reads begins

theorem ReadsPlainLine.blank (line : ReadsPlainLine rest cs tail) :
    ReadsPlainLine (' ' :: rest) (' ' :: cs) tail := by
  obtain ⟨n, word, ds, rfl, rfl, begins, reads⟩ := line
  exact ⟨n + 1, word, ds, rfl, rfl, begins, reads⟩

theorem ReadsPlain.line (reads : ReadsPlain rest cs tail) (word : BeginsWord rest) :
    ReadsPlainLine rest cs tail :=
  ⟨0, rest, cs, rfl, rfl, word, reads⟩

/-! ### Texts without quotes -/

/-- The rest of a text that can be written as it is, behind the character `before`. -/
structure PlainRest (before : Char) (cs : List Char) : Prop where
  flat : ∀ ch ∈ cs, IsFlat ch
  ends : cs.getLast? ≠ some ' '
  clear : holdsIndicator (before :: cs) = false

section PlainRest

variable {before ch : Char}

theorem PlainRest.next (plain : PlainRest before (ch :: cs)) : PlainRest ch cs where
  flat d mem := plain.flat d (List.mem_cons_of_mem _ mem)
  ends := by
    have ends := plain.ends
    cases cs with
    | nil => simp
    | cons d cs => simpa using ends
  clear := by
    have clear := plain.clear
    simp only [holdsIndicator, Bool.or_eq_false_iff] at clear
    exact clear.2

/-- No word ends in a colon. -/
theorem PlainRest.colon (plain : PlainRest before (ch :: cs)) (colon : ch = ':') :
    ∃ d ds, cs = d :: ds ∧ IsFlat d ∧ d ≠ ' ' := by
  have clear := plain.clear
  simp only [holdsIndicator, Bool.or_eq_false_iff, colon, beq_self_eq_true, Bool.true_and] at clear
  cases cs with
  | nil => cases clear.1.1
  | cons d ds =>
    simp only [endsWord, Bool.or_eq_false_iff, beq_eq_false_iff_ne] at clear
    exact ⟨d, ds, rfl, plain.next.flat d (by simp), clear.1.1.1⟩

/-- No word begins with a number sign. -/
theorem PlainRest.sharp (plain : PlainRest ' ' (ch :: cs)) : ch ≠ '#' := by
  rintro rfl
  simpa [holdsIndicator, endsWord] using plain.clear

/-- The text does not end in a blank. -/
theorem PlainRest.nonempty (plain : PlainRest before (' ' :: cs)) : cs ≠ [] := by
  rintro rfl
  exact plain.ends rfl

theorem folded_plain (space : ch ≠ ' ') (feed : ch ≠ '\n') (column : Nat) (before : Option Char) :
    folded false column before (ch :: cs) = ch :: folded false (column + 1) (some ch) cs := by
  simp [folded, space, feed]

/-- Folding does not part a colon from its word. -/
theorem PlainRest.folded_colon (plain : PlainRest before (ch :: cs)) (colon : ch = ':')
    (column : Nat) (front : Option Char) :
    isBlankOrEnd ((folded false column front cs ++ rest).headD endMark) = false := by
  obtain ⟨d, ds, rfl, flat, space⟩ := plain.colon colon
  rw [folded_plain space (flat.ne (by decide))]
  exact flat.isBlankOrEnd_eq space

/-- Behind a blank, a word begins. -/
theorem PlainRest.folded_word (plain : PlainRest ' ' (ch :: cs)) (space : ch ≠ ' ') (column : Nat)
    (front : Option Char) : BeginsWord (folded false column front (ch :: cs) ++ rest) := by
  have flat := plain.flat ch (by simp)
  rw [folded_plain space (flat.ne (by decide))]
  exact beginsWord_cons flat space plain.sharp fun colon => plain.folded_colon colon _ _

end PlainRest

/-- What is written without quotes is read as the text: in the middle of a word, and behind a blank.
The induction is on the text, one character at a time. -/
theorem readsPlain_folded (fresh : BeginsLine tail) {before : Char} (plain : PlainRest before cs)
    (column : Nat) :
    (∀ front, ReadsPlain (folded false column front cs ++ '\n' :: tail) cs tail) ∧
    (before = ' ' → cs ≠ [] →
      ReadsPlainLine (folded false column (some ' ') cs ++ '\n' :: tail) cs tail) := by
  induction cs generalizing before column with
  | nil => exact ⟨fun _ => readsPlain_end fresh, fun _ nonempty => absurd rfl nonempty⟩
  | cons ch cs ih =>
    have ih := ih plain.next
    by_cases space : ch = ' '
    · subst space
      have line (column : Nat) := ((ih column).2 rfl plain.nonempty).blank
      refine ⟨fun front => ?_, fun _ _ => ?_⟩
      · rw [folded, if_pos rfl]
        split_ifs with full
        · obtain ⟨-, -, -, nonempty, single⟩ := full
          cases cs with
          | nil => exact absurd rfl nonempty
          | cons d cs =>
            exact readsPlain_fold ((ih 2).1 (some ' '))
              (plain.next.folded_word (by simpa using single) _ _)
        · exact (line (column + 1)).reads
      · rw [folded, if_pos rfl, if_neg (by simp)]
        exact line (column + 1)
    · have flat := plain.flat ch (by simp)
      have reads (front : Option Char) :
          ReadsPlain (folded false column front (ch :: cs) ++ '\n' :: tail) (ch :: cs) tail := by
        rw [folded_plain space (flat.ne (by decide))]
        exact readsPlain_cons flat space (fun colon => plain.folded_colon colon _ _)
          ((ih (column + 1)).1 _)
      refine ⟨reads, fun blank _ => ?_⟩
      subst blank
      exact (reads _).line (plain.folded_word space _ _)

/-! ### Starts -/

/-- The characters with which no plain scalar begins. -/
def plainIndicators : List Char :=
  ['#', ',', '[', ']', '\x7b', '\x7d', '&', '*', '!', '|', '>', '\'', '"', '%', '@', '\x60']

/-- A plain scalar begins with `rest`. -/
def BeginsPlain (rest : List Char) : Prop :=
  ∃ ch more, rest = ch :: more ∧ IsFlat ch ∧ ch ≠ ' ' ∧ ch ∉ plainIndicators ∧
    ((ch = '?' ∨ ch = ':' ∨ ch = '-') → isBlankOrEnd (more.headD endMark) = false)

theorem BeginsPlain.word (begins : BeginsPlain rest) : BeginsWord rest := by
  obtain ⟨ch, more, rfl, flat, space, other, apart⟩ := begins
  apply beginsWord_cons flat space
  · rintro rfl
    exact other (by decide)
  · intro colon
    exact apart (.inr (.inl colon))

theorem BeginsPlain.noGap (begins : BeginsPlain rest) : NoGap rest := by
  obtain ⟨ch, more, rfl, flat, space, other, -⟩ := begins
  apply noGap_cons flat space
  rintro rfl
  exact other (by decide)

/-- A plain scalar is read from where it begins. -/
theorem scanPlain_of_reads (begins : BeginsPlain c.rest) (reads : ReadsPlain c.rest cs tail) :
    ∃ stop last, scanPlain false 0 c = (⟨.scalar (pointsOf cs) true, c.mark, stop⟩, true, last) ∧
      last.rest = tail ∧ last.column = 0 ∧ c.line < last.line := by
  obtain ⟨stop, last, read, left, column, line⟩ := reads c c.rest.length rfl (Nat.le_refl _)
  refine ⟨stop, last, ?_, left, column, line⟩
  simp only [scanPlain, Int.zero_add, scanPlainParts_word begins.word, read, List.nil_append]

theorem allowsPlain_iff : allowsPlain cs = true ↔
    isSimple cs = true ∧ '\n' ∉ cs ∧ cs.head? ≠ some ' ' ∧ cs.getLast? ≠ some ' ' ∧
      beginsAsIndicator cs = false ∧ holdsIndicator cs = false ∧
      Tag.ofPlain (pointsOf cs) = .str := by
  simp [allowsPlain, pointsOf, and_assoc]

theorem not_mem_of_beginsAsIndicator {ch : Char} (begins : beginsAsIndicator (ch :: cs) = false) :
    ch ∉ plainIndicators ∧ ((ch = '?' ∨ ch = ':' ∨ ch = '-') → endsWord cs = false) := by
  simp only [beginsAsIndicator, Bool.or_eq_false_iff] at begins
  have other : plainIndicators.contains ch = false := begins.1.1.1
  refine ⟨by simpa using other, fun indicator => ?_⟩
  have ends := begins.1.1.2
  rcases indicator with rfl | rfl | rfl <;> simpa using ends

/-- A text that can be written as it is is the rest of one behind any character. -/
theorem plainRest_of_allowsPlain (allowed : allowsPlain cs = true) (before : Char) :
    PlainRest before cs := by
  obtain ⟨simple, inline, -, ends, begins, clear, -⟩ := allowsPlain_iff.mp allowed
  refine ⟨fun ch mem => ?_, ends, ?_⟩
  · have flat := List.all_eq_true.mp simple ch mem
    have feed : ch ≠ '\n' := by
      rintro rfl
      exact inline mem
    simpa [feed, IsFlat] using flat
  · cases cs with
    | nil => rfl
    | cons ch cs =>
      obtain ⟨other, apart⟩ := not_mem_of_beginsAsIndicator begins
      have sharp : (ch == '#') = false := by
        rw [beq_eq_false_iff_ne]
        rintro rfl
        exact other (by decide)
      have colon : (ch == ':' && endsWord cs) = false := by
        by_cases same : ch = ':'
        · simp [apart (.inr (.inl same))]
        · simp [same]
      simp [holdsIndicator, sharp, colon, clear]

/-- A text that can be written as it is begins as a plain scalar does. -/
theorem beginsPlain_folded (allowed : allowsPlain cs = true) (column : Nat) :
    BeginsPlain (folded false column none cs ++ rest) := by
  have plain := plainRest_of_allowsPlain allowed ' '
  obtain ⟨-, -, first, -, begins, -, typed⟩ := allowsPlain_iff.mp allowed
  cases cs with
  | nil => exact absurd typed (by decide)
  | cons ch cs =>
    have space : ch ≠ ' ' := by simpa using first
    have flat := plain.flat ch (by simp)
    obtain ⟨other, apart⟩ := not_mem_of_beginsAsIndicator begins
    rw [folded_plain space (flat.ne (by decide))]
    refine ⟨ch, _, rfl, flat, space, other, fun indicator => ?_⟩
    have goes := apart indicator
    cases cs with
    | nil => cases goes
    | cons d ds =>
      simp only [endsWord, Bool.or_eq_false_iff, beq_eq_false_iff_ne] at goes
      rw [folded_plain goes.1 goes.2]
      exact (plain.next.flat d (by simp)).isBlankOrEnd_eq goes.1

/-! ### Words of letters and digits -/

/-- Letters and digits, one or more. -/
def IsWord (cs : List Char) : Prop :=
  cs ≠ [] ∧ ∀ ch ∈ cs, ch.isAlphanum = true

theorem isAlphanum_of_mem_plainIndicators : ∀ d ∈ plainIndicators, d.isAlphanum = false := by
  simp [plainIndicators]

/-- What lies between flat characters is flat. -/
theorem isFlat_between {first last ch : Char} (low : IsFlat first) (high : IsFlat last)
    (bounds : first.val ≤ ch.val ∧ ch.val ≤ last.val) : IsFlat ch :=
  ⟨Nat.le_trans low.1 (UInt32.le_iff_toNat_le.mp bounds.1),
    Nat.le_trans (UInt32.le_iff_toNat_le.mp bounds.2) high.2⟩

theorem isFlat_of_isAlphanum {ch : Char} (letter : ch.isAlphanum = true) : IsFlat ch := by
  have kinds : (ch.isUpper = true ∨ ch.isLower = true) ∨ ch.isDigit = true := by
    simpa only [Bool.or_eq_true] using
      show (ch.isUpper || ch.isLower || ch.isDigit) = true from letter
  rcases kinds with (upper | lower) | digit
  · exact isFlat_between (by decide : IsFlat 'A') (by decide : IsFlat 'Z') (of_decide_eq_true upper)
  · exact isFlat_between (by decide : IsFlat 'a') (by decide : IsFlat 'z')
      ((Bool.and_eq_true_iff.mp lower).imp of_decide_eq_true of_decide_eq_true)
  · exact isFlat_between (by decide : IsFlat '0') (by decide : IsFlat '9')
      ((Bool.and_eq_true_iff.mp digit).imp of_decide_eq_true of_decide_eq_true)

/-- A letter or a digit prints, and means nothing on its own. -/
theorem flat_of_isAlphanum {ch : Char} (letter : ch.isAlphanum = true) :
    IsFlat ch ∧ ch ≠ ' ' ∧ ch ∉ plainIndicators ∧ ch ≠ '?' ∧ ch ≠ ':' ∧ ch ≠ '-' ∧ ch ≠ '.' := by
  have ne (d : Char) (other : d.isAlphanum = false) : ch ≠ d := by
    rintro rfl
    rw [letter] at other
    cases other
  exact ⟨isFlat_of_isAlphanum letter, ne _ rfl,
    fun mem => ne ch (isAlphanum_of_mem_plainIndicators ch mem) rfl, ne _ rfl, ne _ rfl, ne _ rfl,
    ne _ rfl⟩

theorem IsWord.begins (word : IsWord cs) : BeginsPlain (cs ++ rest) := by
  obtain ⟨nonempty, letters⟩ := word
  cases cs with
  | nil => exact absurd rfl nonempty
  | cons ch cs =>
    obtain ⟨flat, space, other, question, colon, dash, -⟩ := flat_of_isAlphanum (letters ch (by simp))
    exact ⟨ch, cs ++ rest, rfl, flat, space, other, by simp [question, colon, dash]⟩

/-- A word that fills the rest of its line is read as itself. -/
theorem readsPlain_word (fresh : BeginsLine tail) (letters : ∀ ch ∈ cs, ch.isAlphanum = true) :
    ReadsPlain (cs ++ '\n' :: tail) cs tail := by
  induction cs with
  | nil => exact readsPlain_end fresh
  | cons ch cs ih =>
    obtain ⟨flat, space, -, -, colon, -⟩ := flat_of_isAlphanum (letters ch (by simp))
    exact readsPlain_cons flat space (fun same => absurd same colon)
      (ih fun d mem => letters d (by simp [mem]))

/-- A word in front of a colon is read up to the colon. -/
theorem resumedPlain_word (indent : Int) (letters : ∀ ch ∈ cs, ch.isAlphanum = true)
    (apart : isBlankOrEnd (rest.headD endMark) = true) (here : c.rest = cs ++ ':' :: rest)
    (fuel : Nat) :
    ∃ stop, resumedPlain indent fuel c = (⟨cs, stop, false⟩,
      ⟨':' :: rest, c.index + cs.length, c.line, c.column + cs.length⟩) := by
  induction cs generalizing c with
  | nil =>
    have none : plainLength false c.rest = 0 := by
      rw [here]
      simp only [List.headD_eq_head?_getD] at apart
      simp [plainLength, apart]
    have spaces : plainSpaces c = ([], false, c) := by
      have unspanned : c.span (· == ' ') = ([], c) := c.span_stop here (by decide)
      have stays : isBreak ':' = false := by decide
      simp [plainSpaces, unspanned, c.peek_of_rest here, stays]
    refine ⟨c.mark, ?_⟩
    cases c
    cases here
    simp [resumedPlain, none, Cursor.forward, spaces]
  | cons ch cs ih =>
    obtain ⟨flat, space, -, -, colon, -⟩ := flat_of_isAlphanum (letters ch (by simp))
    have next := c.next_of_flat here flat
    obtain ⟨stop, read⟩ := ih (c := c.next) (fun d mem => letters d (by simp [mem]))
      (by rw [next]; rfl)
    refine ⟨stop, ?_⟩
    rw [resumedPlain_cons here (flat.isBlankOrEnd_eq space) (fun same => absurd same colon), read,
      next]
    simp only [List.length_cons, Nat.add_assoc, Nat.add_comm 1]

/-- A word in front of a colon is read as a scalar. -/
theorem scanPlain_word (indent : Int) (word : IsWord cs)
    (apart : isBlankOrEnd (rest.headD endMark) = true) (here : c.rest = cs ++ ':' :: rest) :
    ∃ stop, scanPlain false indent c = (⟨.scalar (pointsOf cs) true, c.mark, stop⟩, false,
      ⟨':' :: rest, c.index + cs.length, c.line, c.column + cs.length⟩) := by
  obtain ⟨stop, read⟩ := resumedPlain_word (indent + 1) word.2 apart here c.rest.length
  have begins : BeginsWord c.rest := here ▸ word.begins.word
  exact ⟨stop, by simp only [scanPlain, scanPlainParts_word begins, read, List.nil_append]⟩

end IndexScan.Yaml
