import IndexScan.Proofs.Yaml.Quoted
import Mathlib.Algebra.Group.Nat.Defs

/-!
Scalars between double quotes. Every escape that the writer uses is read as its character
(`scanEscape_of_escape?`), and an escaped line end as nothing (`reads_escapedBreak`), so that what is
written between double quotes is read as the text that was written (`scanQuoted_escaped`).
-/

namespace IndexScan.Yaml

open Writer

variable {start : Mark} {rest tail : List Char} {ps : Points} {c : Cursor}

/-! ### Hexadecimal digits -/

theorem hexValue?_digit : ∀ d < 16, hexValue? d.digitChar.toUpper = some d := by
  decide

theorem upperHex_one {n : Nat} (small : n < 16) : upperHex 1 n = [n.digitChar.toUpper] := by
  rw [upperHex, Decimal.hex_one small, List.map_singleton]

theorem upperHex_succ (w n : Nat) :
    upperHex (w + 2) n = upperHex (w + 1) (n / 16) ++ [(n % 16).digitChar.toUpper] := by
  rw [upperHex, Decimal.hex_succ, List.map_append, List.map_singleton, upperHex]

theorem length_upperHex (w : Nat) {n : Nat} (small : n < 16 ^ (w + 1)) :
    (upperHex (w + 1) n).length = w + 1 := by
  induction w generalizing n with
  | zero => rw [upperHex_one (by simpa using small)]; rfl
  | succ w ih =>
    rw [upperHex_succ, List.length_append, ih]
    · rfl
    · rw [Nat.pow_succ] at small
      omega

/-- The digits ahead are read as the number that they were written for. -/
theorem hexAhead_upperHex (w : Nat) {n : Nat} (small : n < 16 ^ (w + 1))
    (here : c.rest = upperHex (w + 1) n ++ rest) : hexAhead c (w + 1) = .ok n := by
  induction w generalizing n rest with
  | zero =>
    rw [upperHex_one (by simpa using small)] at here
    have digit : c.peekAt 0 = n.digitChar.toUpper := by rw [Cursor.peekAt, here]; rfl
    simp [hexAhead, digit, hexValue?_digit n (by simpa using small)]
  | succ w ih =>
    have high : n / 16 < 16 ^ (w + 1) := by
      rw [Nat.pow_succ] at small
      omega
    rw [upperHex_succ, List.append_assoc, List.singleton_append] at here
    have front := ih high here
    have digit : c.peekAt (w + 1) = (n % 16).digitChar.toUpper := by
      have long := length_upperHex w high
      rw [Cursor.peekAt, here, List.getD_eq_getElem?_getD,
        List.getElem?_append_right (Nat.le_of_eq long), long, Nat.sub_self]
      rfl
    have last := hexValue?_digit (n % 16) (Nat.mod_lt n (by decide))
    have whole : n / 16 * 16 + n % 16 = n := by omega
    rw [hexAhead] at front
    rw [hexAhead, List.range_succ, List.foldlM_append, front]
    simp [bind, Except.bind, digit, last, whole, pure, Except.pure]

/-! ### Escapes -/

/-- The letter of every one-letter escape stands for the character that is written with it. -/
theorem escaped?_letter :
    ∀ e ∈ escapeLetters, (escaped? e.2).map Char.toNat = some e.1 := by
  decide

theorem scanEscape_letter {letter found : Char} (here : c.rest = letter :: rest)
    (known : escaped? letter = some found) :
    scanEscape start c = .ok ([found.toNat], c.next) := by
  simp [scanEscape, c.peek_of_rest here, known]

theorem scanEscape_hex {letter : Char} {w n : Nat} (long : escapeLength? letter = some (w + 1))
    (other : escaped? letter = none) (small : n < 16 ^ (w + 1)) (valid : n < 0x110000)
    (here : c.rest = letter :: upperHex (w + 1) n ++ rest) :
    scanEscape start c = .ok ([n], c.next.forward (w + 1)) := by
  have digits : c.next.rest = upperHex (w + 1) n ++ rest := by rw [c.next_rest, here]; rfl
  have far : ¬ 0x80000000 ≤ n := by omega
  have outside : ¬ 0x110000 ≤ n := by omega
  simp only [scanEscape, c.peek_of_rest here, other, long, hexAhead_upperHex w small digits,
    if_neg far, if_neg outside]

/-- What is written for a character that needs an escape is read as the character. -/
theorem scanEscape_of_escape? (start : Mark) {ch : Char} {e : List Char}
    (needed : escape? ch = some e) :
    ∃ body, e = '\\' :: body ∧ ∀ (rest : List Char) (c : Cursor), c.rest = body ++ rest →
      ∃ c', c'.rest = rest ∧ scanEscape start c = .ok ([ch.toNat], c') := by
  have point := Json.toNat_valid ch
  have hex (letter : Char) (w : Nat) (long : escapeLength? letter = some (w + 1))
      (other : escaped? letter = none) (small : ch.toNat < 16 ^ (w + 1)) (rest : List Char)
      (c : Cursor) (here : c.rest = letter :: upperHex (w + 1) ch.toNat ++ rest) :
      ∃ c', c'.rest = rest ∧ scanEscape start c = .ok ([ch.toNat], c') := by
    refine ⟨_, ?_, scanEscape_hex long other small (by omega) here⟩
    rw [Cursor.forward_rest, Cursor.next_rest, here, List.cons_append, List.drop_succ_cons,
      List.drop_zero, List.drop_left' (length_upperHex w small)]
  rw [escape?] at needed
  split at needed
  case h_1 code letter listed =>
    cases needed
    have same : code = ch.toNat := by simpa using List.find?_some listed
    have known := escaped?_letter _ (List.mem_of_find?_eq_some listed)
    obtain ⟨found, known, equal⟩ := Option.map_eq_some_iff.mp known
    refine ⟨[letter], rfl, fun rest c here => ⟨c.next, by rw [c.next_rest, here]; rfl, ?_⟩⟩
    rw [scanEscape_letter here known, equal, same]
  case h_2 =>
    dsimp only at needed
    split_ifs at needed with printed short medium
    · cases needed
      exact ⟨_, rfl, hex 'x' 1 rfl rfl (by simp; omega)⟩
    · cases needed
      exact ⟨_, rfl, hex 'u' 3 rfl rfl (by simp; omega)⟩
    · cases needed
      exact ⟨_, rfl, hex 'U' 7 rfl rfl (by simp; omega)⟩

/-- A character that needs no escape prints and means nothing between double quotes. -/
theorem flat_of_escape? {ch : Char} (unneeded : escape? ch = none) :
    IsFlat ch ∧ ch ≠ '"' ∧ ch ≠ '\\' := by
  have unlisted (d : Char) (e : List Char) (other : escape? d = some e) : ch ≠ d := by
    rintro rfl
    rw [unneeded] at other
    cases other
  refine ⟨?_, unlisted '"' _ rfl, unlisted '\\' _ rfl⟩
  rw [escape?] at unneeded
  split at unneeded
  case h_1 => cases unneeded
  case h_2 =>
    dsimp only at unneeded
    split_ifs at unneeded with printed
    exact printed

theorem solid_backslash : Solid ('\\' :: rest) :=
  solid_of_flat (by decide) (by decide)

/-- An escaped line end and the indentation behind it are read as nothing. -/
theorem reads_escapedBreak (reads : Reads true start rest ps tail) (solid : Solid rest) :
    Reads true start ('\\' :: '\n' :: ' ' :: ' ' :: rest) ps tail := by
  refine reads_escape ['\n', ' ', ' '] [] (fun c here => ?_) reads
  let line : Cursor := ⟨' ' :: ' ' :: rest, c.index + 1, c.line + 1, 0⟩
  have feed : c.rest = '\n' :: ' ' :: ' ' :: rest := here
  refine ⟨line.forward 2, by rw [Cursor.forward_rest]; rfl, ?_⟩
  have breaks : quotedBreaks start (line.rest.length + 1) line = .ok ([], line.forward 2) :=
    quotedBreaks_indent rfl solid _
  have isFeed : isBreak '\n' = true := by decide
  have unknown : escaped? '\n' = none ∧ escapeLength? '\n' = none := by decide
  simp only [scanEscape, c.peek_of_rest feed, unknown.1, unknown.2, isFeed, if_true,
    c.lineBreak_of_feed feed]
  change (quotedBreaks start (line.rest.length + 1) line).bind _ = _
  rw [breaks]
  rfl

/-- An escaped space is read as a space. -/
theorem reads_escapedSpace (reads : Reads true start rest ps tail) :
    Reads true start ('\\' :: ' ' :: rest) (' '.toNat :: ps) tail := by
  refine reads_escape [' '] [' '.toNat] (fun c here => ?_) reads
  exact ⟨c.next, by rw [c.next_rest, here]; rfl, scanEscape_letter here rfl⟩

/-! ### Double quotes -/

/-- A character that needs no escape stands for itself between double quotes. -/
theorem reads_unescaped {ch : Char} (unneeded : escape? ch = none) (space : ch ≠ ' ')
    (reads : Reads true start rest ps tail) :
    Reads true start (ch :: rest) (ch.toNat :: ps) tail := by
  obtain ⟨flat, double, backslash⟩ := flat_of_escape? unneeded
  by_cases single : ch = '\''
  · exact reads_literal (.inl ⟨rfl, single⟩) reads
  · exact reads_ordinary (isOrdinary_of_flat flat space single double backslash) reads

theorem escaped_of_some {ch : Char} {e cs : List Char} (needed : escape? ch = some e)
    (column : Nat) (isFirst inWord : Bool) :
    escaped column isFirst inWord (ch :: cs) =
      if (!isFirst && !cs.isEmpty) ∧ width + 1 < column + e.length then
        e ++ escapedBreak cs.head? ++ escaped (columnAfterBreak cs.head?) false false cs
      else e ++ escaped (column + e.length) false false cs := by
  simp only [escaped, needed]

/-- In front of a character that needs no escape, the line is ended where it is full. -/
theorem escaped_of_none {ch : Char} {cs : List Char} (unneeded : escape? ch = none)
    (column : Nat) (isFirst inWord : Bool) :
    escaped column isFirst inWord (ch :: cs) =
      if (!isFirst && !cs.isEmpty) ∧ (ch = ' ' ∨ !inWord) ∧ width < column then
        escapedBreak (some ch) ++ escaped (columnAfterBreak (some ch)) false false (ch :: cs)
      else ch :: escaped (column + 1) false true cs := by
  have room : ¬ width < columnAfterBreak (some ch) := by
    rw [columnAfterBreak]
    split_ifs <;> decide
  rw [escaped, escaped]
  simp only [unneeded, room, and_false, if_false]

/-- What is written between double quotes is read as the text, also where a line end is written in
front of it. -/
structure ReadsEscaped (start : Mark) (tail cs : List Char) : Prop where
  line (column : Nat) (isFirst inWord : Bool) : ReadsLine true start
    (escaped column isFirst inWord cs ++ '"' :: tail) (pointsOf cs) tail
  broken (nonempty : cs ≠ []) : Reads true start (escapedBreak cs.head? ++
    (escaped (columnAfterBreak cs.head?) false false cs ++ '"' :: tail)) (pointsOf cs) tail

namespace ReadsEscaped

variable {cs : List Char} {ch : Char}

theorem nil (apart : tail.head? ≠ some '\'') : ReadsEscaped start tail [] := by
  have quote : Solid ('"' :: tail) := solid_of_flat (by decide) (by decide)
  have close : Reads true start ('"' :: tail) [] tail := reads_close apart
  exact ⟨fun _ _ _ => close.line quote, fun nonempty => absurd rfl nonempty⟩

/-- A line may end behind an escape. -/
theorem escape {e : List Char} (rest : ReadsEscaped start tail cs) (needed : escape? ch = some e) :
    ReadsEscaped start tail (ch :: cs) := by
  obtain ⟨body, rfl, escape⟩ := scanEscape_of_escape? start needed
  have here (column : Nat) (isFirst inWord : Bool) : ReadsLine true start
      (escaped column isFirst inWord (ch :: cs) ++ '"' :: tail) (pointsOf (ch :: cs)) tail := by
    rw [escaped_of_some needed]
    split_ifs with full
    · have nonempty : cs ≠ [] := by
        rintro rfl
        simp at full
      rw [List.append_assoc, List.append_assoc]
      exact (reads_escape _ _ (escape _) (rest.broken nonempty)).line solid_backslash
    · rw [List.append_assoc]
      exact (reads_escape _ _ (escape _) (rest.line _ _ _).reads).line solid_backslash
  refine ⟨here, fun _ => ?_⟩
  have space : ch ≠ ' ' := by
    rintro rfl
    cases needed
  have solid : Solid (escaped 2 false false (ch :: cs) ++ '"' :: tail) := by
    rw [escaped_of_some needed]
    split_ifs <;> exact solid_backslash
  simp only [List.head?_cons, escapedBreak, columnAfterBreak, Option.some.injEq, space, if_false]
  exact reads_escapedBreak (here _ _ _).reads solid

/-- A line may also end in front of a space or of a word; a space is then escaped. -/
theorem unescaped (rest : ReadsEscaped start tail cs) (unneeded : escape? ch = none) :
    ReadsEscaped start tail (ch :: cs) := by
  have flat := (flat_of_escape? unneeded).1
  have broken : Reads true start (escapedBreak (some ch) ++
      (escaped (columnAfterBreak (some ch)) false false (ch :: cs) ++ '"' :: tail))
      (pointsOf (ch :: cs)) tail := by
    have room : ¬ width < columnAfterBreak (some ch) := by
      rw [columnAfterBreak]
      split_ifs <;> decide
    rw [escaped_of_none unneeded, if_neg (by simp [room])]
    by_cases space : ch = ' '
    · subst space
      exact reads_escapedBreak (reads_escapedSpace (rest.line _ _ _).reads) solid_backslash
    · simp only [escapedBreak, columnAfterBreak, Option.some.injEq, space, if_false]
      exact reads_escapedBreak (reads_unescaped unneeded space (rest.line _ _ _).reads)
        (solid_of_flat flat space)
  refine ⟨fun column isFirst inWord => ?_, fun _ => broken⟩
  rw [escaped_of_none unneeded]
  split_ifs with full
  · rw [List.append_assoc]
    exact broken.line solid_backslash
  · by_cases space : ch = ' '
    · subst space
      exact (rest.line _ _ _).blank
    · exact (reads_unescaped unneeded space (rest.line _ _ _).reads).line (solid_of_flat flat space)

end ReadsEscaped

/-- The induction is on the text, one character at a time. -/
theorem reads_escaped (apart : tail.head? ≠ some '\'') (cs : List Char) :
    ReadsEscaped start tail cs := by
  induction cs with
  | nil => exact .nil apart
  | cons ch cs ih =>
    cases needed : escape? ch with
    | some e => exact ih.escape needed
    | none => exact ih.unescaped needed

/-- Every text is read from what is written between double quotes. -/
theorem scanQuoted_escaped (apart : tail.head? ≠ some '\'') (cs : List Char) (column : Nat)
    (here : c.rest = '"' :: escaped column true false cs ++ '"' :: tail) :
    ∃ last, scanQuoted true c = .ok (⟨.scalar (pointsOf cs) false, c.mark, last.mark⟩, last) ∧
      last.rest = tail :=
  scanQuoted_of_reads here ((reads_escaped apart cs).line column true false).reads

end IndexScan.Yaml
