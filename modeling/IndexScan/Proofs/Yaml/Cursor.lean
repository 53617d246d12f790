import IndexScan.Proofs.Text.Ascii
import IndexScan.Yaml.Cursor

/-!
Moving through printed text. A cursor is known from the text that it stands in front of: what it sees
(`peek_of_rest`), where it comes to behind a character (`next_of_flat`, `next_of_feed`) and behind
several on one line (`forward_of_flat`).
-/

namespace IndexScan.Yaml

/-! ### Characters -/

/-- A character that prints, and so stays on its line. -/
def IsFlat (c : Char) : Prop :=
  0x20 ≤ c.toNat ∧ c.toNat ≤ 0x7E

instance (c : Char) : Decidable (IsFlat c) :=
  inferInstanceAs (Decidable (_ ∧ _))

theorem IsFlat.ne {c d : Char} (flat : IsFlat c) (other : ¬ IsFlat d) : c ≠ d := by
  rintro rfl
  exact other flat

theorem IsFlat.isPrinted {c : Char} (flat : IsFlat c) : isPrinted c = true := by
  obtain ⟨least, most⟩ := flat
  simp [IndexScan.isPrinted, least, Nat.lt_succ_of_le most]

theorem IsFlat.isBreak_eq {c : Char} (flat : IsFlat c) : isBreak c = false := by
  have feed := flat.ne (d := '\n') (by decide)
  obtain ⟨least, most⟩ := flat
  simp [isBreak, feed]
  omega

/-- A character that prints and is no space belongs to a word. -/
theorem IsFlat.isBlankOrEnd_eq {c : Char} (flat : IsFlat c) (space : c ≠ ' ') :
    isBlankOrEnd c = false := by
  have tab := flat.ne (d := '\t') (by decide)
  have null := flat.ne (d := endMark) (by decide)
  simp [isBlankOrEnd, isSpaceOrEnd, isBreakOrEnd, flat.isBreak_eq, space, tab, null]

theorem isBreak_endMark : isBreak endMark = false := by decide

namespace Cursor

variable {c : Cursor} {ch : Char} {cs rest : List Char} {n : Nat}

/-! ### What is ahead -/

theorem peek_of_rest (here : c.rest = ch :: rest) : c.peek = ch := by
  simp [peek, peekAt, here]

theorem peek_of_end (here : c.rest = []) : c.peek = endMark := by
  simp [peek, peekAt, here]

theorem peekAt_one (here : c.rest = ch :: rest) : c.peekAt 1 = rest.headD endMark := by
  cases rest <;> simp [peekAt, here]

/-- No line that separates documents begins with anything but a dash or a point. -/
theorem atSeparator_of_rest (here : c.rest = ch :: rest) (dash : ch ≠ '-') (point : ch ≠ '.') :
    c.atSeparator = false := by
  simp [atSeparator, here, dash, point]

theorem atSeparator_of_end (here : c.rest = []) : c.atSeparator = false := by
  simp [atSeparator, here]

/-! ### Moving on -/

theorem next_rest (c : Cursor) : c.next.rest = c.rest.drop 1 := by
  cases here : c.rest with
  | nil => simp [next, here]
  | cons ch rest => cases line : isBreak ch <;> simp [next, here, line]

theorem next_of_flat (here : c.rest = ch :: rest) (flat : IsFlat ch) :
    c.next = ⟨rest, c.index + 1, c.line, c.column + 1⟩ := by
  have mark : ch.toNat ≠ 0xFEFF := by
    obtain ⟨_, most⟩ := flat
    omega
  simp [next, here, flat.isBreak_eq, mark]

theorem next_of_feed (here : c.rest = '\n' :: rest) :
    c.next = ⟨rest, c.index + 1, c.line + 1, 0⟩ := by
  simp [next, here, isBreak]

theorem forward_rest (n : Nat) (c : Cursor) : (c.forward n).rest = c.rest.drop n := by
  induction n generalizing c with
  | zero => rfl
  | succ n ih => rw [forward, ih, next_rest, List.drop_drop, Nat.add_comm]

/-- Behind characters of one line. -/
theorem forward_of_flat (here : c.rest = cs ++ rest) (flat : ∀ ch ∈ cs, IsFlat ch) :
    c.forward cs.length = ⟨rest, c.index + cs.length, c.line, c.column + cs.length⟩ := by
  induction cs generalizing c with
  | nil => cases c; cases here; rfl
  | cons ch cs ih =>
    have first := next_of_flat here (flat ch (List.mem_cons_self ..))
    rw [List.length_cons, forward, first,
      ih rfl fun d mem => flat d (List.mem_cons_of_mem _ mem)]
    simp only [Nat.add_comm, Nat.add_left_comm]

theorem lineBreak_of_feed (here : c.rest = '\n' :: rest) :
    c.lineBreak = (['\n'], ⟨rest, c.index + 1, c.line + 1, 0⟩) := by
  simp [lineBreak, peek_of_rest here, next_of_feed here]

/-! ### Spans -/

theorem span_cons {p : Char → Bool} (here : c.rest = ch :: rest) (holds : p ch = true) :
    c.span p = (ch :: (c.next.span p).1, (c.next.span p).2) := by
  have behind : c.next.rest = rest := by rw [next_rest, here]; rfl
  simp [span, here, holds, behind, forward]

theorem span_stop {p : Char → Bool} (here : c.rest = ch :: rest) (fails : p ch = false) :
    c.span p = ([], c) := by
  simp [span, here, fails, forward]

/-- A span of characters that satisfy `p` and are followed by one that does not. -/
theorem span_append {p : Char → Bool} (here : c.rest = cs ++ ch :: rest)
    (holds : ∀ d ∈ cs, p d = true) (fails : p ch = false) :
    c.span p = (cs, c.forward cs.length) := by
  have run : (cs ++ ch :: rest).takeWhile p = cs := by
    rw [List.takeWhile_append_of_pos holds]
    simp [fails]
  rw [span, here, run]

theorem skip_append {p : Char → Bool} (here : c.rest = cs ++ ch :: rest)
    (holds : ∀ d ∈ cs, p d = true) (fails : p ch = false) :
    c.skip p = c.forward cs.length := by
  rw [skip, span_append here holds fails]

theorem skip_stop {p : Char → Bool} (here : c.rest = ch :: rest) (fails : p ch = false) :
    c.skip p = c := by
  rw [skip, span_stop here fails]

theorem skip_of_end {p : Char → Bool} (here : c.rest = []) : c.skip p = c := by
  simp [skip, span, here, forward]

end Cursor

end IndexScan.Yaml
