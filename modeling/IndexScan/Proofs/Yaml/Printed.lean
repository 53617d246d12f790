import IndexScan.Proofs.Json.Printed
import IndexScan.Proofs.Yaml.Escapes
import IndexScan.Proofs.Yaml.Plain

/-!
Written scalars print: whatever a text holds, the scalar that it is written as consists of printed
ASCII characters and line feeds (`scalar_printed`).
-/

namespace IndexScan.Yaml.Writer

variable {cs : List Char}

theorem indent_printed : IsPrinted indent := by decide

/-- Folding adds line ends and indentation only. -/
theorem folded_printed (isQuoted : Bool) (simple : isSimple cs = true) (column : Nat)
    (before : Option Char) : IsPrinted (folded isQuoted column before cs) := by
  induction cs generalizing column before with
  | nil => exact IsPrinted.nil
  | cons c cs ih =>
    obtain ⟨plain, simple⟩ := isSimple_cons simple
    have ih := ih simple
    rw [folded]
    by_cases space : c = ' '
    · rw [if_pos space]
      split_ifs
      · exact IsPrinted.cons (by decide) (indent_printed.append (ih _ _))
      · exact IsPrinted.cons (by decide) (ih _ _)
    · rw [if_neg space]
      by_cases feed : c = '\n'
      · rw [if_pos feed]
        have first : IsPrinted (if before = some '\n' then [] else ['\n']) := by
          split_ifs <;> decide
        have last : IsPrinted (if cs.head? = some '\n' then [] else indent) := by
          split_ifs <;> decide
        exact (first.append (IsPrinted.cons (by decide) last)).append (ih _ _)
      · rw [if_neg feed]
        split_ifs
        · exact IsPrinted.cons (by decide) (IsPrinted.cons (by decide) (ih _ _))
        · exact IsPrinted.cons (plain.resolve_left feed).isPrinted (ih _ _)

theorem isPrinted_digit : ∀ d < 16, isPrinted d.digitChar.toUpper = true := by
  decide

theorem upperHex_printed (w : Nat) {n : Nat} (small : n < 16 ^ (w + 1)) :
    IsPrinted (upperHex (w + 1) n) := by
  induction w generalizing n with
  | zero =>
    rw [upperHex_one (by simpa using small)]
    exact IsPrinted.cons (isPrinted_digit n (by simpa using small)) IsPrinted.nil
  | succ w ih =>
    rw [Nat.pow_succ] at small
    rw [upperHex_succ]
    exact (ih (by omega)).append
      (IsPrinted.cons (isPrinted_digit _ (Nat.mod_lt n (by decide))) IsPrinted.nil)

theorem isPrinted_letter : ∀ e ∈ escapeLetters, isPrinted e.2 = true := by
  decide

theorem escape_printed {c : Char} {e : List Char} (needed : escape? c = some e) : IsPrinted e := by
  have point := Json.toNat_valid c
  rw [escape?] at needed
  split at needed
  case h_1 code letter listed =>
    cases needed
    have known := isPrinted_letter _ (List.mem_of_find?_eq_some listed)
    exact IsPrinted.cons (by decide) (IsPrinted.cons known IsPrinted.nil)
  case h_2 =>
    dsimp only at needed
    split_ifs at needed <;> cases needed <;>
      exact IsPrinted.cons (by decide)
        (IsPrinted.cons (by decide) (upperHex_printed _ (by simp; omega)))

theorem escapedBreak_printed (next : Option Char) : IsPrinted (escapedBreak next) := by
  rw [escapedBreak]
  split_ifs <;> decide

theorem escaped_printed (cs : List Char) (column : Nat) (isFirst inWord : Bool) :
    IsPrinted (escaped column isFirst inWord cs) := by
  induction cs generalizing column isFirst inWord with
  | nil => exact IsPrinted.nil
  | cons c cs ih =>
    rw [escaped]
    dsimp only
    split
    case h_1 e needed =>
      have first := escape_printed needed
      split_ifs
      · exact (first.append (escapedBreak_printed _)).append (ih _ _ _)
      · exact first.append (ih _ _ _)
    case h_2 unneeded =>
      have first := (flat_of_escape? unneeded).1.isPrinted
      split_ifs
      · exact (escapedBreak_printed _).append (IsPrinted.cons first (ih _ _ _))
      · exact IsPrinted.cons first (ih _ _ _)

/-- Every text is written in printed characters. -/
theorem scalar_printed (column : Nat) (cs : List Char) : IsPrinted (scalar column cs) := by
  rw [scalar]
  split_ifs with plain single
  · exact folded_printed false (allowsPlain_iff.mp plain).1 column none
  · rw [allowsSingle, Bool.and_eq_true] at single
    exact IsPrinted.cons (by decide) ((folded_printed true single.1 _ _).append (by decide))
  · exact IsPrinted.cons (by decide) ((escaped_printed _ _ _ _).append (by decide))

end IndexScan.Yaml.Writer
