import IndexScan.Proofs.Directive.Grammar
import IndexScan.Proofs.Json.Numbers
import Mathlib.Data.List.Induction

/-!
Directives in canonical form. A mode is read back from its directive, so no two modes share one. Of
the texts that denote a mode exactly one is its directive: the word alone where the mode has no
limit, else the word with the shortest digits of the limit behind it (`displayed_normalizes`).

The link between the two is a fact about digit strings: those without a zero to spare are the ones
that a number is written with (`Decimal.isShortest_iff`).
-/

namespace IndexScan

/-! ### Shortest digits -/

namespace Decimal

/-- Digits without a zero to spare: a zero stands in front only where it stands alone. -/
def IsShortest (cs : List Char) : Prop :=
  IsDigits cs ∧ (cs.head? = some '0' → cs = ['0'])

theorem digitChar_digit {c : Char} (digit : c.isDigit = true) :
    (c.toNat - '0'.toNat).digitChar = c := by
  obtain ⟨below, -⟩ := Char.isDigit_iff_toNat.mp digit
  have small := digit_lt digit
  apply Char.toNat_inj.mp
  rw [Nat.toNat_digitChar_of_lt_ten small]
  simp only [Char.reduceToNat] at *
  omega

/-- A digit at the end counts once, and those in front of it ten times as much as alone. -/
theorem value_append_singleton (cs : List Char) (c : Char) :
    value (cs ++ [c]) = 10 * value cs + (c.toNat - '0'.toNat) := by
  rw [value, Nat.ofDigitChars_append, Nat.ofDigitChars_cons, Nat.ofDigitChars_nil]
  rfl

/-- Digits that do not begin with a zero denote a number other than zero. -/
theorem value_pos {cs : List Char} (digits : IsDigits cs) (nonzero : cs.head? ≠ some '0') :
    0 < value cs := by
  cases cs with
  | nil => exact absurd rfl digits.1
  | cons c cs =>
    have differs : c ≠ '0' := fun same => nonzero (congrArg some same)
    have reached : 10 ^ cs.length ≤ value (c :: cs) :=
      le_value (digits.2 c List.mem_cons_self) differs
    exact Nat.lt_of_lt_of_le (Nat.pow_pos (by decide)) reached

/-- Digits that do not begin with a zero are those of their value. By induction from the last digit,
which is the first that writing a number finds. -/
theorem ofNat_value {cs : List Char} (digits : IsDigits cs) (nonzero : cs.head? ≠ some '0') :
    ofNat (value cs) = cs := by
  induction cs using List.reverseRecOn with
  | nil => exact absurd rfl digits.1
  | append_singleton cs c ih =>
    have digit := digits.2 c (by simp)
    have single : Nat.toDigits 10 (c.toNat - '0'.toNat) = [c] := by
      rw [Nat.toDigits_of_lt_base (digit_lt digit), digitChar_digit digit]
    cases cs with
    | nil =>
      have alone : value ([] ++ [c]) = c.toNat - '0'.toNat := by
        rw [value_append_singleton, value_nil, Nat.mul_zero, Nat.zero_add]
      rw [ofNat, alone, single, List.nil_append]
    | cons d ds =>
      have front : IsDigits (d :: ds) :=
        ⟨by simp, fun e mem => digits.2 e (List.mem_append_left _ mem)⟩
      have positive := value_pos front nonzero
      rw [value_append_singleton, ofNat,
        ← Nat.toDigits_append_toDigits (by decide) positive (digit_lt digit), single]
      exact congrArg (· ++ [c]) (ih front nonzero)

/-- A number is written with its shortest digits. -/
theorem ofNat_isShortest (n : Nat) : IsShortest (ofNat n) := by
  refine ⟨ofNat_isDigits n, fun zero => ?_⟩
  rcases Nat.eq_zero_or_pos n with rfl | positive
  · rfl
  · cases digits : ofNat n with
    | nil => simp [digits] at zero
    | cons c ds =>
      obtain rfl : c = '0' := by simpa [digits] using zero
      exact absurd digits (ofNat_head_ne_zero positive)

/-- The shortest digits are those that numbers are written with. -/
theorem isShortest_iff {cs : List Char} : IsShortest cs ↔ ofNat (value cs) = cs := by
  constructor
  · rintro ⟨digits, alone⟩
    by_cases zero : cs.head? = some '0'
    · rw [alone zero]
      rfl
    · exact ofNat_value digits zero
  · intro written
    exact written ▸ ofNat_isShortest (value cs)

end Decimal

/-! ### Canonical directives -/

theorem UnhardenedIndex.toList_text (n : UnhardenedIndex) :
    n.text.toList = Decimal.ofNat n.value := by
  rw [text, Decimal.text, String.toList_ofList]
  rfl

namespace Directive

open Decimal

/-- A text that has no shorter one of the same meaning: the word that stands alone, or a word that
takes a count with the shortest digits behind it. -/
def IsCanonical (t : String) : Prop :=
  t = "while" ∨ ∃ cs, Counts t cs ∧ IsShortest cs

/-- The directive of the mode that a text denotes. -/
def displayed (t : String) : Except DirectiveError String :=
  (parse t).map Mode.directive

/-- A mode is read back from its directive. -/
theorem parse_directive (m : Mode) : parse m.directive = .ok m := by
  have limit (word : String) (n : UnhardenedIndex) :
      ∃ cs, (word ++ n.text).toList = word.toList ++ cs ∧ IsDigits cs ∧ value cs = n.value :=
    ⟨ofNat n.value, by rw [String.toList_append, n.toList_text], ofNat_isDigits n.value,
      value_ofNat n.value⟩
  cases m with
  | single => exact parse_eq_single_iff.mpr rfl
  | first n => exact parse_eq_first_iff.mpr (.inr (limit "first" n))
  | random n => exact parse_eq_random_iff.mpr (.inr (limit "random" n))

/-- No two modes share a directive. -/
theorem directive_injective : Function.Injective Mode.directive := by
  intro m n same
  have read := parse_directive m
  rw [same, parse_directive n] at read
  exact (Except.ok.inj read).symm

/-- Of the texts that are read as a word with a limit, the word with the digits of the limit is the
one that has the shortest digits behind the word. -/
theorem word_append_text_eq_iff {word t : String} {n : UnhardenedIndex}
    (limit : t = word ∧ n.value = 1 ∨
      ∃ cs, t.toList = word.toList ++ cs ∧ IsDigits cs ∧ value cs = n.value) :
    word ++ n.text = t ↔ ∃ cs, t.toList = word.toList ++ cs ∧ IsShortest cs := by
  constructor
  · rintro rfl
    exact ⟨ofNat n.value, by rw [String.toList_append, n.toList_text], ofNat_isShortest n.value⟩
  · rintro ⟨cs, begins, shortest⟩
    rcases limit with ⟨rfl, -⟩ | ⟨ds, same, -, counted⟩
    · -- The word alone has no digits behind it.
      have empty : cs = [] := by simpa using begins
      exact absurd empty shortest.1.1
    · obtain rfl : cs = ds := List.append_cancel_left (begins.symm.trans same)
      rw [← String.toList_inj, String.toList_append, n.toList_text, ← counted,
        isShortest_iff.mp shortest, begins]

/-- A text that denotes a mode is the directive of that mode exactly when it is canonical. -/
theorem directive_eq_iff {t : String} {m : Mode} (read : parse t = .ok m) :
    m.directive = t ↔ IsCanonical t := by
  cases m with
  | single =>
    obtain rfl := parse_eq_single_iff.mp read
    exact iff_of_true rfl (.inl rfl)
  | first n =>
    refine (word_append_text_eq_iff (parse_eq_first_iff.mp read)).trans ⟨?_, ?_⟩
    · rintro ⟨cs, begins, shortest⟩
      exact .inr ⟨cs, .inl begins, shortest⟩
    · rintro (rfl | ⟨cs, begins | other, shortest⟩)
      · cases read.symm.trans (parse_eq_single_iff.mpr rfl)
      · exact ⟨cs, begins, shortest⟩
      · rw [parse_of_random other] at read
        cases limit : readLimit cs <;> simp [limit, Except.map] at read
  | random n =>
    refine (word_append_text_eq_iff (parse_eq_random_iff.mp read)).trans ⟨?_, ?_⟩
    · rintro ⟨cs, begins, shortest⟩
      exact .inr ⟨cs, .inr begins, shortest⟩
    · rintro (rfl | ⟨cs, other | begins, shortest⟩)
      · cases read.symm.trans (parse_eq_single_iff.mpr rfl)
      · rw [parse_of_first other] at read
        cases limit : readLimit cs <;> simp [limit, Except.map] at read
      · exact ⟨cs, begins, shortest⟩

/-- Every mode survives its display, no two are displayed alike, and displaying puts the texts that
denote a mode into one form: the form denotes the same mode, is displayed as itself, and differs from
the text unless the text is canonical. -/
theorem displayed_normalizes :
    (∀ m : Mode, parse m.directive = .ok m) ∧ Function.Injective Mode.directive ∧
      ∀ t t', displayed t = .ok t' →
        parse t' = parse t ∧ displayed t' = .ok t' ∧ (t' = t ↔ IsCanonical t) := by
  refine ⟨parse_directive, directive_injective, fun t t' display => ?_⟩
  cases read : parse t with
  | error e =>
    rw [displayed, read] at display
    cases display
  | ok m =>
    rw [displayed, read] at display
    obtain rfl : m.directive = t' := Except.ok.inj display
    have again := parse_directive m
    refine ⟨again, ?_, directive_eq_iff read⟩
    rw [displayed, again]
    rfl

/-- A count with zeros in front is displayed without them, and is not canonical. -/
theorem displayed_normalizes_padded :
    displayed "random007" = .ok "random7" ∧ parse "random7" = parse "random007" ∧
      displayed "random7" = .ok "random7" ∧ ¬ IsCanonical "random007" := by
  have display : displayed "random007" = .ok "random7" := by decide +kernel
  obtain ⟨same, again, canonical⟩ := displayed_normalizes.2.2 _ _ display
  exact ⟨display, same, again, fun is => absurd (canonical.mpr is) (by decide)⟩

end Directive

end IndexScan
