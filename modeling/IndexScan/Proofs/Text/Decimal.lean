import IndexScan.Text.Decimal
import Mathlib.Data.Nat.Basic
import Mathlib.Tactic.Linarith

/-!
Digit strings and their values. A digit string may begin with any number of zeros, and these do not
count towards its value (`value_dropWhile_zero`); without them its length bounds its value on both
sides (`value_lt`, `le_value`). That is why a test on the length of a count can stand in for a
test on its value (`longer_or_greater_iff`).
-/

namespace IndexScan.Decimal

/-- One or more ASCII digits. -/
def IsDigits (cs : List Char) : Prop :=
  cs ≠ [] ∧ ∀ c ∈ cs, c.isDigit = true

/-- The number that a digit stands for is below ten. -/
theorem digit_lt {c : Char} (digit : c.isDigit = true) : c.toNat - '0'.toNat < 10 := by
  obtain ⟨_, above⟩ := Char.isDigit_iff_toNat.mp digit
  simp only [Char.reduceToNat] at *
  omega

/-- Only the digit zero stands for nothing. -/
theorem one_le_digit {c : Char} (digit : c.isDigit = true) (nonzero : c ≠ '0') :
    1 ≤ c.toNat - '0'.toNat := by
  obtain ⟨below, _⟩ := Char.isDigit_iff_toNat.mp digit
  have differs : c.toNat ≠ '0'.toNat := fun same => nonzero (Char.toNat_inj.mp same)
  simp only [Char.reduceToNat] at *
  omega

@[simp] theorem value_nil : value [] = 0 := rfl

/-- A digit counts for the power of ten that the digits behind it fill. -/
theorem value_cons (c : Char) (cs : List Char) :
    value (c :: cs) = 10 ^ cs.length * (c.toNat - '0'.toNat) + value cs := by
  unfold value
  rw [Nat.ofDigitChars_cons, Nat.ofDigitChars_eq_ofDigitChars_zero]
  simp

/-- Zeros in front do not count. -/
theorem value_dropWhile_zero (cs : List Char) : value (cs.dropWhile (· == '0')) = value cs := by
  induction cs with
  | nil => rfl
  | cons c cs ih =>
    by_cases zero : c = '0'
    · simp [zero, ih, value_cons]
    · simp [zero]

/-- A number is below the power of ten that its digits fill. -/
theorem value_lt {cs : List Char} (digits : ∀ c ∈ cs, c.isDigit = true) :
    value cs < 10 ^ cs.length := by
  induction cs with
  | nil => simp
  | cons c cs ih =>
    have head := digit_lt (digits c (by simp))
    have tail := ih fun d mem => digits d (by simp [mem])
    rw [value_cons, List.length_cons, Nat.pow_succ]
    have : 10 ^ cs.length * (c.toNat - '0'.toNat) ≤ 10 ^ cs.length * 9 :=
      Nat.mul_le_mul_left _ (by omega)
    omega

/-- A number whose first digit is not zero reaches the power of ten that the other digits fill. -/
theorem le_value {c : Char} {cs : List Char} (digit : c.isDigit = true) (nonzero : c ≠ '0') :
    10 ^ cs.length ≤ value (c :: cs) := by
  have head := one_le_digit digit nonzero
  calc
    10 ^ cs.length ≤ 10 ^ cs.length * (c.toNat - '0'.toNat) := Nat.le_mul_of_pos_right _ head
    _ ≤ value (c :: cs) := by rw [value_cons]; exact Nat.le_add_right _ _

/-- Only zeros denote nothing. -/
theorem value_eq_zero_iff {cs : List Char} (digits : ∀ c ∈ cs, c.isDigit = true) :
    value cs = 0 ↔ ∀ c ∈ cs, c = '0' := by
  induction cs with
  | nil => simp
  | cons c cs ih =>
    have tail := ih fun d mem => digits d (List.mem_cons_of_mem c mem)
    rw [List.forall_mem_cons, ← tail]
    constructor
    · intro nothing
      have zero : c = '0' := by
        by_contra nonzero
        have filled : 10 ^ cs.length ≤ value (c :: cs) := le_value (digits c (by simp)) nonzero
        rw [nothing] at filled
        exact Nat.not_le.mpr (Nat.pow_pos (by decide)) filled
      refine ⟨zero, ?_⟩
      rw [value_cons] at nothing
      exact (Nat.add_eq_zero_iff.mp nothing).2
    · rintro ⟨rfl, nothing⟩
      rw [value_cons, nothing]
      simp

/-- A bound of `n` digits can be tested on the digits without the zeros in front: more than `n` of
them are too many, and else their value decides. -/
theorem longer_or_greater_iff {cs : List Char} (digits : ∀ c ∈ cs, c.isDigit = true) {n bound : Nat}
    (enough : bound < 10 ^ n) :
    (n < (cs.dropWhile (· == '0')).length ∨ bound < value (cs.dropWhile (· == '0'))) ↔
      bound < value cs := by
  rw [value_dropWhile_zero]
  refine ⟨fun h => ?_, Or.inr⟩
  rcases h with longer | greater
  · cases rest : cs.dropWhile (· == '0') with
    | nil => simp [rest] at longer
    | cons c ds =>
      have mem : c ∈ cs := (List.dropWhile_sublist _).subset (rest ▸ List.mem_cons_self)
      have nonzero : c ≠ '0' := by
        have := List.head_dropWhile_not (l := cs) (· == '0') (by simp [rest])
        simpa [rest] using this
      have filled : n ≤ ds.length := by
        rw [rest, List.length_cons] at longer
        omega
      calc
        bound < 10 ^ n := enough
        _ ≤ 10 ^ ds.length := Nat.pow_le_pow_right (by decide) filled
        _ ≤ value (c :: ds) := le_value (digits c mem) nonzero
        _ = value cs := by rw [← rest, value_dropWhile_zero]
  · exact greater

end IndexScan.Decimal
