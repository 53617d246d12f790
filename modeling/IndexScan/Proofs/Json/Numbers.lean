import IndexScan.Json.Reader
import IndexScan.Json.Writer
import IndexScan.Proofs.Text.Decimal
import Mathlib.Tactic.Common

/-!
Integers in documents. A written integer is read back as itself, whatever follows it, as long as
that does not go on with the number (`value_ofInt`).
-/

namespace IndexScan

/-! ### Written integers -/

namespace Decimal

theorem ofNat_isDigits (n : Nat) : IsDigits (ofNat n) :=
  ⟨Nat.toDigits_ne_nil, fun _ mem => Nat.isDigit_of_mem_toDigits (by decide) (by decide) mem⟩

/-- An integer is short enough to be written when its digits are few enough. -/
theorem fits_iff (n : Int) : fits n = true ↔ (ofNat n.natAbs).length ≤ limit := by
  unfold fits
  rw [ofNat, Nat.length_toDigits_le_iff (by decide) (by decide), decide_eq_true_eq, Nat.pow_eq]

/-- A number other than zero does not begin with a zero. -/
theorem ofNat_head_ne_zero {n : Nat} (positive : 0 < n) {ds : List Char} :
    ofNat n ≠ '0' :: ds := by
  intro begins
  have whole : value ds = n := by
    have value := value_ofNat n
    rw [begins, value_cons] at value
    simpa using value
  have digits : ∀ c ∈ ds, c.isDigit = true := fun c mem =>
    (ofNat_isDigits n).2 c (begins ▸ List.mem_cons_of_mem _ mem)
  have below := value_lt digits
  rw [whole] at below
  cases ds with
  | nil => simp at below; omega
  | cons d ds =>
    have shorter := (Nat.length_toDigits_le_iff (b := 10) (k := (d :: ds).length)
      (by decide) (by simp)).mpr below
    rw [← ofNat, begins] at shorter
    simp at shorter

end Decimal

namespace Json

/-! ### Reading digits -/

/-- What follows a number and does not go on with it. -/
def EndsNumber (rest : List Char) : Prop :=
  ∀ c ∈ rest.head?, c.isDigit = false ∧ c ≠ '.' ∧ c ≠ 'e' ∧ c ≠ 'E'

variable {limit : Option Nat} {ds rest : List Char} {fuel n : Nat}

theorem digitRun_append (digits : ∀ c ∈ ds, c.isDigit = true) (ends : EndsNumber rest) :
    digitRun (ds ++ rest) = (ds, rest) := by
  induction ds with
  | nil =>
    cases rest with
    | nil => rfl
    | cons c rest => simp [digitRun, (ends c rfl).1]
  | cons d ds ih =>
    have head := digits d (by simp)
    have tail := ih fun c mem => digits c (by simp [mem])
    simp only [digitRun, Prod.mk.injEq] at tail ⊢
    rw [List.cons_append, List.takeWhile_cons_of_pos head, List.dropWhile_cons_of_pos head]
    exact ⟨congrArg _ tail.1, tail.2⟩

/-- Whether an integer has no more digits than a reader takes. -/
def admits (limit : Option Nat) (n : Int) : Bool :=
  limit.all fun most => (Decimal.ofNat n.natAbs).length ≤ most

/-- Digits with nothing behind them that goes on with a number are an integer. -/
theorem number_of_endsNumber (ends : EndsNumber rest)
    (short : limit.all (ds.length ≤ ·) = true) (negative : Bool) :
    number limit negative ds rest =
      .ok (.int (if negative then -(Decimal.value ds : Int) else Decimal.value ds), rest) := by
  have whole : fraction rest = ([], rest) := by
    cases rest with
    | nil => rfl
    | cons c rest =>
      have point := (ends c rfl).2.1
      simp [fraction, point]
  have plain : exponent? rest = none := by
    cases rest with
    | nil => rfl
    | cons c rest =>
      obtain ⟨_, _, lower, upper⟩ := ends c rfl
      simp [exponent?, lower, upper]
  have few : limit.any (· < ds.length) = false := by
    cases limit with
    | none => rfl
    | some most => simpa using short
  simp [number, whole, plain, few]

/-- The digits of a number are read up to what follows them. -/
theorem signed_ofNat (ends : EndsNumber rest)
    (short : limit.all ((Decimal.ofNat n).length ≤ ·) = true) (start : List Char)
    (negative : Bool) :
    signed limit start negative (Decimal.ofNat n ++ rest) =
      .ok (.int (if negative then -(n : Int) else n), rest) := by
  have number := number_of_endsNumber ends short negative
  rw [Decimal.value_ofNat] at number
  rcases Nat.eq_zero_or_pos n with rfl | positive
  · exact number
  · obtain ⟨nonempty, digits⟩ := Decimal.ofNat_isDigits n
    cases shape : Decimal.ofNat n with
    | nil => exact absurd shape nonempty
    | cons c ds =>
      have nonzero : c ≠ '0' := fun same => Decimal.ofNat_head_ne_zero positive (same ▸ shape)
      rw [shape] at digits number
      have run : digitRun (ds ++ rest) = (ds, rest) :=
        digitRun_append (fun d mem => digits d (by simp [mem])) ends
      rw [List.cons_append, signed.eq_2 _ _ _ _ _ (by simpa using nonzero),
        if_pos (digits c (by simp)), run]
      exact number

/-! ### Numbers as values -/

variable {levels : Levels} {c : Char}

theorem value_of_digit (digit : c.isDigit = true) :
    value limit levels (fuel + 1) (c :: rest) = signed limit (c :: rest) false (c :: rest) := by
  rw [value]
  all_goals
    intros
    simp_all

theorem value_of_minus (digit : c.isDigit = true) :
    value limit levels (fuel + 1) ('-' :: c :: rest) =
      signed limit ('-' :: c :: rest) true (c :: rest) := by
  rw [value]
  all_goals
    intros
    simp_all

/-- A written integer is read back as itself. -/
theorem value_ofInt {i : Int} (ends : EndsNumber rest) (admitted : admits limit i = true) :
    value limit levels (fuel + 1) (Decimal.ofInt i ++ rest) = .ok (.int i, rest) := by
  cases i with
  | ofNat n =>
    obtain ⟨nonempty, digits⟩ := Decimal.ofNat_isDigits n
    have read := signed_ofNat (n := n) ends admitted (Decimal.ofNat n ++ rest) false
    cases shape : Decimal.ofNat n with
    | nil => exact absurd shape nonempty
    | cons c ds =>
      rw [shape] at digits read
      rw [Decimal.ofInt, shape, List.cons_append, value_of_digit (digits c (by simp))]
      exact read
  | negSucc n =>
    obtain ⟨nonempty, digits⟩ := Decimal.ofNat_isDigits (n + 1)
    have read := signed_ofNat (n := n + 1) ends admitted ('-' :: Decimal.ofNat (n + 1) ++ rest) true
    cases shape : Decimal.ofNat (n + 1) with
    | nil => exact absurd shape nonempty
    | cons c ds =>
      rw [shape] at digits read
      rw [Decimal.ofInt, shape, List.cons_append, List.cons_append,
        value_of_minus (digits c (by simp))]
      exact read

end Json

/-- Different integers are written differently, for they are read back. -/
theorem Decimal.ofInt_injective : Function.Injective ofInt := by
  intro i j same
  have ends : Json.EndsNumber [] := by simp [Json.EndsNumber]
  have read (k : Int) : Json.value none none 1 (ofInt k ++ []) = .ok (.int k, []) :=
    Json.value_ofInt ends rfl
  have both := (read i).symm.trans (same ▸ read j)
  simpa using both

theorem Decimal.text_injective : Function.Injective text := by
  intro i j same
  exact ofInt_injective (String.ofList_injective same)

end IndexScan
