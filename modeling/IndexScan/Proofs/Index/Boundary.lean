import IndexScan.Value
import Mathlib.Algebra.Order.Ring.Nat

/-!
The hardened boundary is never bypassed. An integer becomes an index, or the limit of a mode,
exactly when it lies below the boundary and is not negative (`Guards`, `guards_toIndex?`); whatever
is no integer is refused for what it is (`limits_guarded`).

An integer from the boundary on is refused as hardened, but only as long as it is short enough to be
written: the refusal names it, and an integer that cannot be written is refused for its length
instead (`hardened_unnamed`).
-/

namespace IndexScan

/-! ### What an integer becomes -/

/-- An integer is written when it has at most `Decimal.limit` digits. -/
theorem Decimal.fits_iff_lt {n : Int} : fits n = true ↔ n.natAbs < 10 ^ limit := by
  rw [fits, decide_eq_true_iff, Nat.pow_eq]

namespace UnhardenedIndex

/-- What becomes of the integer `n`, taken for an index: the four cases exclude each other. -/
inductive Taken (n : Int) : Except IndexError UnhardenedIndex → Prop where
  | made (i : UnhardenedIndex) (carried : (i.value : Int) = n) : Taken n (.ok i)
  | hardened (m : Nat) (named : (m : Int) = n) (reached : hardenedBoundary ≤ m)
      (short : m < 10 ^ Decimal.limit) : Taken n (.error (.hardened m))
  | negative (below : n < 0) (short : n.natAbs < 10 ^ Decimal.limit) :
      Taken n (.error (.negative n))
  | tooLong (outside : n < 0 ∨ hardenedBoundary ≤ n) (long : 10 ^ Decimal.limit ≤ n.natAbs) :
      Taken n (.error .tooLong)

theorem taken_ofInt? (n : Int) : Taken n (ofInt? n) := by
  cases n with
  | ofNat m =>
    rw [ofInt?]
    by_cases below : m < hardenedBoundary
    · rw [dif_pos below]
      exact .made ⟨m, below⟩ rfl
    · have reached := Nat.le_of_not_lt below
      rw [dif_neg below]
      by_cases short : Decimal.fits m = true
      · rw [if_pos short]
        exact .hardened m rfl reached (Decimal.fits_iff_lt.mp short)
      · have long := Nat.le_of_not_lt (mt Decimal.fits_iff_lt.mpr short)
        rw [if_neg short]
        exact .tooLong (.inr (Int.ofNat_le.mpr reached)) long
  | negSucc m =>
    rw [ofInt?]
    by_cases short : Decimal.fits (.negSucc m) = true
    · rw [if_pos short]
      exact .negative (Int.negSucc_lt_zero m) (Decimal.fits_iff_lt.mp short)
    · have long := Nat.le_of_not_lt (mt Decimal.fits_iff_lt.mpr short)
      rw [if_neg short]
      exact .tooLong (.inl (Int.negSucc_lt_zero m)) long

end UnhardenedIndex

namespace Value

open UnhardenedIndex

/-! ### Guarded constructions -/

/-- The construction of `make i` from an integer guards the boundary: its `outcome` for `n` is made
of the index that carries `n`, or says in which way `n` is none. -/
structure Guards {α : Type} (make : UnhardenedIndex → α) (n : Int) (outcome : Except NoIndex α) :
    Prop where
  made : (∃ a, outcome = .ok a) ↔ 0 ≤ n ∧ n < hardenedBoundary
  carried : ∀ a, outcome = .ok a → ∃ i : UnhardenedIndex, (i.value : Int) = n ∧ a = make i
  hardened : ∀ m : Nat, outcome = .error (.outOfRange (.hardened m)) ↔
    (m : Int) = n ∧ hardenedBoundary ≤ m ∧ m < 10 ^ Decimal.limit
  negative : ∀ m : Int, outcome = .error (.outOfRange (.negative m)) ↔
    m = n ∧ n < 0 ∧ n.natAbs < 10 ^ Decimal.limit
  tooLong : outcome = .error (.outOfRange .tooLong) ↔
    (n < 0 ∨ hardenedBoundary ≤ n) ∧ 10 ^ Decimal.limit ≤ n.natAbs
  outOfRange : ∀ name, outcome ≠ .error (.notInteger name)

variable {α β : Type} {make : UnhardenedIndex → α} {n : Int}

/-- Whichever of the four cases it is, the boundary is guarded. -/
theorem Guards.ofTaken {r : Except IndexError UnhardenedIndex} (taken : Taken n r) :
    Guards id n (r.mapError .outOfRange) := by
  cases taken with
  | made i carried =>
    have below := i.value_lt
    simp only [Except.mapError]
    refine ⟨⟨fun _ => ⟨by omega, by omega⟩, fun _ => ⟨i, rfl⟩⟩, ?_, ?_, ?_, ?_, ?_⟩
    · rintro a ⟨⟩
      exact ⟨i, carried, rfl⟩
    · exact fun m => ⟨nofun, fun ⟨named, reached, _⟩ => by omega⟩
    · exact fun m => ⟨nofun, fun ⟨_, negative, _⟩ => by omega⟩
    · exact ⟨nofun, fun ⟨outside, _⟩ => by omega⟩
    · exact nofun
  | hardened m named reached short =>
    simp only [Except.mapError]
    refine ⟨⟨nofun, fun ⟨_, below⟩ => by omega⟩, nofun, ?_, ?_, ?_, nofun⟩
    · intro k
      constructor
      · rintro ⟨⟩
        exact ⟨named, reached, short⟩
      · rintro ⟨same, -, -⟩
        have : m = k := by omega
        rw [this]
    · exact fun k => ⟨nofun, fun ⟨_, negative, _⟩ => by omega⟩
    · exact ⟨nofun, fun ⟨_, long⟩ => by omega⟩
  | negative below short =>
    simp only [Except.mapError]
    refine ⟨⟨nofun, fun ⟨nonneg, _⟩ => by omega⟩, nofun, ?_, ?_, ?_, nofun⟩
    · exact fun k => ⟨nofun, fun ⟨named, _, _⟩ => by omega⟩
    · intro k
      constructor
      · rintro ⟨⟩
        exact ⟨rfl, below, short⟩
      · rintro ⟨rfl, -, -⟩
        rfl
    · exact ⟨nofun, fun ⟨_, long⟩ => by omega⟩
  | tooLong outside long =>
    simp only [Except.mapError]
    refine ⟨⟨nofun, fun ⟨nonneg, below⟩ => by omega⟩, nofun, ?_, ?_, ?_, nofun⟩
    · exact fun k => ⟨nofun, fun ⟨named, _, short⟩ => by omega⟩
    · exact fun k => ⟨nofun, fun ⟨_, _, short⟩ => by omega⟩
    · exact ⟨fun _ => ⟨outside, long⟩, fun _ => rfl⟩

/-- What is made of a guarded construction is guarded as well. -/
theorem Guards.map {outcome : Except NoIndex α} (guards : Guards make n outcome) (f : α → β) :
    Guards (f ∘ make) n (outcome.map f) := by
  cases outcome with
  | ok a =>
    refine ⟨⟨fun _ => guards.made.mp ⟨a, rfl⟩, fun _ => ⟨f a, rfl⟩⟩, ?_, ?_, ?_, ?_, ?_⟩
    · rintro b ⟨⟩
      obtain ⟨i, carried, rfl⟩ := guards.carried a rfl
      exact ⟨i, carried, rfl⟩
    · exact fun m => ⟨nofun, fun so => nomatch (guards.hardened m).mpr so⟩
    · exact fun m => ⟨nofun, fun so => nomatch (guards.negative m).mpr so⟩
    · exact ⟨nofun, fun so => nomatch guards.tooLong.mpr so⟩
    · exact nofun
  | error e =>
    refine ⟨⟨nofun, fun so => ?_⟩, nofun, ?_, ?_, ?_, ?_⟩
    · obtain ⟨a, made⟩ := guards.made.mpr so
      exact nomatch made
    · intro m
      rw [← guards.hardened m]
      exact ⟨fun | rfl => rfl, fun | rfl => rfl⟩
    · intro m
      rw [← guards.negative m]
      exact ⟨fun | rfl => rfl, fun | rfl => rfl⟩
    · rw [← guards.tooLong]
      exact ⟨fun | rfl => rfl, fun | rfl => rfl⟩
    · rintro name ⟨⟩
      exact guards.outOfRange name rfl

/-- An integer becomes an index below the boundary, or is refused for where it lies. -/
theorem guards_toIndex? (n : Int) : Guards id n (toIndex? (.plain (.int n))) :=
  .ofTaken (taken_ofInt? n)

/-! ### Limits -/

/-- The kinds of mode that have a limit, with the mode that a limit makes. -/
inductive Limited : Mode.Kind → (UnhardenedIndex → Mode) → Prop where
  | first : Limited .first .first
  | random : Limited .random .random

variable {kind : Mode.Kind} {make : UnhardenedIndex → Mode}

theorem toMode?_of_limited (limited : Limited kind make) (v : Value) :
    toMode? kind v = (toLimit? v).map make := by
  cases limited with
  | first => rfl
  | random => rfl

/-- An integer limits a mode exactly as the index that it becomes does. -/
theorem guards_toMode? (limited : Limited kind make) (n : Int) :
    Guards make n (toMode? kind (.plain (.int n))) := by
  rw [toMode?_of_limited limited]
  exact (guards_toIndex? n).map make

/-- A value that is no integer is refused for its type. -/
theorem toIndex?_of_not_int {v : Value} (noInteger : ∀ n, v ≠ .plain (.int n)) :
    toIndex? v = .error (.notInteger v.typeName) := by
  cases v with
  | plain d =>
    cases d with
    | int n => exact absurd rfl (noInteger n)
    | _ => rfl
  | index i => rfl
  | mode m => rfl

theorem toMode?_of_not_int (limited : Limited kind make) {v : Value}
    (noInteger : ∀ n, v ≠ .plain (.int n)) (noIndex : ∀ i, v ≠ .index i) :
    toMode? kind v = .error (.notInteger v.typeName) := by
  have limit : toLimit? v = toIndex? v := by
    cases v with
    | plain d => rfl
    | index i => exact absurd rfl (noIndex i)
    | mode m => rfl
  rw [toMode?_of_limited limited, limit, toIndex?_of_not_int noInteger]
  rfl

/-- Every construction guards the boundary: that of an index, and those of the modes with a limit,
which make of an integer what they make of the index that it becomes. Values that are no integers,
truth values among them, are refused for their type. -/
theorem limits_guarded (v : Value) :
    (∀ n : Int, v = .plain (.int n) →
      Guards id n (toIndex? v) ∧
      ∀ kind make, Limited kind make →
        Guards make n (toMode? kind v) ∧
        ∀ i, toIndex? v = .ok i → toMode? kind (.index i) = toMode? kind v) ∧
    ((∀ n : Int, v ≠ .plain (.int n)) →
      toIndex? v = .error (.notInteger v.typeName) ∧
      ∀ kind make, Limited kind make → (∀ i, v ≠ .index i) →
        toMode? kind v = .error (.notInteger v.typeName)) := by
  constructor
  · rintro n rfl
    refine ⟨guards_toIndex? n, fun kind make limited => ⟨guards_toMode? limited n, ?_⟩⟩
    intro i made
    rw [toMode?_of_limited limited, toMode?_of_limited limited]
    have limit : toLimit? (.plain (.int n)) = .ok i := made
    rw [limit]
    rfl
  · intro noInteger
    refine ⟨toIndex?_of_not_int noInteger, fun kind make limited noIndex => ?_⟩
    exact toMode?_of_not_int limited noInteger noIndex

/-- The smallest integer that is too long to be written lies beyond the boundary, and no refusal
calls it hardened. -/
theorem hardened_unnamed :
    (hardenedBoundary : Int) ≤ (10 ^ Decimal.limit : Nat) ∧
    toIndex? (.plain (.int (10 ^ Decimal.limit : Nat))) = .error (.outOfRange .tooLong) ∧
    toMode? .first (.plain (.int (10 ^ Decimal.limit : Nat))) = .error (.outOfRange .tooLong) ∧
    toMode? .random (.plain (.int (10 ^ Decimal.limit : Nat))) = .error (.outOfRange .tooLong) := by
  have reached : hardenedBoundary ≤ 10 ^ Decimal.limit :=
    calc hardenedBoundary ≤ 10 ^ 10 := by decide
      _ ≤ 10 ^ Decimal.limit := Nat.pow_le_pow_right (by decide) (by decide)
  have long : 10 ^ Decimal.limit ≤ ((10 ^ Decimal.limit : Nat) : Int).natAbs :=
    Nat.le_of_eq (Int.natAbs_natCast _).symm
  have outside : ((10 ^ Decimal.limit : Nat) : Int) < 0 ∨
      (hardenedBoundary : Int) ≤ ((10 ^ Decimal.limit : Nat) : Int) :=
    .inr (Int.ofNat_le.mpr reached)
  refine ⟨Int.ofNat_le.mpr reached, ?_, ?_, ?_⟩
  · exact (guards_toIndex? _).tooLong.mpr ⟨outside, long⟩
  · exact (guards_toMode? .first _).tooLong.mpr ⟨outside, long⟩
  · exact (guards_toMode? .random _).tooLong.mpr ⟨outside, long⟩

end Value

end IndexScan
