import IndexScan.Proofs.Json.Numbers
import IndexScan.Proofs.Text.Figures

/-!
Numerals. A string of ASCII digits of a size that is read at all is read as its value
(`read_of_isDigits`), and so is every written integer (`readAscii_ofInt_eq`). What is read is never
too long to be written (`fits_of_read`), and it is spelled without marks of other kinds
(`spells_of_read`).
-/

namespace IndexScan.Numeral

open Decimal Text

theorem digitValue?_of_isDigit {c : Char} (digit : c.isDigit = true) :
    digitValue? c = some (c.toNat - '0'.toNat) := by
  have code := Char.isDigit_iff_toNat.mp digit
  have small := digit_lt digit
  simp only [Char.reduceToNat] at small code
  have inside : (decide (0x0030 ≤ c.toNat) && decide (c.toNat ≤ 0x0039)) = true := by
    simpa using code
  -- The digits of ASCII are the first block.
  have found : digitRanges.find? (fun r => r.1 ≤ c.toNat && c.toNat ≤ r.2) =
      some (0x0030, 0x0039) :=
    List.find?_cons_of_pos inside
  rw [digitValue?, found, Option.map_some, Nat.mod_eq_of_lt small]
  rfl

/-- A string of digits is made of figures without underscores. -/
theorem figures_of_isDigits {cs : List Char} (digits : IsDigits cs) :
    Figures cs (cs.map fun c => c.toNat - '0'.toNat) := by
  obtain ⟨nonempty, all⟩ := digits
  induction cs with
  | nil => exact absurd rfl nonempty
  | cons c cs ih =>
    have head := digitValue?_of_isDigit (all c (by simp))
    cases cs with
    | nil => exact .last head
    | cons d cs => exact .next head (ih (by simp) fun e mem => all e (by simp [mem]))

/-- A sign and digits write a numeral without blanks. -/
theorem writes_of_isDigits {sign cs : List Char} {negative : Bool} (signed : Sign sign negative)
    (digits : IsDigits cs) :
    Writes (sign ++ cs) negative (cs.map fun c => c.toNat - '0'.toNat) := by
  have written :
      Writes ([] ++ (sign ++ cs) ++ []) negative (cs.map fun c => c.toNat - '0'.toNat) :=
    .intro (by simp) signed (figures_of_isDigits digits) (by simp)
  simpa using written

theorem ofDigits_map (cs : List Char) :
    ofDigits (cs.map fun c => c.toNat - '0'.toNat) = value cs := by
  rw [ofDigits, List.foldl_map]
  rfl

theorem denoted_of_isDigits (negative : Bool) (cs : List Char) :
    denoted negative (cs.map fun c => c.toNat - '0'.toNat) =
      if negative then -(value cs : Int) else (value cs : Int) := by
  rw [denoted, ofDigits_map]

/-- A string of digits is read as its value, unless there are too many. -/
theorem read_of_isDigits {cs : List Char} (digits : IsDigits cs) (short : cs.length ≤ limit) :
    read cs = .ok (value cs : Int) := by
  have writes : Writes cs false (cs.map fun c => c.toNat - '0'.toNat) :=
    writes_of_isDigits .none digits
  rw [read_of_writes writes, List.length_map, if_neg (Nat.not_lt.mpr short), denoted_of_isDigits]
  rfl

/-! ### What is read -/

theorem digitValue?_lt {c : Char} {d : Nat} (digit : digitValue? c = some d) : d < 10 := by
  obtain ⟨block, -, rfl⟩ := Option.map_eq_some_iff.mp digit
  exact Nat.mod_lt _ (by decide)

theorem Figures.lt {cs : List Char} {ds : List Nat} (figures : Figures cs ds) :
    ∀ d ∈ ds, d < 10 := by
  induction figures with
  | last digit => exact List.forall_mem_singleton.mpr (digitValue?_lt digit)
  | next digit _ ih | parted digit _ ih =>
    exact List.forall_mem_cons.mpr ⟨digitValue?_lt digit, ih⟩

/-- The characters that numerals are spelled with, signs and blanks around them apart. -/
def Spells (c : Char) : Prop :=
  c = '_' ∨ ∃ d, digitValue? c = some d

theorem Figures.spells {cs : List Char} {ds : List Nat} (figures : Figures cs ds) :
    ∀ c ∈ cs, Spells c := by
  induction figures with
  | last digit => exact List.forall_mem_singleton.mpr (.inr ⟨_, digit⟩)
  | next digit _ ih => exact List.forall_mem_cons.mpr ⟨.inr ⟨_, digit⟩, ih⟩
  | parted digit _ ih =>
    exact List.forall_mem_cons.mpr ⟨.inr ⟨_, digit⟩, List.forall_mem_cons.mpr ⟨.inl rfl, ih⟩⟩

theorem ofDigits_lt {ds : List Nat} (small : ∀ d ∈ ds, d < 10) {k : Nat} (short : ds.length ≤ k) :
    ofDigits ds < Nat.pow 10 k := by
  have step (n : Nat) (ds : List Nat) (small : ∀ d ∈ ds, d < 10) :
      ds.foldl (fun n d => 10 * n + d) n < (n + 1) * 10 ^ ds.length := by
    induction ds generalizing n with
    | nil => simp
    | cons d ds ih =>
      have below := ih (10 * n + d) fun e mem => small e (by simp [mem])
      have digit := small d (by simp)
      calc (d :: ds).foldl (fun n d => 10 * n + d) n < (10 * n + d + 1) * 10 ^ ds.length := below
        _ ≤ ((n + 1) * 10) * 10 ^ ds.length := Nat.mul_le_mul_right _ (by omega)
        _ = (n + 1) * 10 ^ (d :: ds).length := by
          rw [List.length_cons, Nat.pow_succ', Nat.mul_assoc]
  have below : ofDigits ds < 10 ^ ds.length := by simpa [ofDigits] using step 0 ds small
  exact Nat.lt_of_lt_of_le below (Nat.pow_le_pow_right (by decide) short)

/-- A number that is read is short enough to be written. -/
theorem fits_of_read {cs : List Char} {n : Int} (numeral : read cs = .ok n) :
    Decimal.fits n = true := by
  obtain ⟨negative, ds, writes, short, rfl⟩ := read_ok_iff.mp numeral
  obtain ⟨-, -, figures, -⟩ := writes
  have below := ofDigits_lt figures.lt short
  have size : (denoted negative ds).natAbs = ofDigits ds := by
    cases negative
    · rfl
    · exact Int.natAbs_neg _
  rw [fits, decide_eq_true_eq, size]
  exact below

/-- Every character of a numeral is a blank, a sign, or one that spells numerals. -/
theorem spells_of_read {cs : List Char} {n : Int} (numeral : read cs = .ok n) {c : Char}
    (mem : c ∈ cs) : isNumeralBlank c = true ∨ c = '-' ∨ c = '+' ∨ Spells c := by
  obtain ⟨negative, ds, ⟨before, signed, figures, after⟩, -, -⟩ := read_ok_iff.mp numeral
  rcases List.mem_append.mp mem with mem | mem
  · rcases List.mem_append.mp mem with mem | mem
    · exact .inl (before c mem)
    · rcases List.mem_append.mp mem with mem | mem
      · cases signed with
        | none => cases mem
        | plus => exact .inr (.inr (.inl (List.mem_singleton.mp mem)))
        | minus => exact .inr (.inl (List.mem_singleton.mp mem))
      · exact .inr (.inr (.inr (figures.spells c mem)))
  · exact .inl (after c mem)

/-! ### Written numbers -/

theorem isAscii_of_isDigits {cs : List Char} (digits : IsDigits cs) :
    cs.all (fun c => c.toNat < 128) = true := by
  refine List.all_eq_true.mpr fun c mem => ?_
  have code := Char.isDigit_iff_toNat.mp (digits.2 c mem)
  simp only [Char.reduceToNat] at code
  simp
  omega

/-- A written integer is ASCII and writes the digits of its size. -/
theorem writes_ofInt (n : Int) : (ofInt n).all (fun c => c.toNat < 128) = true ∧
    ∃ negative ds, Writes (ofInt n) negative ds ∧ ds.length = (ofNat n.natAbs).length ∧
      denoted negative ds = n := by
  cases n with
  | ofNat n =>
    have digits := ofNat_isDigits n
    refine ⟨isAscii_of_isDigits digits, _, _, writes_of_isDigits .none digits,
      List.length_map _, (denoted_of_isDigits false (ofNat n)).trans ?_⟩
    rw [value_ofNat]
    rfl
  | negSucc n =>
    have digits := ofNat_isDigits (n + 1)
    refine ⟨?_, _, _, writes_of_isDigits .minus digits, List.length_map _,
      (denoted_of_isDigits true (ofNat (n + 1))).trans ?_⟩
    · rw [ofInt, List.all_cons, isAscii_of_isDigits digits]
      rfl
    · rw [value_ofNat]
      rfl

/-- A written integer is read back, whatever its sign, unless it is too long. -/
theorem readAscii_ofInt_eq (n : Int) : readAscii (ofInt n) =
    if limit < (ofNat n.natAbs).length then .error (.tooLong (ofNat n.natAbs).length)
    else .ok n := by
  obtain ⟨ascii, negative, ds, writes, length, size⟩ := writes_ofInt n
  rw [readAscii, if_pos ascii, read_of_writes writes, length, size]

theorem readAscii_ofInt {n : Int} (short : (ofNat n.natAbs).length ≤ limit) :
    readAscii (ofInt n) = .ok n := by
  rw [readAscii_ofInt_eq, if_neg (Nat.not_lt.mpr short)]

/-- A written number is read back. -/
theorem readAscii_ofNat {n : Nat} (short : (ofNat n).length ≤ limit) :
    readAscii (ofNat n) = .ok (n : Int) :=
  readAscii_ofInt (n := n) short

end IndexScan.Numeral
