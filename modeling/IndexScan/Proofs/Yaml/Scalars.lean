import IndexScan.Proofs.Text.Numeral
import IndexScan.Proofs.Yaml.Values

/-!
What written scalars denote. A text that is written is a scalar that denotes this text, in whatever
style it is written (`ofText_denotes`), and the digits of a number are one that denotes the number
(`ofNat_denotes`).
-/

namespace IndexScan.Yaml

variable {cs : List Char}

/-! ### Characters and code points -/

theorem isSurrogate_of_mem {n : Nat} (mem : n ∈ pointsOf cs) : Scalar.isSurrogate n = false := by
  obtain ⟨c, -, rfl⟩ := List.mem_map.mp mem
  have valid := Json.toNat_valid c
  simp only [Scalar.isSurrogate, Bool.and_eq_false_iff, decide_eq_false_iff_not]
  omega

theorem any_isSurrogate (cs : List Char) : (pointsOf cs).any Scalar.isSurrogate = false := by
  rw [List.any_eq_false]
  intro n mem
  rw [isSurrogate_of_mem mem]
  exact Bool.false_ne_true

theorem chars_pointsOf (cs : List Char) : Scalar.chars (pointsOf cs) = cs :=
  Json.map_ofNat_toNat cs

theorem text_pointsOf (cs : List Char) : Scalar.text (pointsOf cs) = .str (String.ofList cs) := by
  rw [Scalar.text, any_isSurrogate, if_neg Bool.false_ne_true, chars_pointsOf]

/-! ### Texts -/

/-- The scalar that a text is written as. -/
def Leaf.ofText (cs : List Char) : Leaf :=
  ⟨pointsOf cs, Writer.allowsPlain cs⟩

/-- A text is written in such a style that it is read as a text. -/
theorem Leaf.ofText_denotes (cs : List Char) : (ofText cs).Denotes (.str (String.ofList cs)) := by
  refine .inl ⟨?_, (text_pointsOf cs).symm⟩
  rw [Leaf.tag, ofText, Build.scalarTag]
  by_cases plain : Writer.allowsPlain cs = true
  · rw [if_pos plain]
    exact (allowsPlain_iff.mp plain).2.2.2.2.2.2
  · rw [if_neg plain]

/-- A word that is written as it is. -/
def Leaf.ofWord (cs : List Char) : Leaf :=
  ⟨pointsOf cs, true⟩

/-- A word that looks like a text denotes itself. -/
theorem Leaf.ofWord_denotes (typed : Tag.ofPlain (pointsOf cs) = .str) :
    (ofWord cs).Denotes (.str (String.ofList cs)) :=
  .inl ⟨typed, (text_pointsOf cs).symm⟩

/-! ### Numbers -/

/-- The digits of a number, without superfluous zeros in front. -/
structure IsNumeral (cs : List Char) : Prop where
  digits : Decimal.IsDigits cs
  plain : cs = ['0'] ∨ cs.head? ≠ some '0'

theorem isNumeral_ofNat (n : Nat) : IsNumeral (Decimal.ofNat n) := by
  refine ⟨Decimal.ofNat_isDigits n, ?_⟩
  rcases Nat.eq_zero_or_pos n with rfl | positive
  · exact .inl (by decide)
  · refine .inr fun zero => ?_
    obtain ⟨ds, same⟩ := List.head?_eq_some_iff.mp zero
    exact Decimal.ofNat_head_ne_zero positive same

section IsNumeral

theorem ne_of_isDigit {c d : Char} (digit : c.isDigit = true) (other : d.isDigit = false) :
    c ≠ d := by
  rintro rfl
  rw [digit] at other
  cases other

theorem toNat_ne_of_isDigit {c d : Char} (digit : c.isDigit = true) (other : d.isDigit = false) :
    c.toNat ≠ d.toNat :=
  fun same => ne_of_isDigit digit other (Char.toNat_inj.mp same)

theorem IsNumeral.cons (numeral : IsNumeral cs) : ∃ c rest, cs = c :: rest ∧ c.isDigit = true ∧
    (∀ d ∈ rest, d.isDigit = true) ∧ (c = '0' → rest = []) := by
  obtain ⟨⟨nonempty, digits⟩, plain⟩ := numeral
  cases cs with
  | nil => exact absurd rfl nonempty
  | cons c rest =>
    refine ⟨c, rest, rfl, digits c (by simp), fun d mem => digits d (by simp [mem]), ?_⟩
    rintro rfl
    rcases plain with plain | plain
    · exact (List.cons.inj plain).2
    · exact absurd rfl plain

theorem takeWhile_digits (digits : ∀ c ∈ cs, c.isDigit = true) :
    cs.takeWhile isDigitOrUnderscore = cs := by
  rw [List.takeWhile_eq_self_iff]
  intro c mem
  simp [isDigitOrUnderscore, digits c mem]

theorem IsNumeral.unsigned_eq (numeral : IsNumeral cs) : unsigned cs = cs := by
  obtain ⟨c, rest, rfl, digit, -, -⟩ := numeral.cons
  unfold unsigned
  split
  · next same => exact absurd (List.cons.inj same).1 (ne_of_isDigit digit rfl)
  · next same => exact absurd (List.cons.inj same).1 (ne_of_isDigit digit rfl)
  · rfl

/-- No number is one of some words that begin otherwise. -/
theorem IsNumeral.not_word (numeral : IsNumeral cs) (words : List String)
    (other : ∀ w ∈ words, w.toList.head?.all (fun c => !c.isDigit)) :
    (words.any fun w => decide (w.toList = cs)) = false := by
  obtain ⟨c, rest, rfl, digit, -, -⟩ := numeral.cons
  rw [List.any_eq_false]
  intro w mem same
  have first := other w mem
  rw [of_decide_eq_true same] at first
  simp [digit] at first

theorem IsNumeral.looksBool_eq (numeral : IsNumeral cs) : looksBool cs = false :=
  numeral.not_word _ (by decide)

theorem IsNumeral.looksFloat_eq (numeral : IsNumeral cs) : looksFloat cs = false := by
  have digits := takeWhile_digits numeral.digits.2
  have infinite := numeral.not_word [".inf", ".Inf", ".INF"] (by decide)
  have notNumber := numeral.not_word [".nan", ".NaN", ".NAN"] (by decide)
  have body := numeral.unsigned_eq
  obtain ⟨c, rest, rfl, digit, -, -⟩ := numeral.cons
  have point : c ≠ '.' := ne_of_isDigit digit rfl
  rw [looksFloat]
  simp only [body, digits, List.drop_length, infinite, notNumber, Bool.or_false]
  · simp [isSexagesimalTail]
  · intro d more same
    exact point (List.cons.inj same).1

theorem IsNumeral.looksInt_eq (numeral : IsNumeral cs) : looksInt cs = true := by
  have digits := takeWhile_digits numeral.digits.2
  have body := numeral.unsigned_eq
  obtain ⟨c, rest, rfl, digit, -, zero⟩ := numeral.cons
  by_cases first : c = '0'
  · rw [first, zero first]
    rfl
  · rw [looksInt]
    simp only [body]
    split
    · next same => exact absurd (List.cons.inj same).1 first
    · next same => exact absurd (List.cons.inj same).1 first
    · next same => exact absurd (List.cons.inj same).1 first
    · next same => exact absurd (List.cons.inj same).1 first
    · next same =>
      cases same
      simp [digits, digit]
    · next same => cases same

theorem IsNumeral.ofPlain_eq (numeral : IsNumeral cs) : Tag.ofPlain (pointsOf cs) = .int := by
  have whole : (pointsOf cs).any (fun n => 0xD800 ≤ n && n < 0xE000) = false := any_isSurrogate cs
  have chars : (pointsOf cs).map Char.ofNat = cs := chars_pointsOf cs
  simp only [Tag.ofPlain, whole, chars, numeral.looksBool_eq, numeral.looksFloat_eq,
    numeral.looksInt_eq, Bool.false_eq_true, if_false, if_true]

/-- Without a zero in front and without colons, a number is read in base ten. -/
theorem magnitude_of_head {n : Nat} {ps : Points} (head : n ≠ '0'.toNat)
    (colon : ':'.toNat ∉ n :: ps) :
    Scalar.integer.magnitude (n :: ps) = Scalar.integerInBase 10 (n :: ps) := by
  have zero : ¬ 48 = n := fun same => head same.symm
  have binary : Scalar.after? "0b" (n :: ps) = none := by simp [Scalar.after?, zero]
  have hexadecimal : Scalar.after? "0x" (n :: ps) = none := by simp [Scalar.after?, zero]
  have one : ¬ n :: ps = ['0'.toNat] := fun same => head (List.cons.inj same).1
  have parted : (n :: ps).contains ':'.toNat = false := by simpa using colon
  rw [Scalar.integer.magnitude, if_neg one]
  simp only [binary, hexadecimal, head, parted, if_false, Bool.false_eq_true]

/-- A number has the value of its digits, in base ten. -/
theorem IsNumeral.integer_eq (numeral : IsNumeral cs) (short : cs.length ≤ Decimal.limit) :
    Scalar.integer (pointsOf cs) = .ok (Decimal.value cs : Int) := by
  have read := Numeral.read_of_isDigits numeral.digits short
  have spelled : Scalar.withoutUnderscores (pointsOf cs) = pointsOf cs := by
    rw [Scalar.withoutUnderscores, List.filter_eq_self]
    intro n mem
    obtain ⟨c, inside, rfl⟩ := List.mem_map.mp mem
    exact decide_eq_true (toNat_ne_of_isDigit (numeral.digits.2 c inside) rfl)
  have sign : Scalar.splitSign (pointsOf cs) = .ok (false, pointsOf cs) := by
    obtain ⟨c, rest, rfl, digit, -, -⟩ := numeral.cons
    have minus : c.toNat ≠ '-'.toNat := toNat_ne_of_isDigit digit rfl
    have plus : c.toNat ≠ '+'.toNat := toNat_ne_of_isDigit digit rfl
    change (if c.toNat = '-'.toNat then _ else _) = _
    rw [if_neg minus, if_neg plus]
  have based : Scalar.integerInBase 10 (pointsOf cs) = .ok (Decimal.value cs : Int) := by
    simp only [Scalar.integerInBase, if_true, chars_pointsOf, read]
  have magnitude : Scalar.integer.magnitude (pointsOf cs) = .ok (Decimal.value cs : Int) := by
    obtain ⟨c, rest, rfl, digit, digits, zero⟩ := numeral.cons
    by_cases first : c = '0'
    · rw [first, zero first]
      rfl
    · have colon : ':'.toNat ∉ pointsOf (c :: rest) := by
        rw [pointsOf, List.mem_map]
        rintro ⟨d, mem, same⟩
        exact toNat_ne_of_isDigit (numeral.digits.2 d mem) rfl same
      rw [← based]
      exact magnitude_of_head (fun same => first (Char.toNat_inj.mp same)) colon
  rw [Scalar.integer, spelled, sign]
  simp only [bind, Except.bind, magnitude]
  rfl

end IsNumeral

/-- The digits of a number denote the number. -/
theorem Leaf.ofNat_denotes {n : Nat} (short : (Decimal.ofNat n).length ≤ Decimal.limit) :
    (ofWord (Decimal.ofNat n)).Denotes (.int n) := by
  have numeral := isNumeral_ofNat n
  refine .inr ⟨n, numeral.ofPlain_eq, ?_, rfl⟩
  rw [ofWord, numeral.integer_eq short, Decimal.value_ofNat]

end IndexScan.Yaml
