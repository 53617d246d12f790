import IndexScan.Text.Numeral
import Mathlib.Data.List.TakeWhile
import Mathlib.Tactic.Common

/-!
The spelling of numerals. Free text spells an integer with figures, which are digits of any script
with single underscores between them, behind one sign at most and with blanks around (`Writes`). A
reader takes exactly these texts, unless they have too many digits: it tells a text that is no
spelling from one that is too long (`read_malformed_iff`, `read_tooLong_iff`, `read_ok_iff`).

The reader takes off blanks and then a sign. What a text writes is not lost in that, since no figure
is a blank and none begins with a sign (`read_of_writes`); and what is left when the reader is done
is a spelling of the whole text (`read_of_not_writes`).
-/

namespace IndexScan.Numeral

open Decimal Text

variable {cs left right sign body : List Char} {ds : List Nat} {c : Char} {d : Nat}
  {negative : Bool}

/-! ### Figures -/

/-- Digits of any script with single underscores between them, and the values of the digits. -/
inductive Figures : List Char → List Nat → Prop where
  | last {c : Char} {d : Nat} (digit : digitValue? c = some d) : Figures [c] [d]
  | next {c : Char} {d : Nat} {cs : List Char} {ds : List Nat} (digit : digitValue? c = some d)
      (more : Figures cs ds) : Figures (c :: cs) (d :: ds)
  | parted {c : Char} {d : Nat} {cs : List Char} {ds : List Nat} (digit : digitValue? c = some d)
      (more : Figures cs ds) : Figures (c :: '_' :: cs) (d :: ds)

/-- Figures begin with a digit. -/
theorem Figures.begins (figures : Figures cs ds) :
    ∃ c rest d, cs = c :: rest ∧ digitValue? c = some d := by
  cases figures with
  | last digit => exact ⟨_, _, _, rfl, digit⟩
  | next digit _ => exact ⟨_, _, _, rfl, digit⟩
  | parted digit _ => exact ⟨_, _, _, rfl, digit⟩

/-- An underscore and the signs are no digits. -/
theorem digitValue?_mark : ∀ mark ∈ ['_', '-', '+'], digitValue? mark = none := by
  simp only [List.forall_mem_cons, List.not_mem_nil, false_implies, implies_true, and_true]
  exact ⟨by decide, by decide, by decide⟩

theorem ne_of_digit (digit : digitValue? c = some d) {mark : Char}
    (other : mark ∈ ['_', '-', '+']) : c ≠ mark := by
  rintro rfl
  rw [digitValue?_mark c other] at digit
  cases digit

/-- The digits that are found in a text are those of its figures. -/
theorem digits?_eq_some_iff : digits? digitValue? cs = some ds ↔ Figures cs ds := by
  constructor
  · intro digits
    induction cs using digits?.induct digitValue? generalizing ds with
    | case1 => cases digits
    | case2 c rest none => simp [digits?, none] at digits
    | case3 c d digit =>
      simp only [digits?, digit, Option.some.injEq] at digits
      exact digits ▸ .last digit
    | case4 c d rest digit ih =>
      rw [digits?.eq_4 _ _ _ _ digit, Option.map_eq_some_iff] at digits
      obtain ⟨es, more, rfl⟩ := digits
      exact .parted digit (ih more)
    | case5 c d next rest plain digit ih =>
      rw [digits?.eq_5 _ _ _ _ _ plain digit, Option.map_eq_some_iff] at digits
      obtain ⟨es, more, rfl⟩ := digits
      exact .next digit (ih more)
  · intro figures
    induction figures with
    | last digit => simp [digits?, digit]
    | next digit more ih =>
      obtain ⟨e, rest, f, rfl, first⟩ := more.begins
      rw [digits?.eq_5 _ _ _ _ _ (ne_of_digit first (by decide)) digit, ih]
      rfl
    | parted digit more ih =>
      rw [digits?.eq_4 _ _ _ _ digit, ih]
      rfl

/-- The blanks beyond ASCII stand apart from all digits, which begin behind those of ASCII. -/
theorem digitRanges_apart : ∀ r ∈ digitRanges,
    0x30 ≤ r.1 ∧ ∀ b ∈ wideBlankRanges, r.2 < b.1 ∨ b.2 < r.1 := by
  decide +kernel

theorem not_blank_of_digit (digit : digitValue? c = some d) : isNumeralBlank c = false := by
  obtain ⟨r, found, -⟩ := Option.map_eq_some_iff.mp digit
  obtain ⟨above, apart⟩ := digitRanges_apart r (List.mem_of_find?_eq_some found)
  have inside : r.1 ≤ c.toNat ∧ c.toNat ≤ r.2 := by simpa using List.find?_some found
  have narrow : inRanges wideBlankRanges c = false := by
    refine Bool.eq_false_iff.mpr fun wide => ?_
    obtain ⟨b, mem, within⟩ := List.any_eq_true.mp wide
    simp only [Bool.and_eq_true, decide_eq_true_eq] at within
    have sides := apart b mem
    omega
  simp only [isNumeralBlank, narrow, Bool.or_false, Bool.or_eq_false_iff, Bool.and_eq_false_iff,
    beq_eq_false_iff_ne, decide_eq_false_iff_not]
  omega

theorem Figures.not_blank (figures : Figures cs ds) : ∀ c ∈ cs, isNumeralBlank c = false := by
  have underscore : isNumeralBlank '_' = false := by decide
  induction figures with
  | last digit => exact List.forall_mem_singleton.mpr (not_blank_of_digit digit)
  | next digit _ ih => exact List.forall_mem_cons.mpr ⟨not_blank_of_digit digit, ih⟩
  | parted digit _ ih =>
    exact List.forall_mem_cons.mpr
      ⟨not_blank_of_digit digit, List.forall_mem_cons.mpr ⟨underscore, ih⟩⟩

/-! ### Signs -/

/-- What stands in front of figures: nothing or one sign, and whether it is a minus sign. -/
inductive Sign : List Char → Bool → Prop where
  | none : Sign [] false
  | plus : Sign ['+'] false
  | minus : Sign ['-'] true

theorem Sign.not_blank (signed : Sign sign negative) : ∀ c ∈ sign, isNumeralBlank c = false := by
  cases signed with
  | none => exact List.forall_mem_nil _
  | plus => exact List.forall_mem_singleton.mpr (by decide)
  | minus => exact List.forall_mem_singleton.mpr (by decide)

/-- Every text falls into a sign and what stands behind it. -/
theorem exists_sign (cs : List Char) :
    ∃ sign, Sign sign (splitSign cs).1 ∧ cs = sign ++ (splitSign cs).2 := by
  unfold splitSign
  split
  · exact ⟨['-'], .minus, rfl⟩
  · exact ⟨['+'], .plus, rfl⟩
  · exact ⟨[], .none, rfl⟩

theorem splitSign_of_figures (signed : Sign sign negative) (figures : Figures body ds) :
    splitSign (sign ++ body) = (negative, body) := by
  cases signed with
  | none =>
    obtain ⟨c, rest, d, rfl, first⟩ := figures.begins
    rw [List.nil_append, splitSign.eq_3]
    · exact fun _ same => ne_of_digit first (by decide) (List.cons.inj same).1
    · exact fun _ same => ne_of_digit first (by decide) (List.cons.inj same).1
  | plus => rfl
  | minus => rfl

/-! ### Blanks around -/

/-- What is taken off the ends of a text are blanks. -/
theorem exists_trim (blank : Char → Bool) (cs : List Char) :
    ∃ left right, (∀ c ∈ left, blank c = true) ∧ (∀ c ∈ right, blank c = true) ∧
      cs = left ++ trim blank cs ++ right := by
  have ends : trimLeft blank cs = trim blank cs ++
      ((trimLeft blank cs).reverse.takeWhile blank).reverse := by
    rw [trim, trimRight, ← List.reverse_append, List.takeWhile_append_dropWhile,
      List.reverse_reverse]
  refine ⟨cs.takeWhile blank, ((trimLeft blank cs).reverse.takeWhile blank).reverse,
    fun c mem => List.mem_takeWhile_imp mem,
    fun c mem => List.mem_takeWhile_imp (List.mem_reverse.mp mem), ?_⟩
  rw [List.append_assoc, ← ends]
  exact List.takeWhile_append_dropWhile.symm

/-- A text without blanks is left when the blanks around it are taken off. -/
theorem trim_of_blanks {blank : Char → Bool} (before : ∀ c ∈ left, blank c = true)
    (solid : ∀ c ∈ body, blank c = false) (filled : body ≠ [])
    (after : ∀ c ∈ right, blank c = true) : trim blank (left ++ body ++ right) = body := by
  have stops (front behind : List Char) (fronted : ∀ c ∈ front, blank c = true)
      (stop : ∀ c ∈ behind.head?, blank c = false) :
      (front ++ behind).dropWhile blank = behind := by
    rw [List.dropWhile_append_of_pos fronted]
    cases behind with
    | nil => rfl
    | cons c rest => exact List.dropWhile_cons_of_neg (by simp [stop c rfl])
  have first : trimLeft blank (left ++ body ++ right) = body ++ right := by
    rw [List.append_assoc]
    refine stops left (body ++ right) before fun c mem => solid c ?_
    rw [List.head?_append, List.head?_eq_some_head filled, Option.some_or] at mem
    exact Option.some.inj mem ▸ List.head_mem filled
  have last : trimRight blank (body ++ right) = body := by
    rw [trimRight, List.reverse_append]
    rw [stops right.reverse body.reverse (fun c mem => after c (List.mem_reverse.mp mem))
      fun c mem => solid c (List.mem_reverse.mp (List.mem_of_mem_head? mem)),
      List.reverse_reverse]
  rw [trim, first, last]

/-! ### Numerals -/

/-- A text writes a numeral: figures with the digits `ds` behind one sign at most, and blanks
around. -/
inductive Writes : List Char → Bool → List Nat → Prop where
  | intro {left sign body right : List Char} {negative : Bool} {ds : List Nat}
      (before : ∀ c ∈ left, isNumeralBlank c = true) (signed : Sign sign negative)
      (figures : Figures body ds) (after : ∀ c ∈ right, isNumeralBlank c = true) :
      Writes (left ++ (sign ++ body) ++ right) negative ds

/-- The integer with the digits `ds`. -/
def denoted (negative : Bool) (ds : List Nat) : Int :=
  if negative then -(ofDigits ds : Int) else (ofDigits ds : Int)

/-- What a text writes is read, unless it has too many digits. -/
theorem read_of_writes (writes : Writes cs negative ds) :
    read cs = if limit < ds.length then .error (.tooLong ds.length)
      else .ok (denoted negative ds) := by
  obtain ⟨before, signed, figures, after⟩ := writes
  rename_i sign body _
  have solid : ∀ c ∈ sign ++ body, isNumeralBlank c = false :=
    List.forall_mem_append.mpr ⟨signed.not_blank, figures.not_blank⟩
  have filled : sign ++ body ≠ [] := by
    obtain ⟨c, rest, d, rfl, -⟩ := figures.begins
    simp
  simp only [read, trim_of_blanks before solid filled after, splitSign_of_figures signed figures,
    digits?_eq_some_iff.mpr figures]
  rfl

/-- A text that writes nothing is malformed. -/
theorem read_of_not_writes (none : ∀ negative ds, ¬ Writes cs negative ds) :
    read cs = .error .malformed := by
  obtain ⟨left, right, before, after, whole⟩ := exists_trim isNumeralBlank cs
  obtain ⟨sign, signed, parts⟩ := exists_sign (trim isNumeralBlank cs)
  cases digits : digits? digitValue? (splitSign (trim isNumeralBlank cs)).2 with
  | none => simp only [read, digits]
  | some ds =>
    have writes := Writes.intro before signed (digits?_eq_some_iff.mp digits) after
    rw [← parts, ← whole] at writes
    exact absurd writes (none _ _)

theorem read_malformed_iff :
    read cs = .error .malformed ↔ ∀ negative ds, ¬ Writes cs negative ds := by
  refine ⟨fun malformed negative ds writes => ?_, read_of_not_writes⟩
  rw [read_of_writes writes] at malformed
  split_ifs at malformed
  cases malformed

theorem read_tooLong_iff {n : Nat} : read cs = .error (.tooLong n) ↔
    ∃ negative ds, Writes cs negative ds ∧ ds.length = n ∧ limit < n := by
  constructor
  · intro long
    by_cases some : ∃ negative ds, Writes cs negative ds
    · obtain ⟨negative, ds, writes⟩ := some
      rw [read_of_writes writes] at long
      split_ifs at long with many
      cases long
      exact ⟨negative, ds, writes, rfl, many⟩
    · rw [read_of_not_writes fun negative ds writes => some ⟨negative, ds, writes⟩] at long
      cases long
  · rintro ⟨negative, ds, writes, rfl, many⟩
    rw [read_of_writes writes, if_pos many]

theorem read_ok_iff {v : Int} : read cs = .ok v ↔
    ∃ negative ds, Writes cs negative ds ∧ ds.length ≤ limit ∧ denoted negative ds = v := by
  constructor
  · intro numeral
    by_cases some : ∃ negative ds, Writes cs negative ds
    · obtain ⟨negative, ds, writes⟩ := some
      rw [read_of_writes writes] at numeral
      split_ifs at numeral with many
      cases numeral
      exact ⟨negative, ds, writes, Nat.not_lt.mp many, rfl⟩
    · rw [read_of_not_writes fun negative ds writes => some ⟨negative, ds, writes⟩] at numeral
      cases numeral
  · rintro ⟨negative, ds, writes, few, rfl⟩
    rw [read_of_writes writes, if_neg (Nat.not_lt.mpr few)]

/-- The reader refuses the texts that write nothing and those that write too many digits. -/
theorem read_error_iff : (∃ refusal, read cs = .error refusal) ↔
    (∀ negative ds, ¬ Writes cs negative ds) ∨
      ∃ negative ds, Writes cs negative ds ∧ limit < ds.length := by
  constructor
  · rintro ⟨malformed | digits, refused⟩
    · exact .inl (read_malformed_iff.mp refused)
    · obtain ⟨negative, ds, writes, rfl, many⟩ := read_tooLong_iff.mp refused
      exact .inr ⟨negative, ds, writes, many⟩
  · rintro (none | ⟨negative, ds, writes, many⟩)
    · exact ⟨_, read_of_not_writes none⟩
    · exact ⟨_, read_tooLong_iff.mpr ⟨negative, ds, writes, rfl, many⟩⟩

/-- The reader takes the texts that write few enough digits. -/
theorem read_accepts_iff : (∃ v, read cs = .ok v) ↔
    ∃ negative ds, Writes cs negative ds ∧ ds.length ≤ limit := by
  simp only [read_ok_iff]
  exact ⟨fun ⟨_, negative, ds, writes, few, _⟩ => ⟨negative, ds, writes, few⟩,
    fun ⟨negative, ds, writes, few⟩ => ⟨_, negative, ds, writes, few, rfl⟩⟩

end IndexScan.Numeral
