import IndexScan.Directive
import IndexScan.Proofs.Text.Decimal
import Mathlib.Tactic.Common

/-!
The grammar of directives. Reading a directive accepts exactly the words and the words with a count
below the hardened boundary, and it puts every other text under the one error that fits it
(`parse_classifies`).

The count is judged by its value. The reader itself drops zeros in front and then refuses more than
ten digits before it computes anything, so the link between the two is a fact about digit strings
(`Decimal.longer_or_greater_iff`), and `readCount_of_digits` is the only place that uses it.
-/

namespace IndexScan

/-- The count and the reason that the error of an unusable count carries. -/
def DirectiveError.unusable? : DirectiveError → Option (String × String)
  | invalidDigit count _ => some (count, invalidDigitReason)
  | tooLarge count => some (count, tooLargeReason)
  | hardened _ => none
  | unrecognized _ => none

/-- The wording of an unusable count is made of what its error carries. -/
theorem DirectiveError.message_of_unusable {e : DirectiveError} {count reason : String}
    (carries : e.unusable? = some (count, reason)) :
    e.message = invalidIntegerMessage reason (Quoted.text count) := by
  cases e <;> simp_all [unusable?, message]

/-- An index is its value. -/
theorem UnhardenedIndex.value_inj {i j : UnhardenedIndex} : i.value = j.value ↔ i = j := by
  constructor
  · intro same
    cases i
    cases j
    simpa using same
  · rintro rfl
    rfl

namespace Directive

open Decimal

/-- `t` is a word that takes a count, with `cs` behind it. -/
def Counts (t : String) (cs : List Char) : Prop :=
  t.toList = "first".toList ++ cs ∨ t.toList = "random".toList ++ cs

/-- A text that denotes a mode. -/
def IsDirective (text : String) : Prop :=
  ∃ mode, parse text = .ok mode

/-- The directive that stands in where none is given. -/
theorem isDirective_default : IsDirective "first20" :=
  ⟨.first ⟨20, by decide⟩, by decide +kernel⟩

/-! ### Words -/

theorem after?_eq_some_iff {word cs rest : List Char} :
    after? word cs = some rest ↔ cs = word ++ rest := by
  induction word generalizing cs with
  | nil => simp [after?]
  | cons w word ih =>
    cases cs with
    | nil => simp [after?]
    | cons c cs =>
      by_cases same : w = c
      · subst same
        simp [after?, ih]
      · simp [after?, same, Ne.symm same]

theorem after?_eq_none_iff {word cs : List Char} :
    after? word cs = none ↔ ∀ rest, cs ≠ word ++ rest := by
  rw [Option.eq_none_iff_forall_ne_some]
  exact forall_congr' fun rest => not_congr after?_eq_some_iff

/-- The words begin with different letters, so no text begins with both. -/
theorem first_ne_random (cs ds : List Char) : "first".toList ++ cs ≠ "random".toList ++ ds := by
  intro same
  simp at same

/-- Without a word that takes a count, only the text itself decides. -/
theorem parse_of_not_counts {t : String} (none : ∀ cs, ¬ Counts t cs) :
    parse t = if t = "while" then .ok .single else .error (.unrecognized t) := by
  have noFirst : after? "first".toList t.toList = .none :=
    after?_eq_none_iff.mpr fun cs same => none cs (.inl same)
  have noRandom : after? "random".toList t.toList = .none :=
    after?_eq_none_iff.mpr fun cs same => none cs (.inr same)
  simp only [parse, Mode.Kind.word, noFirst, noRandom]
  rfl

theorem parse_of_first {t : String} {cs : List Char} (begins : t.toList = "first".toList ++ cs) :
    parse t = (readLimit cs).map .first := by
  simp only [parse, Mode.Kind.word, after?_eq_some_iff.mpr begins]

theorem parse_of_random {t : String} {cs : List Char} (begins : t.toList = "random".toList ++ cs) :
    parse t = (readLimit cs).map .random := by
  have noFirst : after? "first".toList t.toList = none :=
    after?_eq_none_iff.mpr fun ds same => first_ne_random ds cs (same.symm.trans begins)
  simp only [parse, Mode.Kind.word, noFirst, after?_eq_some_iff.mpr begins]

/-- The word that stands alone takes no count. -/
theorem not_counts_while (cs : List Char) : ¬ Counts "while" cs := by
  rintro (same | same) <;> simp at same

/-! ### Counts -/

/-- A count of digits is judged by its value. -/
theorem readCount_of_digits {cs : List Char} (digits : IsDigits cs) :
    readCount cs =
      if maxWord < value cs then .error (.tooLarge (String.ofList cs))
      else if h : value cs < hardenedBoundary then .ok ⟨value cs, h⟩
      else .error (.hardened (value cs)) := by
  have all : cs.all Char.isDigit = true := List.all_eq_true.mpr digits.2
  have tooLarge := longer_or_greater_iff digits.2 (show maxWord < 10 ^ 10 by decide)
  simp only [readCount, all, if_true, tooLarge]
  simp only [value_dropWhile_zero]

/-- Why a count is no numeral either, if it is none. -/
def countCause (cs : List Char) : Option Numeral.Refusal :=
  match Numeral.read cs with
  | .ok _ => none
  | .error refusal => some refusal

/-- A count with anything else in it is refused as a whole. -/
theorem readCount_of_stray {cs : List Char} (stray : ∃ c ∈ cs, c.isDigit = false) :
    readCount cs = .error (.invalidDigit (String.ofList cs) (countCause cs)) := by
  have notAll : cs.all Char.isDigit = false := by simpa using stray
  simp only [readCount, notAll, Bool.false_eq_true, if_false]
  rfl

theorem not_isDigits_of_stray {cs : List Char} (stray : ∃ c ∈ cs, c.isDigit = false) :
    ¬ IsDigits cs := by
  rintro ⟨_, digits⟩
  obtain ⟨c, mem, notDigit⟩ := stray
  simp [digits c mem] at notDigit

/-- All that reading a limit can do: no count stands for one, digits are judged by their value, and
anything else is refused. -/
theorem readLimit_cases (cs : List Char) :
    (cs = [] ∧ readLimit cs = .ok .one) ∨
    (IsDigits cs ∧ ∃ n : UnhardenedIndex, value cs = n.value ∧ readLimit cs = .ok n) ∨
    (IsDigits cs ∧ 2 ^ 31 ≤ value cs ∧ value cs < 2 ^ 32 ∧
      readLimit cs = .error (.hardened (value cs))) ∨
    (IsDigits cs ∧ 2 ^ 32 ≤ value cs ∧ readLimit cs = .error (.tooLarge (String.ofList cs))) ∨
    ((∃ c ∈ cs, c.isDigit = false) ∧
      readLimit cs = .error (.invalidDigit (String.ofList cs) (countCause cs))) := by
  rcases eq_or_ne cs [] with rfl | some
  · exact .inl ⟨rfl, rfl⟩
  have counted : readLimit cs = readCount cs := by simp [readLimit, some]
  have word : maxWord = 2 ^ 32 - 1 := rfl
  have half : hardenedBoundary = 2 ^ 31 := rfl
  rw [counted]
  by_cases all : ∀ c ∈ cs, c.isDigit = true
  · have digits : IsDigits cs := ⟨some, all⟩
    rw [readCount_of_digits digits]
    split_ifs with large low
    · exact .inr (.inr (.inr (.inl ⟨digits, by omega, rfl⟩)))
    · exact .inr (.inl ⟨digits, _, rfl, rfl⟩)
    · exact .inr (.inr (.inl ⟨digits, by omega, by omega, rfl⟩))
  · have stray : ∃ c ∈ cs, c.isDigit = false := by simpa using all
    exact .inr (.inr (.inr (.inr ⟨stray, readCount_of_stray stray⟩)))

/-- The limits that are read: one for no count, else the value of the digits. -/
theorem readLimit_eq_ok_iff {cs : List Char} {n : UnhardenedIndex} :
    readLimit cs = .ok n ↔ cs = [] ∧ n.value = 1 ∨ IsDigits cs ∧ value cs = n.value := by
  have small : n.value < 2 ^ 31 := n.value_lt
  rcases readLimit_cases cs with ⟨rfl, eq⟩ | ⟨digits, m, same, eq⟩ | ⟨digits, low, _, eq⟩ |
    ⟨digits, large, eq⟩ | ⟨stray, eq⟩ <;> rw [eq]
  · have one : n.value = 1 ↔ .one = n := by
      rw [← UnhardenedIndex.value_inj, eq_comm]
      rfl
    simp [IsDigits, one]
  · simp [digits, digits.1, same, UnhardenedIndex.value_inj]
  · refine iff_of_false (by simp) ?_
    rintro (⟨empty, _⟩ | ⟨_, same⟩)
    · exact digits.1 empty
    · omega
  · refine iff_of_false (by simp) ?_
    rintro (⟨empty, _⟩ | ⟨_, same⟩)
    · exact digits.1 empty
    · omega
  · refine iff_of_false (by simp) ?_
    rintro (⟨rfl, _⟩ | ⟨digits, _⟩)
    · simp at stray
    · exact not_isDigits_of_stray stray digits

/-- The counts that are refused as hardened. -/
theorem readLimit_eq_hardened_iff {cs : List Char} {v : Nat} :
    readLimit cs = .error (.hardened v) ↔
      IsDigits cs ∧ value cs = v ∧ 2 ^ 31 ≤ v ∧ v < 2 ^ 32 := by
  rcases readLimit_cases cs with ⟨rfl, eq⟩ | ⟨digits, m, same, eq⟩ | ⟨digits, low, high, eq⟩ |
    ⟨digits, large, eq⟩ | ⟨stray, eq⟩ <;> rw [eq]
  · simp [IsDigits]
  · have small : m.value < 2 ^ 31 := m.value_lt
    refine iff_of_false (by simp) ?_
    rintro ⟨_, _, _, _⟩
    omega
  · constructor
    · intro same
      cases same
      exact ⟨digits, rfl, low, high⟩
    · rintro ⟨_, rfl, _, _⟩
      rfl
  · refine iff_of_false (by simp) ?_
    rintro ⟨_, _, _, _⟩
    omega
  · exact iff_of_false (by simp) fun h => not_isDigits_of_stray stray h.1

/-- The counts that are refused as no number of 32 bits, and why. -/
theorem readLimit_unusable_iff {cs : List Char} {count reason : String} :
    (∃ e, readLimit cs = .error e ∧ e.unusable? = some (count, reason)) ↔
      count.toList = cs ∧
        ((∃ c ∈ cs, c.isDigit = false) ∧ reason = "invalid digit found in string" ∨
          IsDigits cs ∧ 2 ^ 32 ≤ value cs ∧
            reason = "number too large to fit in target type") := by
  have noStray (digits : IsDigits cs) : ¬ ∃ c ∈ cs, c.isDigit = false :=
    fun stray => not_isDigits_of_stray stray digits
  rcases readLimit_cases cs with ⟨rfl, eq⟩ | ⟨digits, m, same, eq⟩ | ⟨digits, low, high, eq⟩ |
    ⟨digits, large, eq⟩ | ⟨stray, eq⟩ <;> rw [eq]
  · simp [IsDigits]
  · have small : m.value < 2 ^ 31 := m.value_lt
    refine iff_of_false (by simp) ?_
    rintro ⟨_, ⟨stray, _⟩ | ⟨_, _, _⟩⟩
    · exact noStray digits stray
    · omega
  · refine iff_of_false (by simp [DirectiveError.unusable?]) ?_
    rintro ⟨_, ⟨stray, _⟩ | ⟨_, _, _⟩⟩
    · exact noStray digits stray
    · omega
  · constructor
    · rintro ⟨e, same, carries⟩
      cases same
      cases carries
      exact ⟨by simp, .inr ⟨digits, large, rfl⟩⟩
    · rintro ⟨rfl, ⟨stray, _⟩ | ⟨_, _, rfl⟩⟩
      · exact absurd stray (noStray digits)
      · exact ⟨_, rfl, by simp [DirectiveError.unusable?, DirectiveError.tooLargeReason]⟩
  · constructor
    · rintro ⟨e, same, carries⟩
      cases same
      cases carries
      exact ⟨by simp, .inl ⟨stray, rfl⟩⟩
    · rintro ⟨rfl, ⟨_, rfl⟩ | ⟨digits, _⟩⟩
      · exact ⟨_, rfl, by simp [DirectiveError.unusable?, DirectiveError.invalidDigitReason]⟩
      · exact absurd digits (not_isDigits_of_stray stray)

/-- A count is never refused as an unknown word. -/
theorem readLimit_ne_unrecognized (cs : List Char) (name : String) :
    readLimit cs ≠ .error (.unrecognized name) := by
  rcases readLimit_cases cs with ⟨_, eq⟩ | ⟨_, _, _, eq⟩ | ⟨_, _, _, eq⟩ | ⟨_, _, eq⟩ |
    ⟨_, eq⟩ <;> simp [eq]

/-! ### Texts -/

/-- A text begins with one of the words that take a count, or with neither. -/
theorem text_cases (t : String) :
    (∃ cs, t.toList = "first".toList ++ cs) ∨ (∃ cs, t.toList = "random".toList ++ cs) ∨
      ∀ cs, ¬ Counts t cs := by
  by_cases first : ∃ cs, t.toList = "first".toList ++ cs
  · exact .inl first
  · by_cases random : ∃ cs, t.toList = "random".toList ++ cs
    · exact .inr (.inl random)
    · exact .inr (.inr fun cs counts =>
        counts.elim (fun same => first ⟨cs, same⟩) fun same => random ⟨cs, same⟩)

/-- What stands behind the word is fixed by the text. -/
theorem Counts.inj {t : String} {cs ds : List Char} (left : Counts t cs) (right : Counts t ds) :
    cs = ds := by
  rcases left with l | l <;> rcases right with r | r
  · exact List.append_cancel_left (l.symm.trans r)
  · exact absurd (l.symm.trans r) (first_ne_random cs ds)
  · exact absurd (r.symm.trans l) (first_ne_random ds cs)
  · exact List.append_cancel_left (l.symm.trans r)

/-- A word that takes a count stands alone or has digits behind it if a limit is read. -/
theorem readLimit_eq_ok_iff_of_begins {t word : String} {cs : List Char}
    (begins : t.toList = word.toList ++ cs) {n : UnhardenedIndex} :
    readLimit cs = .ok n ↔ t = word ∧ n.value = 1 ∨
      ∃ ds, t.toList = word.toList ++ ds ∧ IsDigits ds ∧ value ds = n.value := by
  have alone : t = word ↔ cs = [] := by
    rw [← String.toList_inj, begins, List.append_right_eq_self]
  have behind (ds : List Char) : t.toList = word.toList ++ ds ↔ cs = ds := by
    rw [begins, List.append_cancel_left_eq]
  rw [readLimit_eq_ok_iff, alone]
  simp only [behind, exists_eq_left']

theorem parse_eq_first_iff {t : String} {n : UnhardenedIndex} :
    parse t = .ok (.first n) ↔ t = "first" ∧ n.value = 1 ∨
      ∃ cs, t.toList = "first".toList ++ cs ∧ IsDigits cs ∧ value cs = n.value := by
  rcases text_cases t with ⟨cs, begins⟩ | ⟨cs, begins⟩ | none
  · rw [← readLimit_eq_ok_iff_of_begins begins, parse_of_first begins]
    cases readLimit cs <;> simp [Except.map]
  · refine iff_of_false ?_ ?_
    · rw [parse_of_random begins]
      cases readLimit cs <;> simp [Except.map]
    · rintro (⟨rfl, _⟩ | ⟨ds, same, _⟩)
      · simp at begins
      · exact first_ne_random ds cs (same.symm.trans begins)
  · refine iff_of_false ?_ ?_
    · rw [parse_of_not_counts none]
      split_ifs <;> simp
    · rintro (⟨rfl, _⟩ | ⟨ds, same, _⟩)
      · exact none [] (.inl (by simp))
      · exact none ds (.inl same)

theorem parse_eq_random_iff {t : String} {n : UnhardenedIndex} :
    parse t = .ok (.random n) ↔ t = "random" ∧ n.value = 1 ∨
      ∃ cs, t.toList = "random".toList ++ cs ∧ IsDigits cs ∧ value cs = n.value := by
  rcases text_cases t with ⟨cs, begins⟩ | ⟨cs, begins⟩ | none
  · refine iff_of_false ?_ ?_
    · rw [parse_of_first begins]
      cases readLimit cs <;> simp [Except.map]
    · rintro (⟨rfl, _⟩ | ⟨ds, same, _⟩)
      · simp at begins
      · exact first_ne_random cs ds (begins.symm.trans same)
  · rw [← readLimit_eq_ok_iff_of_begins begins, parse_of_random begins]
    cases readLimit cs <;> simp [Except.map]
  · refine iff_of_false ?_ ?_
    · rw [parse_of_not_counts none]
      split_ifs <;> simp
    · rintro (⟨rfl, _⟩ | ⟨ds, same, _⟩)
      · exact none [] (.inr (by simp))
      · exact none ds (.inr same)

/-- Behind a word that takes a count, no single mode is read, and errors are those of the count. -/
theorem parse_of_counts {t : String} {cs : List Char} (counts : Counts t cs) :
    parse t ≠ .ok .single ∧ ∀ e, parse t = .error e ↔ readLimit cs = .error e := by
  rcases counts with begins | begins
  · rw [parse_of_first begins]
    cases readLimit cs <;> simp [Except.map]
  · rw [parse_of_random begins]
    cases readLimit cs <;> simp [Except.map]

theorem parse_eq_single_iff {t : String} : parse t = .ok .single ↔ t = "while" := by
  by_cases counts : ∃ cs, Counts t cs
  · obtain ⟨cs, counts⟩ := counts
    refine iff_of_false (parse_of_counts counts).1 ?_
    rintro rfl
    exact not_counts_while cs counts
  · rw [parse_of_not_counts (not_exists.mp counts)]
    split_ifs with alone <;> simp [alone]

theorem parse_eq_hardened_iff {t : String} {v : Nat} :
    parse t = .error (.hardened v) ↔
      ∃ cs, Counts t cs ∧ IsDigits cs ∧ value cs = v ∧ 2 ^ 31 ≤ v ∧ v < 2 ^ 32 := by
  by_cases counts : ∃ cs, Counts t cs
  · obtain ⟨cs, counts⟩ := counts
    rw [(parse_of_counts counts).2, readLimit_eq_hardened_iff]
    refine ⟨fun h => ⟨cs, counts, h⟩, ?_⟩
    rintro ⟨ds, others, h⟩
    rw [counts.inj others]
    exact h
  · refine iff_of_false ?_ fun ⟨cs, found, _⟩ => counts ⟨cs, found⟩
    rw [parse_of_not_counts (not_exists.mp counts)]
    split_ifs <;> simp

theorem parse_unusable_iff {t count reason : String} :
    (∃ e, parse t = .error e ∧ e.unusable? = some (count, reason)) ↔
      Counts t count.toList ∧
        ((∃ c ∈ count.toList, c.isDigit = false) ∧ reason = "invalid digit found in string" ∨
          IsDigits count.toList ∧ 2 ^ 32 ≤ value count.toList ∧
            reason = "number too large to fit in target type") := by
  by_cases counts : ∃ cs, Counts t cs
  · obtain ⟨cs, counts⟩ := counts
    simp only [(parse_of_counts counts).2, readLimit_unusable_iff]
    constructor
    · rintro ⟨rfl, h⟩
      exact ⟨counts, h⟩
    · rintro ⟨others, h⟩
      rw [counts.inj others]
      exact ⟨rfl, h⟩
  · refine iff_of_false ?_ fun ⟨found, _⟩ => counts ⟨_, found⟩
    rw [parse_of_not_counts (not_exists.mp counts)]
    split_ifs <;> simp [DirectiveError.unusable?]

theorem parse_eq_unrecognized_iff {t name : String} :
    parse t = .error (.unrecognized name) ↔ name = t ∧ t ≠ "while" ∧ ∀ cs, ¬ Counts t cs := by
  by_cases counts : ∃ cs, Counts t cs
  · obtain ⟨cs, counts⟩ := counts
    refine iff_of_false ?_ fun h => h.2.2 cs counts
    rw [(parse_of_counts counts).2]
    exact readLimit_ne_unrecognized cs name
  · have bare := not_exists.mp counts
    rw [parse_of_not_counts bare]
    split_ifs with alone
    · simp [alone]
    · simp [alone, bare, eq_comm]

/-- Reading a directive accepts exactly the grammar and classifies every other text: a word alone, a
word with a count below the hardened boundary, and one error for each way to fail. -/
theorem parse_classifies (t : String) :
    (parse t = .ok .single ↔ t = "while") ∧
    (∀ n, parse t = .ok (.first n) ↔ t = "first" ∧ n.value = 1 ∨
      ∃ cs, t.toList = "first".toList ++ cs ∧ IsDigits cs ∧ value cs = n.value) ∧
    (∀ n, parse t = .ok (.random n) ↔ t = "random" ∧ n.value = 1 ∨
      ∃ cs, t.toList = "random".toList ++ cs ∧ IsDigits cs ∧ value cs = n.value) ∧
    (∀ v, parse t = .error (.hardened v) ↔
      ∃ cs, Counts t cs ∧ IsDigits cs ∧ value cs = v ∧ 2 ^ 31 ≤ v ∧ v < 2 ^ 32) ∧
    (∀ count reason, (∃ e, parse t = .error e ∧ e.unusable? = some (count, reason)) ↔
      Counts t count.toList ∧
        ((∃ c ∈ count.toList, c.isDigit = false) ∧ reason = "invalid digit found in string" ∨
          IsDigits count.toList ∧ 2 ^ 32 ≤ value count.toList ∧
            reason = "number too large to fit in target type")) ∧
    (∀ name, parse t = .error (.unrecognized name) ↔
      name = t ∧ t ≠ "while" ∧ ∀ cs, ¬ Counts t cs) :=
  ⟨parse_eq_single_iff, fun _ => parse_eq_first_iff, fun _ => parse_eq_random_iff,
    fun _ => parse_eq_hardened_iff, fun _ _ => parse_unusable_iff,
    fun _ => parse_eq_unrecognized_iff⟩

end Directive
end IndexScan
