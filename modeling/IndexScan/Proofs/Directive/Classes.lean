import IndexScan.Proofs.Directive.Grammar

/-!
The classes that texts fall into. A text that is no directive fails the grammar in one of three ways,
and the category of its error is the way in which it fails (`fails_iff`). The directives of no
indices at all are those with nothing but zeros as their count (`denotes_none_iff`).
-/

namespace IndexScan.Directive

open Decimal

variable {t : String} {e : DirectiveError} {category : DirectiveError.Category}

/-! ### Failures -/

/-- How a text fails the grammar: by a count that is no number of 32 bits, by a count that is
hardened, or by beginning with no directive word. -/
def Fails (t : String) : DirectiveError.Category → Prop
  | .invalidInteger => ∃ cs, Counts t cs ∧
      ((∃ c ∈ cs, c.isDigit = false) ∨ IsDigits cs ∧ 2 ^ 32 ≤ value cs)
  | .hardenedIndex => ∃ cs, Counts t cs ∧ IsDigits cs ∧ 2 ^ 31 ≤ value cs ∧ value cs < 2 ^ 32
  | .unrecognizedMode => t ≠ "while" ∧ ∀ cs, ¬ Counts t cs
  | .other => False

theorem category_eq_invalidInteger_iff :
    e.category = .invalidInteger ↔ ∃ count reason, e.unusable? = some (count, reason) := by
  cases e <;> simp [DirectiveError.category, DirectiveError.unusable?]

theorem category_eq_hardenedIndex_iff : e.category = .hardenedIndex ↔ ∃ v, e = .hardened v := by
  cases e <;> simp [DirectiveError.category]

theorem category_eq_unrecognizedMode_iff :
    e.category = .unrecognizedMode ↔ ∃ name, e = .unrecognized name := by
  cases e <;> simp [DirectiveError.category]

/-- A text fails in a way exactly if it is refused with that category. -/
theorem fails_iff : Fails t category ↔ ∃ e, parse t = .error e ∧ e.category = category := by
  cases category with
  | invalidInteger =>
    simp only [category_eq_invalidInteger_iff]
    constructor
    · rintro ⟨cs, counts, broken⟩
      obtain ⟨count, rfl⟩ : ∃ count : String, count.toList = cs := ⟨_, String.toList_ofList⟩
      rcases broken with stray | ⟨digits, large⟩
      · obtain ⟨e, failed, carries⟩ := parse_unusable_iff.mpr ⟨counts, .inl ⟨stray, rfl⟩⟩
        exact ⟨e, failed, _, _, carries⟩
      · obtain ⟨e, failed, carries⟩ := parse_unusable_iff.mpr ⟨counts, .inr ⟨digits, large, rfl⟩⟩
        exact ⟨e, failed, _, _, carries⟩
    · rintro ⟨e, failed, count, reason, carries⟩
      obtain ⟨counts, broken⟩ := parse_unusable_iff.mp ⟨e, failed, carries⟩
      exact ⟨count.toList, counts, broken.imp (·.1) fun large => ⟨large.1, large.2.1⟩⟩
  | hardenedIndex =>
    simp only [category_eq_hardenedIndex_iff]
    constructor
    · rintro ⟨cs, counts, digits, low, high⟩
      exact ⟨_, parse_eq_hardened_iff.mpr ⟨cs, counts, digits, rfl, low, high⟩, _, rfl⟩
    · rintro ⟨_, failed, v, rfl⟩
      obtain ⟨cs, counts, digits, rfl, low, high⟩ := parse_eq_hardened_iff.mp failed
      exact ⟨cs, counts, digits, low, high⟩
  | unrecognizedMode =>
    simp only [category_eq_unrecognizedMode_iff]
    constructor
    · intro other
      exact ⟨_, parse_eq_unrecognized_iff.mpr ⟨rfl, other⟩, _, rfl⟩
    · rintro ⟨_, failed, name, rfl⟩
      exact (parse_eq_unrecognized_iff.mp failed).2
  | other =>
    refine iff_of_false id ?_
    rintro ⟨e, -, category⟩
    cases e <;> cases category

/-! ### Directives of no indices -/

/-- Zeros are digits that denote nothing, and no other digits do. -/
theorem isDigits_value_zero_iff {cs : List Char} :
    IsDigits cs ∧ value cs = 0 ↔ ∃ n, cs = List.replicate (n + 1) '0' := by
  constructor
  · rintro ⟨⟨filled, digits⟩, nothing⟩
    have zeros := List.eq_replicate_of_mem ((value_eq_zero_iff digits).mp nothing)
    obtain ⟨n, length⟩ := Nat.exists_eq_succ_of_ne_zero (List.length_pos_iff.mpr filled).ne'
    exact ⟨n, by rw [← Nat.succ_eq_add_one, ← length]; exact zeros⟩
  · rintro ⟨n, rfl⟩
    have zeros (c : Char) (mem : c ∈ List.replicate (n + 1) '0') : c = '0' :=
      List.eq_of_mem_replicate mem
    have digits (c : Char) (mem : c ∈ List.replicate (n + 1) '0') : c.isDigit = true := by
      rw [zeros c mem]
      rfl
    exact ⟨⟨by simp, digits⟩, (value_eq_zero_iff digits).mpr zeros⟩

/-- A text denotes a mode of no indices exactly if it is a word with one or more zeros behind it. -/
theorem denotes_none_iff :
    (∃ mode, parse t = .ok mode ∧ mode.count = 0) ↔
      ∃ n, Counts t (List.replicate (n + 1) '0') := by
  constructor
  · rintro ⟨mode, parsed, nothing⟩
    cases mode with
    | single => cases nothing
    | first limit =>
      rcases parse_eq_first_iff.mp parsed with ⟨-, one⟩ | ⟨cs, text, digits, same⟩
      · exact absurd (one.symm.trans nothing) (by decide)
      · obtain ⟨n, rfl⟩ := isDigits_value_zero_iff.mp ⟨digits, same.trans nothing⟩
        exact ⟨n, .inl text⟩
    | random limit =>
      rcases parse_eq_random_iff.mp parsed with ⟨-, one⟩ | ⟨cs, text, digits, same⟩
      · exact absurd (one.symm.trans nothing) (by decide)
      · obtain ⟨n, rfl⟩ := isDigits_value_zero_iff.mp ⟨digits, same.trans nothing⟩
        exact ⟨n, .inr text⟩
  · rintro ⟨n, text⟩
    obtain ⟨digits, nothing⟩ := isDigits_value_zero_iff.mpr ⟨n, rfl⟩
    rcases text with first | random
    · exact ⟨.first ⟨0, by decide⟩, parse_eq_first_iff.mpr (.inr ⟨_, first, digits, nothing⟩), rfl⟩
    · exact ⟨.random ⟨0, by decide⟩, parse_eq_random_iff.mpr (.inr ⟨_, random, digits, nothing⟩),
        rfl⟩

end IndexScan.Directive
