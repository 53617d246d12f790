import IndexScan.Text.Lowercase
import Mathlib.Tactic.Common

/-!
Casings of ASCII words. Letters of other scripts have lower cases of their own, but for the sign of
the kelvin, which becomes a `k`, and the dotted capital I, which begins with an `i`. So a word
without these letters is the lower case of its ASCII casings only (`lower_eq_iff`).
-/

namespace IndexScan.Text

/-- The characters that nothing beyond ASCII has as its lower case. -/
def IsOwn (d : Char) : Prop :=
  0 < d.toNat ∧ d.toNat < 0x80 ∧ d ≠ 'k' ∧ d ≠ 'i'

instance (d : Char) : Decidable (IsOwn d) :=
  inferInstanceAs (Decidable (_ ∧ _))

/-- Runs of letters that reach beyond ASCII lead to letters beyond ASCII, but for the kelvin. -/
theorem lowerRuns_wide : ∀ r ∈ lowerRuns, 0x80 ≤ r.2.1 →
    0x80 ≤ (r.1 : Int) + r.2.2.2 ∨ (r.1 = r.2.1 ∧ (r.1 : Int) + r.2.2.2 = 0x6B) := by
  decide +kernel

theorem lowerChar_ascii : ∀ n < 0x80, lowerChar (Char.ofNat n) = (Char.ofNat n).toLower := by
  decide +kernel

theorem toLower_of_wide {c : Char} (wide : 0x80 ≤ c.toNat) : c.toLower = c := by
  have above : ¬ c.val ≤ 'Z'.val := by
    intro below
    have : c.toNat ≤ 'Z'.toNat := UInt32.le_iff_toNat_le.mp below
    simp at this
    omega
  exact dif_neg fun upper => above upper.2

theorem toNat_ofNat (n : Nat) : (Char.ofNat n).toNat = n ∨ (Char.ofNat n).toNat = 0 := by
  by_cases valid : n.isValidChar
  · exact .inl (congrArg Char.toNat (dif_pos valid))
  · exact .inr (congrArg Char.toNat (dif_neg valid))

/-- A letter beyond ASCII has no lower case of which `d` could be. -/
theorem lowerChar_ne_of_wide {c d : Char} (own : IsOwn d) (wide : 0x80 ≤ c.toNat) :
    lowerChar c ≠ d := by
  obtain ⟨positive, small, kelvin, -⟩ := own
  intro low
  rw [lowerChar, if_neg (by omega)] at low
  split at low
  · next r found =>
    have inside := List.find?_some found
    simp only [Bool.and_eq_true, decide_eq_true_eq] at inside
    have code := toNat_ofNat (Int.ofNat c.toNat + r.2.2.2).toNat
    rw [low, Int.ofNat_eq_natCast] at code
    rcases lowerRuns_wide r (List.mem_of_find?_eq_some found) (by omega) with far | ⟨single, k⟩
    · omega
    · have same : d.toNat = 'k'.toNat := by
        simp
        omega
      exact kelvin (Char.toNat_inj.mp same)
  · rw [low] at wide
    omega

theorem lowerChar_eq_iff {c d : Char} (own : IsOwn d) : lowerChar c = d ↔ c.toLower = d := by
  by_cases ascii : c.toNat < 0x80
  · have same := lowerChar_ascii c.toNat ascii
    rw [Char.ofNat_toNat] at same
    rw [same]
  · have wide : 0x80 ≤ c.toNat := by omega
    rw [toLower_of_wide wide]
    refine iff_of_false (lowerChar_ne_of_wide own wide) ?_
    rintro rfl
    exact ascii own.2.1

/-- The lower case of a text is a word if the text is an ASCII casing of the word. -/
theorem lowerAfter_eq_iff {word : List Char} (own : ∀ d ∈ word, IsOwn d) (before cs : List Char) :
    lowerAfter before cs = word ↔ cs.map Char.toLower = word := by
  induction cs generalizing before word with
  | nil => rfl
  | cons c cs ih =>
    rw [lowerAfter, List.map_cons]
    cases word with
    | nil =>
      refine iff_of_false ?_ (by simp)
      split_ifs <;> simp
    | cons d word =>
      have mine := own d (List.mem_cons_self ..)
      have others : ∀ e ∈ word, IsOwn e := fun e mem => own e (List.mem_cons_of_mem _ mem)
      have rest := ih others (c :: before)
      have lower := lowerChar_eq_iff (c := c) mine
      by_cases wide : 0x80 ≤ c.toNat
      · have other : c.toLower ≠ d := by
          rw [toLower_of_wide wide]
          rintro rfl
          exact absurd mine.2.1 (by omega)
        refine iff_of_false (fun low => ?_) (by simp [other])
        split_ifs at low
        · exact absurd mine.2.1 ((List.cons.inj low).1 ▸ by decide)
        · exact absurd mine.2.1 ((List.cons.inj low).1 ▸ by decide)
        · exact mine.2.2.2 (List.cons.inj low).1.symm
        · exact lowerChar_ne_of_wide mine wide (List.cons.inj low).1
      · rw [if_neg (by omega), if_neg (by omega)]
        simp [lower, rest]

/-- A word without `k` and `i` is the lower case of its ASCII casings. -/
theorem lower_eq_iff {word : List Char} (own : ∀ d ∈ word, IsOwn d) (cs : List Char) :
    lower cs = word ↔ cs.map Char.toLower = word :=
  lowerAfter_eq_iff own [] cs

end IndexScan.Text
