import IndexScan.Proofs.Command.Plan
import Mathlib.Tactic.Common

/-!
No stream settles on one word. Giving out a word loses nothing of it (`temper_injective`), so a
stream that repeats one word for longer than the state comes from a state that has been renewed to
zeros. Such a state began without the high bit that every seed sets (`exists_word_ne`).
-/

namespace IndexScan

namespace Twister

/-! ### Tempering -/

/-- A bit that is mixed with a higher one only is known once the higher bits are. -/
theorem getLsbD_of_xor_ushiftRight {w k : Nat} (positive : 0 < k) {x y : BitVec w}
    (same : x ^^^ (x >>> k) = y ^^^ (y >>> k)) (i : Nat) : x.getLsbD i = y.getLsbD i := by
  by_cases inside : i < w
  · have above := getLsbD_of_xor_ushiftRight positive same (k + i)
    have bit := congrArg (fun z : BitVec w => z.getLsbD i) same
    simpa [above] using bit
  · rw [BitVec.getLsbD_of_ge x i (by omega), BitVec.getLsbD_of_ge y i (by omega)]
termination_by w - i

/-- A bit that is mixed with a lower one only is known once the lower bits are. -/
theorem getLsbD_of_xor_shiftLeft {w k : Nat} (positive : 0 < k) {m x y : BitVec w}
    (same : x ^^^ ((x <<< k) &&& m) = y ^^^ ((y <<< k) &&& m)) (i : Nat) :
    x.getLsbD i = y.getLsbD i := by
  have bit := congrArg (fun z : BitVec w => z.getLsbD i) same
  by_cases low : i < k
  · simpa [low] using bit
  · have below := getLsbD_of_xor_shiftLeft positive same (i - k)
    simpa [below] using bit
termination_by i

theorem temper_injective : Function.Injective temper := by
  intro x y same
  apply UInt32.toBitVec_inj.mp
  have bits := congrArg UInt32.toBitVec same
  refine BitVec.eq_of_getLsbD_eq fun i _ =>
    getLsbD_of_xor_ushiftRight (k := 11) (by decide) ?_ i
  refine BitVec.eq_of_getLsbD_eq fun i _ =>
    getLsbD_of_xor_shiftLeft (k := 7) (m := 0x9D2C5680) (by decide) ?_ i
  refine BitVec.eq_of_getLsbD_eq fun i _ =>
    getLsbD_of_xor_shiftLeft (k := 15) (m := 0xEFC60000) (by decide) ?_ i
  exact BitVec.eq_of_getLsbD_eq fun i _ =>
    getLsbD_of_xor_ushiftRight (k := 18) (by decide) bits i

/-! ### Mixing -/

/-- The bit of a word at a place, counted from the lowest. -/
def bit (y : UInt32) (i : Nat) : Bool :=
  y.toBitVec.getLsbD i

theorem eq_zero_of_bits {y : UInt32} (low : ∀ i < 31, bit y i = false)
    (high : bit y 31 = false) : y = 0 := by
  apply UInt32.toBitVec_inj.mp
  refine BitVec.eq_of_getLsbD_eq fun i small => ?_
  have none : y.toBitVec.getLsbD i = false := by
    rcases Nat.lt_succ_iff_lt_or_eq.mp small with below | rfl
    · exact low i below
    · exact high
  simpa using none

@[simp] theorem bit_zero (i : Nat) : bit 0 i = false := by
  simp [bit]

@[simp] theorem bit_xor (x y : UInt32) (i : Nat) : bit (x ^^^ y) i = (bit x i ^^ bit y i) := by
  simp [bit]

theorem bit_eq_testBit (y : UInt32) (i : Nat) : bit y i = y.toNat.testBit i := by
  simp [bit, BitVec.getLsbD]

theorem and_one_eq_one_iff (y : UInt32) : y &&& 1 = 1 ↔ bit y 0 = true := by
  rw [← UInt32.toNat_inj, bit_eq_testBit]
  simp [Nat.testBit_zero]

/-- The high bit of one word and the low bits of another. -/
theorem bit_join (high low : UInt32) (i : Nat) :
    bit ((high &&& 0x80000000) ||| (low &&& 0x7FFFFFFF)) i =
      if i < 31 then bit low i else i = 31 && bit high 31 := by
  have lowMask : Nat.testBit 0x7FFFFFFF i = decide (i < 31) := Nat.testBit_two_pow_sub_one 31 i
  have highMask : Nat.testBit 0x80000000 i = decide (31 = i) := Nat.testBit_two_pow (n := 31)
  simp only [bit_eq_testBit, UInt32.toNat_or, UInt32.toNat_and, Nat.testBit_or, Nat.testBit_and]
  rcases Nat.lt_trichotomy i 31 with below | rfl | above
  · have apart : ¬ 31 = i := by omega
    simp [lowMask, highMask, below, apart]
  · simp [lowMask, highMask]
  · have beyond : ¬ i < 31 := by omega
    have apart : ¬ i = 31 := by omega
    simp [lowMask, highMask, beyond, apart, eq_comm]

/-- Mixing moves the high bit of one word and the low bits of the other down by one. -/
theorem bit_mix (high low : UInt32) (i : Nat) :
    bit (mix high low) i =
      ((if i < 30 then bit low (i + 1) else i = 30 && bit high 31) ^^
        (bit low 0 && bit 0x9908B0DF i)) := by
  have odd := and_one_eq_one_iff ((high &&& 0x80000000) ||| (low &&& 0x7FFFFFFF))
  have down (y : UInt32) : bit (y >>> 1) i = bit y (i + 1) := by
    simp [bit, Nat.add_comm 1 i]
  simp only [bit_join, Nat.zero_lt_succ, if_true] at odd
  simp only [mix, odd, bit_xor, down, bit_join]
  congr 1
  · split_ifs with h₁ h₂ h₂
    · rfl
    · omega
    · omega
    · simp
  · cases bit low 0 <;> simp

/-- Words that mix to nothing had nothing to mix. -/
theorem of_mix_eq_zero {high low : UInt32} (none : mix high low = 0) :
    bit high 31 = false ∧ ∀ i < 31, bit low i = false := by
  have bits (i : Nat) := (bit_mix high low i).symm.trans (by rw [none, bit_zero])
  have even : bit low 0 = false := by simpa [bit] using bits 31
  simp only [even, Bool.false_and, Bool.xor_false] at bits
  refine ⟨by simpa using bits 30, fun i small => ?_⟩
  cases i with
  | zero => exact even
  | succ i => simpa [Nat.lt_of_succ_lt_succ small] using bits i

/-! ### Renewing -/

/-- The state after its first `k` words have been renewed. -/
def renewed (words : Array UInt32) (k : Nat) : Array UInt32 :=
  (List.range k).foldl renewWord words

theorem renewed_succ (words : Array UInt32) (k : Nat) :
    renewed words (k + 1) = renewWord (renewed words k) k := by
  simp [renewed, List.range_succ]

theorem renewed_size (words : Array UInt32) (k : Nat) : (renewed words k).size = words.size := by
  induction k with
  | zero => rfl
  | succ k ih => rw [renewed_succ, renewWord, Array.size_setIfInBounds, ih]

theorem wordAt_setIfInBounds {words : Array UInt32} {i : Nat} (inside : i < words.size)
    (y : UInt32) (j : Nat) :
    wordAt (words.setIfInBounds i y) j = if j = i then y else wordAt words j := by
  simp only [wordAt, Array.getD_eq_getD_getElem?, Array.getElem?_setIfInBounds, inside, if_true]
  split_ifs with h₁ h₂ h₂
  · rfl
  · exact absurd h₁.symm h₂
  · exact absurd h₂.symm h₁
  · rfl

section

variable {words : Array UInt32} (full : words.size = size)
include full

theorem wordAt_renewed_succ {k : Nat} (small : k < size) (j : Nat) :
    wordAt (renewed words (k + 1)) j =
      if j = k then
        wordAt (renewed words k) ((k + shift) % size) ^^^
          mix (wordAt (renewed words k) k) (wordAt (renewed words k) ((k + 1) % size))
      else wordAt (renewed words k) j := by
  have inside : k < (renewed words k).size := by rwa [renewed_size, full]
  rw [renewed_succ, renewWord, wordAt_setIfInBounds inside]

/-- A word stays as it was until its turn. -/
theorem wordAt_renewed_of_le {j k : Nat} (le : k ≤ j) (small : k ≤ size) :
    wordAt (renewed words k) j = wordAt words j := by
  induction k with
  | zero => rfl
  | succ k ih =>
    rw [wordAt_renewed_succ full small, if_neg (by omega), ih (by omega) (by omega)]

/-- A renewed word is not touched again. -/
theorem wordAt_renewed_of_lt {j k : Nat} (lt : j < k) (small : k ≤ size) :
    wordAt (renewed words k) j = wordAt (renew words) j := by
  have onward (m : Nat) (le : k + m ≤ size) :
      wordAt (renewed words (k + m)) j = wordAt (renewed words k) j := by
    induction m with
    | zero => rfl
    | succ m ih =>
      have last : k + m < size := le
      rw [← Nat.add_assoc, wordAt_renewed_succ full last, if_neg (by omega), ih (by omega)]
  rw [← onward (size - k) (by omega), show k + (size - k) = size by omega]
  rfl

/-- A renewed word is a later word and what its old value and the next word mix to. Behind the last
word the state starts again, with words that are renewed already. -/
theorem wordAt_renew {i : Nat} (small : i < size) :
    wordAt (renew words) i =
      (if i + shift < size then wordAt words (i + shift)
        else wordAt (renew words) (i + shift - size)) ^^^
      mix (wordAt words i)
        (if i + 1 < size then wordAt words (i + 1) else wordAt (renew words) 0) := by
  rw [← wordAt_renewed_of_lt full (Nat.lt_succ_self i) small, wordAt_renewed_succ full small,
    if_pos rfl, wordAt_renewed_of_le full (Nat.le_refl i) (by omega)]
  have ends : size = 624 := rfl
  have apart : shift = 397 := rfl
  congr 1
  · split_ifs with before
    · rw [Nat.mod_eq_of_lt before, wordAt_renewed_of_le full (by omega) (by omega)]
    · rw [Nat.mod_eq_sub_mod (by omega), Nat.mod_eq_of_lt (by omega),
        wordAt_renewed_of_lt full (by omega) (by omega)]
  · congr 1
    split_ifs with before
    · rw [Nat.mod_eq_of_lt before, wordAt_renewed_of_le full (by omega) (by omega)]
    · rw [show i + 1 = size by omega, Nat.mod_self,
        wordAt_renewed_of_lt full (by omega) (by omega)]

/-- A state of one word throughout that stays so is a state of zeros. -/
theorem eq_zero_of_renew_eq {y : UInt32} (settled : ∀ i, 1 ≤ i → i < size → wordAt words i = y)
    (again : wordAt (renew words) 1 = y) : y = 0 := by
  rw [wordAt_renew full (by decide), if_pos (by decide), if_pos (by decide),
    settled 1 (by decide) (by decide), settled (1 + shift) (by decide) (by decide),
    settled (1 + 1) (by decide) (by decide)] at again
  have none : mix y y = 0 := (UInt32.xor_right_inj y).mp (again.trans UInt32.xor_zero.symm)
  obtain ⟨high, low⟩ := of_mix_eq_zero none
  exact eq_zero_of_bits low high

/-- A state that is renewed to zeros behind its first word has no high bit in that word. -/
theorem high_of_renew_eq_zero (zeros : ∀ i, 1 ≤ i → i < size → wordAt (renew words) i = 0) :
    bit (wordAt words 0) 31 = false := by
  have ends : size = 624 := rfl
  have apart : shift = 397 := rfl
  -- Behind the place where the later word is a renewed one, the old words mix to nothing.
  have mixed (i : Nat) (after : size < i + shift) (before : i + 1 < size) :
      mix (wordAt words i) (wordAt words (i + 1)) = 0 := by
    have renewal := wordAt_renew full (i := i) (by omega)
    rw [if_neg (by omega), if_pos before, zeros i (by omega) (by omega),
      zeros (i + shift - size) (by omega) (by omega), UInt32.zero_xor] at renewal
    exact renewal.symm
  have empty : wordAt words shift = 0 :=
    eq_zero_of_bits (of_mix_eq_zero (mixed (shift - 1) (by decide) (by decide))).2
      (of_mix_eq_zero (mixed shift (by decide) (by decide))).1
  have last : mix (wordAt words (size - 1)) (wordAt (renew words) 0) = 0 := by
    have renewal := wordAt_renew full (i := size - 1) (by decide)
    rw [if_neg (by decide), if_neg (by decide), zeros (size - 1) (by decide) (by decide),
      zeros (size - 1 + shift - size) (by decide) (by decide), UInt32.zero_xor] at renewal
    exact renewal.symm
  have first : wordAt (renew words) 0 = mix (wordAt words 0) (wordAt words 1) := by
    rw [wordAt_renew full (by decide), if_pos (by decide), if_pos (by decide), Nat.zero_add,
      empty, UInt32.zero_xor]
  have top := (of_mix_eq_zero last).2 30 (by decide)
  rw [first, bit_mix] at top
  simpa [bit] using top

end

/-! ### Seeds -/

/-- Steps that each add `c` words to a state. -/
theorem foldl_size {α β : Type} {step : Array UInt32 × β → α → Array UInt32 × β} {c : Nat}
    (adds : ∀ state a, (step state a).1.size = state.1.size + c) (l : List α)
    (state : Array UInt32 × β) : (l.foldl step state).1.size = state.1.size + l.length * c := by
  induction l generalizing state with
  | nil => simp
  | cons a l ih =>
    rw [List.foldl_cons, ih, adds, List.length_cons, Nat.succ_mul, Nat.add_assoc, Nat.add_comm c]

theorem ofWord_size (seed : UInt32) : (ofWord seed).size = size := by
  rw [ofWord, foldl_size (c := 1) fun state i => Array.size_push _, List.length_range]
  simp [size]

theorem spread_size (update : UInt32 → UInt32 → UInt32) (state : Array UInt32 × Nat) :
    (spread update state).1.size = state.1.size := by
  rcases state with ⟨words, i⟩
  simp only [spread]
  split_ifs
  · simp
  · simp

/-- The state that a key fixes is a full one, and its first word is set at the end. -/
theorem ofKey_eq (key : List UInt32) :
    ∃ words : Array UInt32, words.size = size ∧ ofKey key = words.setIfInBounds 0 0x80000000 := by
  rw [ofKey]
  have start := ofWord_size 19650218
  -- The steps are not to be taken here: where they start and how many there are is left open.
  generalize ofWord 19650218 = origin at start ⊢
  generalize List.range (max size key.toArray.size) = steps
  generalize List.range (size - 1) = later
  generalize first : List.foldl _ (origin, 1) steps = state
  rcases state with ⟨words, i⟩
  have full : words.size = size := by
    have grown := congrArg (fun state => state.1.size) first
    rw [foldl_size (c := 0) fun _ _ => spread_size _ _, Nat.mul_zero, Nat.add_zero] at grown
    exact grown.symm.trans start
  refine ⟨_, ?_, rfl⟩
  rw [foldl_size (c := 0) fun _ _ => spread_size _ _]
  exact full

theorem ofKey_size (key : List UInt32) : (ofKey key).size = size := by
  obtain ⟨words, full, eq⟩ := ofKey_eq key
  rw [eq, Array.size_setIfInBounds, full]

/-- Every seed sets the high bit of the first word. -/
theorem high_ofKey (key : List UInt32) : bit (wordAt (ofKey key) 0) 31 = true := by
  obtain ⟨words, full, eq⟩ := ofKey_eq key
  rw [eq, wordAt_setIfInBounds (by rw [full]; decide), if_pos rfl]
  decide

/-! ### Streams -/

theorem skip_renewed (words : Array UInt32) {n : Nat} (le : n ≤ size) :
    (⟨words, 0⟩ : Twister).skip n = ⟨words, n⟩ := by
  induction n with
  | zero => rfl
  | succ n ih =>
    have fresh : ¬ size ≤ n := Nat.not_le.mpr le
    rw [skip_add, ih (Nat.le_of_lt le), skip, skip, next, if_neg fresh]

/-- The first words of the stream of a state are the words of the state. -/
theorem word_renewed (words : Array UInt32) {n : Nat} (lt : n < size) :
    (⟨words, 0⟩ : Twister).word n = (temper (wordAt words n)).toNat := by
  have fresh : ¬ size ≤ n := Nat.not_le.mpr lt
  rw [word, skip_renewed words (Nat.le_of_lt lt), next, if_neg fresh]

/-- A state that is spent is renewed. -/
theorem word_spent (words : Array UInt32) (n : Nat) :
    (⟨words, size⟩ : Twister).word n = (⟨renew words, 0⟩ : Twister).word n := by
  have spent : (⟨words, size⟩ : Twister).next = (⟨renew words, 0⟩ : Twister).next := by
    have fresh : ¬ size ≤ 0 := by decide
    rw [next, next, if_pos (Nat.le_refl size), if_neg fresh]
  cases n with
  | zero => rw [word, word, skip, skip, spent]
  | succ n => rw [word, word, skip, skip, spent]

/-- The first words of a full state that is spent come from renewing it once. -/
theorem word_once (words : Array UInt32) {n : Nat} (lt : n < size) :
    (⟨words, size⟩ : Twister).word n = (temper (wordAt (renew words) n)).toNat := by
  rw [word_spent, word_renewed _ lt]

/-- The words behind them come from renewing it twice. -/
theorem word_twice (words : Array UInt32) {n : Nat} (lt : n < size) :
    (⟨words, size⟩ : Twister).word (size + n) =
      (temper (wordAt (renew (renew words)) n)).toNat := by
  rw [word_spent, ← word_skip, skip_renewed _ (Nat.le_refl size), word_once _ lt]

/-- No stream repeats one word for longer than the state. -/
theorem exists_word_ne (seed : Int) :
    ∃ n, 1 < n ∧ n ≤ size + 1 ∧ (ofSeed seed).word n ≠ (ofSeed seed).word 1 := by
  by_contra none
  have same (n : Nat) (after : 1 < n) (le : n ≤ size + 1) :
      (ofSeed seed).word n = (ofSeed seed).word 1 :=
    Decidable.not_not.mp fun differs => none ⟨n, after, le, differs⟩
  let old := ofKey (wordsOf seed.natAbs)
  have full : old.size = size := ofKey_size _
  have refilled : (renew old).size = size := (renewed_size old size).trans full
  have first : (ofSeed seed).word 1 = (temper (wordAt (renew old) 1)).toNat :=
    word_once old (by decide)
  have settled (i : Nat) (from_one : 1 ≤ i) (lt : i < size) :
      wordAt (renew old) i = wordAt (renew old) 1 := by
    rcases Nat.eq_or_lt_of_le from_one with rfl | after
    · rfl
    · have equal := same i after (Nat.le_succ_of_le (Nat.le_of_lt lt))
      rw [first] at equal
      exact temper_injective (UInt32.toNat_inj.mp ((word_once old lt).symm.trans equal))
  have again : wordAt (renew (renew old)) 1 = wordAt (renew old) 1 := by
    have equal := same (size + 1) (by decide) (Nat.le_refl _)
    rw [first] at equal
    exact temper_injective (UInt32.toNat_inj.mp ((word_twice old (by decide)).symm.trans equal))
  have zero := eq_zero_of_renew_eq refilled settled again
  have low := high_of_renew_eq_zero full fun i from_one lt => (settled i from_one lt).trans zero
  rw [high_ofKey] at low
  cases low

end Twister
end IndexScan
