import IndexScan.Sequence.Basic
import Mathlib.Algebra.Group.Int.Defs
import Mathlib.Algebra.Group.Nat.Defs
import Mathlib.Tactic.Common

/-!
What sequences take from their sources. A source hands out values one by one (`Source.Yields`); a
scripted one hands out its script and counts. What a step of a sequence says accounts for every
value that it took (`next_yields`, `take_yields`): those it emitted, and the one it turned down if
there was one. Only a random sequence with an index still to come takes anything.
-/

namespace IndexScan

/-! ### Sources -/

/-- `s.Yields vs t`: drawing on `s` again and again gives the values `vs` and leaves `t`. -/
inductive Source.Yields : Source → List Int → Source → Prop where
  | nil {s : Source} : Yields s [] s
  | cons {s t u : Source} {v : Int} {vs : List Int} :
      s.draw? = some (v, t) → Yields t vs u → Yields s (v :: vs) u

namespace Source

theorem Yields.trans {s t u : Source} {vs ws : List Int} (left : s.Yields vs t)
    (right : t.Yields ws u) : s.Yields (vs ++ ws) u := by
  induction left with
  | nil => exact right
  | cons draw _ ih => exact .cons draw (ih right)

theorem Yields.single {s t : Source} {v : Int} (draw : s.draw? = some (v, t)) : s.Yields [v] t :=
  .cons draw .nil

theorem Yields.eq_of_nil {s t : Source} (yields : s.Yields [] t) : t = s := by
  cases yields
  rfl

/-- A scripted source hands out its script in order, each value once, and counts them. -/
theorem Yields.of_scripted {values vs : List Int} {calls : Nat} {t : Source}
    (yields : (scripted values calls).Yields vs t) :
    vs <+: values ∧ t = scripted (values.drop vs.length) (calls + vs.length) := by
  induction vs generalizing values calls with
  | nil =>
    cases yields
    simp
  | cons v vs ih =>
    cases yields with
    | cons draw later =>
      cases values with
      | nil => simp [draw?] at draw
      | cons w values =>
        simp only [draw?, Option.some.injEq, Prod.mk.injEq] at draw
        obtain ⟨rfl, rfl⟩ := draw
        obtain ⟨shorter, rest⟩ := ih later
        refine ⟨List.cons_prefix_cons.mpr ⟨rfl, shorter⟩, ?_⟩
        rw [rest, List.length_cons, List.drop_succ_cons, Nat.add_right_comm, Nat.add_assoc]

/-- The value behind a failure to draw a word, if one was drawn and turned down. -/
def rejected : Option DrawError → List Int
  | some (.outOfRange v) => [v]
  | _ => []

/-- All that drawing a word can do: hand out a value in range, turn down one that is not, or find
the source run out. -/
theorem drawWord_cases (s : Source) :
    (∃ (n : Nat) (t : Source), n < 2 ^ 32 ∧ s.draw? = some ((n : Int), t) ∧
      s.drawWord = (.ok n, t)) ∨
    (∃ v t, (v < 0 ∨ 2 ^ 32 ≤ v) ∧ s.draw? = some (v, t) ∧
      s.drawWord = (.error (.outOfRange v), t)) ∨
    (s.draw? = none ∧ s.drawWord = (.error .exhausted, s)) := by
  have word : maxWord = 2 ^ 32 - 1 := rfl
  cases draw : s.draw? with
  | none => exact .inr (.inr ⟨rfl, by simp [drawWord, draw]⟩)
  | some p =>
    obtain ⟨v, t⟩ := p
    cases v with
    | ofNat n =>
      by_cases fits : n ≤ maxWord
      · exact .inl ⟨n, t, by omega, rfl, by simp [drawWord, draw, fits]⟩
      · refine .inr (.inl ⟨n, t, .inr (by omega), rfl, ?_⟩)
        simp [drawWord, draw, fits]
    | negSucc n =>
      exact .inr (.inl ⟨.negSucc n, t, .inl (Int.negSucc_lt_zero n), rfl,
        by simp [drawWord, draw]⟩)

theorem draw?_of_drawWord_ok {s t : Source} {n : Nat} (word : s.drawWord = (.ok n, t)) :
    n < 2 ^ 32 ∧ s.draw? = some ((n : Int), t) := by
  rcases drawWord_cases s with ⟨m, u, small, draw, eq⟩ | ⟨v, u, _, _, eq⟩ | ⟨_, eq⟩ <;>
    rw [eq] at word <;> cases word
  exact ⟨small, draw⟩

/-- A failure to draw a word uses up the value that it names, and no other. -/
theorem yields_of_drawWord_error {s t : Source} {e : DrawError}
    (word : s.drawWord = (.error e, t)) :
    s.Yields (rejected (some e)) t ∧ ∀ v, e = .outOfRange v → v < 0 ∨ 2 ^ 32 ≤ v := by
  rcases drawWord_cases s with ⟨m, u, _, _, eq⟩ | ⟨v, u, outside, draw, eq⟩ | ⟨_, eq⟩ <;>
    rw [eq] at word <;> cases word
  · exact ⟨.single draw, fun w same => by cases same; exact outside⟩
  · exact ⟨.nil, fun v same => by cases same⟩

end Source

namespace Sequence

/-! ### Taking indices -/

/-- The values that indices and a failure account for. -/
def valuesOf (indices : List Nat) (failure? : Option DrawError) : List Int :=
  indices.map (fun (i : Nat) => (i : Int)) ++ Source.rejected failure?

/-- Asking `s` for indices gave `indices` and perhaps a failure, and left `s'` and `source'`. -/
structure Took (s : Sequence) (source : Source) (indices : List Nat) (failure? : Option DrawError)
    (s' : Sequence) (source' : Source) : Prop where
  mode_eq : s'.mode = s.mode
  produced_eq : s'.produced = s.produced + indices.length
  /-- A random sequence accounts for every value taken from the source; no other takes any. -/
  yields : source.Yields (if s.mode.isRandom then valuesOf indices failure? else []) source'
  /-- A sequence that is not random emits its own positions. -/
  positions : s.mode.isRandom = false → indices = List.range' s.produced indices.length
  words : ∀ i ∈ indices, i < 2 ^ 32
  turned_down : ∀ v, failure? = some (.outOfRange v) → v < 0 ∨ 2 ^ 32 ≤ v
  /-- Only a random sequence fails, and only with an index still to come. -/
  unfinished : ∀ e, failure? = some e → s.mode.isRandom = true ∧ s'.produced < s'.mode.count

variable {s t u : Sequence} {a b c : Source}

theorem Took.refl (s : Sequence) (a : Source) : Took s a [] none s a where
  mode_eq := rfl
  produced_eq := rfl
  yields := by
    split_ifs
    · exact .nil
    · exact .nil
  positions := by simp
  words := by simp
  turned_down := by simp
  unfinished := by simp

/-- Indices taken without a failure, and then more. -/
theorem Took.trans {is js : List Nat} {failure? : Option DrawError} (left : Took s a is none t b)
    (right : Took t b js failure? u c) : Took s a (is ++ js) failure? u c where
  mode_eq := right.mode_eq.trans left.mode_eq
  produced_eq := by
    rw [right.produced_eq, left.produced_eq, List.length_append, Nat.add_assoc]
  yields := by
    have before := left.yields
    have after := right.yields
    rw [left.mode_eq] at after
    split_ifs at before after ⊢
    · simpa [valuesOf, Source.rejected] using before.trans after
    · exact before.trans after
  positions := fun ordered => by
    have before := left.positions ordered
    have after := right.positions (left.mode_eq ▸ ordered)
    rw [left.produced_eq] at after
    rw [before, after, List.range'_append_1]
    simp
  words := fun i mem => (List.mem_append.mp mem).elim (left.words i) (right.words i)
  turned_down := right.turned_down
  unfinished := fun e failed => left.mode_eq ▸ right.unfinished e failed

/-- A sequence that has ended gives nothing and takes nothing. -/
theorem Took.of_exhausted {is : List Nat} {failure? : Option DrawError}
    (took : Took s a is failure? t b) (ended : s.isExhausted = true) :
    is = [] ∧ failure? = none ∧ t.produced = s.produced := by
  have bound := t.produced_le
  have counted := took.produced_eq
  have done : s.mode.count ≤ s.produced := by simpa [isExhausted] using ended
  rw [took.mode_eq] at bound
  have empty : is = [] := List.eq_nil_of_length_eq_zero (by omega)
  refine ⟨empty, ?_, by simpa [empty] using counted⟩
  rcases failed : failure? with _ | e
  · rfl
  · have := (took.unfinished e failed).2
    rw [took.mode_eq] at this
    omega

/-- A sequence that is not random, or has ended, leaves its source alone. -/
theorem Took.source_eq {is : List Nat} {failure? : Option DrawError}
    (took : Took s a is failure? t b) (quiet : s.mode.isRandom = false ∨ s.isExhausted = true) :
    b = a := by
  have yields := took.yields
  rcases quiet with ordered | ended
  · simp only [ordered, Bool.false_eq_true, if_false] at yields
    cases yields
    rfl
  · obtain ⟨rfl, rfl, _⟩ := took.of_exhausted ended
    simp only [valuesOf, Source.rejected, List.map_nil, List.append_nil, ite_self] at yields
    cases yields
    rfl

/-! ### One step -/

/-- The indices that a step emits. -/
def Step.indices : Step → List Nat
  | .emitted index => [index]
  | _ => []

/-- Why a step failed, if it did. -/
def Step.failure? : Step → Option DrawError
  | .failed e => some e
  | _ => none

/-- All that a step can do. A sequence at its end reports the end; any other emits its next index,
or fails where it stands because its source gives no word. -/
theorem next_cases (s : Sequence) (source : Source) :
    (s.produced = s.mode.count ∧ s.next source = (.ended, s, source)) ∨
    (∃ h : s.produced < s.mode.count, s.mode.isRandom = false ∧
      s.next source = (.emitted s.produced, ⟨s.mode, s.produced + 1, h⟩, source)) ∨
    (∃ h : s.produced < s.mode.count, s.mode.isRandom = true ∧ ∃ n t, source.drawWord = (.ok n, t) ∧
      s.next source = (.emitted n, ⟨s.mode, s.produced + 1, h⟩, t)) ∨
    (s.produced < s.mode.count ∧ s.mode.isRandom = true ∧ ∃ e t, source.drawWord = (.error e, t) ∧
      s.next source = (.failed e, s, t)) := by
  by_cases left : s.produced < s.mode.count
  · obtain ⟨mode, produced, bound⟩ := s
    cases mode with
    | single => exact .inr (.inl ⟨left, rfl, by simp [next, left]⟩)
    | first limit => exact .inr (.inl ⟨left, rfl, by simp [next, left]⟩)
    | random limit =>
      cases draw : source.drawWord with
      | mk drawn t =>
        cases drawn with
        | ok n => exact .inr (.inr (.inl ⟨left, rfl, n, t, rfl, by simp [next, left, draw]⟩))
        | error e => exact .inr (.inr (.inr ⟨left, rfl, e, t, rfl, by simp [next, left, draw]⟩))
  · have bound := s.produced_le
    exact .inl ⟨by omega, by simp [next, left]⟩

/-- No mode counts more than there are unhardened indices. -/
theorem count_lt (m : Mode) : m.count < 2 ^ 32 := by
  have half : hardenedBoundary = 2 ^ 31 := rfl
  cases m with
  | single => decide
  | first limit =>
    have := limit.value_lt
    simp only [Mode.count]
    omega
  | random limit =>
    have := limit.value_lt
    simp only [Mode.count]
    omega

/-- One step accounts for what it did. -/
theorem next_took (s : Sequence) (a : Source) :
    Took s a (s.next a).1.indices (s.next a).1.failure? (s.next a).2.1 (s.next a).2.2 := by
  rcases next_cases s a with ⟨_, eq⟩ | ⟨left, ordered, eq⟩ | ⟨left, random, n, b, word, eq⟩ |
    ⟨left, random, e, b, word, eq⟩ <;> rw [eq]
  · exact .refl s a
  · have small := count_lt s.mode
    exact {
      mode_eq := rfl
      produced_eq := rfl
      yields := by simpa [ordered] using .nil
      positions := fun _ => rfl
      words := by simp [Step.indices]; omega
      turned_down := by simp [Step.failure?]
      unfinished := by simp [Step.failure?] }
  · obtain ⟨small, draw⟩ := Source.draw?_of_drawWord_ok word
    exact {
      mode_eq := rfl
      produced_eq := rfl
      yields := by
        simpa [random, valuesOf, Step.indices, Step.failure?, Source.rejected] using .single draw
      positions := by simp [random]
      words := by simpa [Step.indices] using small
      turned_down := by simp [Step.failure?]
      unfinished := by simp [Step.failure?] }
  · obtain ⟨yields, outside⟩ := Source.yields_of_drawWord_error word
    exact {
      mode_eq := rfl
      produced_eq := rfl
      yields := by simpa [random, valuesOf, Step.indices, Step.failure?] using yields
      positions := by simp [random]
      words := by simp [Step.indices]
      turned_down := by simpa [Step.failure?] using outside
      unfinished := by simp [Step.failure?, random, left] }

/-! ### Many steps -/

/-- Taking one index and then the rest. -/
theorem take_succ (n : Nat) (s : Sequence) (a : Source) :
    s.take (n + 1) a =
      match s.next a with
      | (.emitted index, t, b) =>
        (⟨index :: (t.take n b).1.indices, (t.take n b).1.failure?⟩, (t.take n b).2)
      | (.ended, t, b) => (⟨[], none⟩, t, b)
      | (.failed e, t, b) => (⟨[], some e⟩, t, b) := by
  rewrite [take]
  rcases s.next a with ⟨step, t, b⟩
  cases step <;> rfl

/-- Taking indices in a row accounts for what it did. -/
theorem take_took (n : Nat) (s : Sequence) (a : Source) :
    Took s a (s.take n a).1.indices (s.take n a).1.failure? (s.take n a).2.1 (s.take n a).2.2 := by
  induction n generalizing s a with
  | zero => exact .refl s a
  | succ n ih =>
    have first := next_took s a
    rw [take_succ]
    rcases eq : s.next a with ⟨step, t, b⟩
    rw [eq] at first
    cases step with
    | emitted index => exact first.trans (ih t b)
    | ended => exact first
    | failed e => exact first

/-- A row that no failure ends is as long as asked for, or runs up to the end. -/
theorem take_length {n : Nat} {s : Sequence} {a : Source} (fine : (s.take n a).1.failure? = none) :
    (s.take n a).1.indices.length = min n s.remaining := by
  induction n generalizing s a with
  | zero => simp [take]
  | succ n ih =>
    rw [take_succ] at fine ⊢
    rcases next_cases s a with ⟨done, eq⟩ | ⟨left, _, eq⟩ | ⟨left, _, m, b, _, eq⟩ |
      ⟨_, _, e, b, _, eq⟩ <;> rw [eq] at fine ⊢
    · simp [remaining, done]
    · rw [List.length_cons, ih fine]
      simp only [remaining]
      omega
    · rw [List.length_cons, ih fine]
      simp only [remaining]
      omega
    · simp at fine

end Sequence
end IndexScan
