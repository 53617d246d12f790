import IndexScan.Proofs.Sequence.Draws

/-!
Sequences over whole histories. However a sequence is asked, and whatever its source does, it has
produced as many indices as it emitted, and never more than its mode counts; what it still has to
give is the difference. A draw that fails ends the request and costs nothing, and a sequence that has
ended answers nothing but that (`one_shot`).

Asking for one index, for some, for all and for none is asking for a row of some length
(`answer_eq_take`), so what a row does decides what any request does (`served`). A history is one
request after the other, with `Consistent` as its invariant.
-/

namespace IndexScan.Sequence

/-! ### Requests -/

/-- What a sequence can be asked for. -/
inductive Ask where
  /-- One index. At the end there is none, however that is told. -/
  | next
  /-- Up to `n` indices. -/
  | take (n : Nat)
  /-- All indices that are still to come. -/
  | drain
  /-- How far it is. -/
  | look
  deriving DecidableEq, Repr

/-- What a sequence answers. -/
inductive Answer where
  | step (step : Step)
  | taken (taken : Taken)
  | state (produced remaining : Nat) (isExhausted : Bool)
  deriving DecidableEq, Repr

/-- The indices that an answer holds. -/
def Answer.indices : Answer → List Nat
  | step outcome => outcome.indices
  | taken row => row.indices
  | state .. => []

/-- The failure that an answer reports. -/
def Answer.failure? : Answer → Option DrawError
  | step outcome => outcome.failure?
  | taken row => row.failure?
  | state .. => none

/-- The answers that report the end. -/
def Answer.IsEnd : Answer → Prop
  | step outcome => outcome = .ended
  | taken row => row = ⟨[], none⟩
  | state _ remaining isExhausted => remaining = 0 ∧ isExhausted = true

/-- A request, and the source as the request finds it. From one request to the next a source may do
anything: others may draw on it, and one that failed may have recovered. -/
structure Request where
  ask : Ask
  source : Source

/-- The number of indices that are asked for. -/
def Ask.size (s : Sequence) : Ask → Nat
  | next => 1
  | take n => n
  | drain => s.remaining
  | look => 0

/-- The answer to a request, the sequence behind it and the source behind it. -/
def answer (s : Sequence) (r : Request) : Answer × Sequence × Source :=
  match r.ask with
  | .next =>
    let (step, t, source) := s.next r.source
    (.step step, t, source)
  | .take n =>
    let (taken, t, source) := s.take n r.source
    (.taken taken, t, source)
  | .drain =>
    let (taken, t, source) := s.drain r.source
    (.taken taken, t, source)
  | .look => (.state s.produced s.remaining s.isExhausted, s, r.source)

/-- The answers to requests in order, and the sequence behind them. -/
def answers (s : Sequence) : List Request → List Answer × Sequence
  | [] => ([], s)
  | r :: rest =>
    let (first, t, _) := s.answer r
    let (others, u) := t.answers rest
    (first :: others, u)

/-- The indices that answers hold, in their order. -/
def emitted (given : List Answer) : List Nat :=
  given.flatMap Answer.indices

/-! ### Rows -/

/-- A row accounts for no more values than were asked for, one that was turned down included. -/
theorem take_values_le (n : Nat) (s : Sequence) (a : Source) :
    (valuesOf (s.take n a).1.indices (s.take n a).1.failure?).length ≤ n := by
  induction n generalizing s a with
  | zero => simp [take, valuesOf, Source.rejected]
  | succ n ih =>
    rw [take_succ]
    rcases s.next a with ⟨step, t, b⟩
    cases step with
    | emitted index =>
      have later := ih t b
      simp only [valuesOf, List.length_append, List.length_map, List.length_cons] at later ⊢
      omega
    | ended => simp [valuesOf, Source.rejected]
    | failed e => cases e <;> simp [valuesOf, Source.rejected]

/-- Nor does it account for more than were still to come. -/
theorem Took.values_le {s t : Sequence} {a b : Source} {is : List Nat} {failure? : Option DrawError}
    (took : Took s a is failure? t b) : (valuesOf is failure?).length ≤ s.remaining := by
  have counted := took.produced_eq
  have bound := t.produced_le
  rw [took.mode_eq] at bound
  rw [valuesOf, List.length_append, List.length_map, remaining]
  rcases failed : failure? with _ | e
  · simp only [Source.rejected, List.length_nil]
    omega
  · have open? := (took.unfinished e failed).2
    rw [took.mode_eq] at open?
    cases e <;> simp only [Source.rejected, List.length_nil, List.length_singleton] <;> omega

/-- A random sequence with an index to come emits the next word that its source gives. -/
theorem next_of_word {s : Sequence} {source after : Source} {word : Nat}
    (random : s.mode.isRandom = true) (left : s.produced < s.mode.count)
    (drawn : source.drawWord = (.ok word, after)) :
    ∃ t : Sequence, s.next source = (.emitted word, t, after) ∧ t.produced = s.produced + 1 := by
  rcases next_cases s source with ⟨done, _⟩ | ⟨_, ordered, _⟩ | ⟨_, _, m, b, word', eq⟩ |
    ⟨_, _, e, b, word', _⟩
  · omega
  · simp [ordered] at random
  · rw [drawn] at word'
    cases word'
    exact ⟨_, eq, rfl⟩
  · rw [drawn] at word'
    cases word'

/-! ### One request -/

/-- A request holds and leaves what a row of the size asked for holds and leaves. -/
theorem answer_eq_take (s : Sequence) (r : Request) :
    (s.answer r).1.indices = (s.take (r.ask.size s) r.source).1.indices ∧
      (s.answer r).1.failure? = (s.take (r.ask.size s) r.source).1.failure? ∧
      (s.answer r).2 = (s.take (r.ask.size s) r.source).2 := by
  obtain ⟨ask, source⟩ := r
  cases ask with
  | next =>
    simp only [answer, Ask.size]
    rw [take_succ]
    rcases s.next source with ⟨step, t, b⟩
    cases step <;> exact ⟨rfl, rfl, rfl⟩
  | take n => exact ⟨rfl, rfl, rfl⟩
  | drain => exact ⟨rfl, rfl, rfl⟩
  | look => exact ⟨rfl, rfl, rfl⟩

theorem answer_took (s : Sequence) (r : Request) :
    Took s r.source (s.answer r).1.indices (s.answer r).1.failure? (s.answer r).2.1
      (s.answer r).2.2 := by
  obtain ⟨indices, failure, left⟩ := s.answer_eq_take r
  rw [indices, failure, left]
  exact take_took _ s r.source

/-- One index is missing at the end only. -/
theorem isExhausted_of_ended {s : Sequence} {r : Request}
    (ended : (s.answer r).1 = .step .ended) : s.isExhausted = true := by
  obtain ⟨ask, source⟩ := r
  cases ask with
  | next =>
    have step : (s.next source).1 = .ended := by simpa [answer] using ended
    rcases next_cases s source with ⟨done, _⟩ | ⟨_, _, eq⟩ | ⟨_, _, _, _, _, eq⟩ |
      ⟨_, _, _, _, _, eq⟩
    · simp [isExhausted, done]
    · simp [eq] at step
    · simp [eq] at step
    · simp [eq] at step
  | take n => cases ended
  | drain => cases ended
  | look => cases ended

/-- Behind the end every answer reports it. -/
theorem isEnd_of_isExhausted {s : Sequence} (ended : s.isExhausted = true) (r : Request) :
    (s.answer r).1.IsEnd := by
  obtain ⟨empty, fine, _⟩ := (s.answer_took r).of_exhausted ended
  obtain ⟨ask, source⟩ := r
  cases ask with
  | next =>
    rcases next_cases s source with ⟨_, eq⟩ | ⟨left, _⟩ | ⟨left, _⟩ | ⟨left, _⟩
    · simp [answer, eq, Answer.IsEnd]
    all_goals
      have done : s.mode.count ≤ s.produced := by simpa [isExhausted] using ended
      omega
  | take n =>
    show (s.take n source).1 = ⟨[], none⟩
    cases row : (s.take n source).1 with
    | mk indices failure? =>
      simp only [answer, Answer.indices, Answer.failure?, row] at empty fine
      rw [empty, fine]
  | drain =>
    show (s.drain source).1 = ⟨[], none⟩
    cases row : (s.drain source).1 with
    | mk indices failure? =>
      simp only [answer, Answer.indices, Answer.failure?, row] at empty fine
      rw [empty, fine]
  | look =>
    have done : s.mode.count ≤ s.produced := by simpa [isExhausted] using ended
    exact ⟨Nat.sub_eq_zero_of_le done, ended⟩

/-- What a request does to a sequence, in whatever state it finds sequence and source. -/
structure Served (s : Sequence) (r : Request) : Prop where
  /-- Every index that is emitted counts, and nothing else does. -/
  counts : (s.answer r).2.1.produced = s.produced + (s.answer r).1.indices.length
  /-- A random sequence draws what it emits or turns down; no other draws anything. -/
  draws : r.source.Yields (if s.mode.isRandom then
    valuesOf (s.answer r).1.indices (s.answer r).1.failure? else []) (s.answer r).2.2
  /-- Without a failure there are as many indices as were asked for, or all that were to come … -/
  fills : (s.answer r).1.failure? = none →
    (s.answer r).1.indices.length = min (r.ask.size s) s.remaining
  /-- … and with or without one no more values are drawn. -/
  spares : (valuesOf (s.answer r).1.indices (s.answer r).1.failure?).length ≤
    min (r.ask.size s) s.remaining
  /-- A sequence that is not random does not fail. -/
  steady : s.mode.isRandom = false → (s.answer r).1.failure? = none
  /-- No sequence reports its end before it is there. -/
  lasts : (s.answer r).1 = .step .ended → s.isExhausted = true
  /-- Behind a failure an index is still to come, and the next word that a source gives is it. -/
  resumes : ∀ e, (s.answer r).1.failure? = some e → (s.answer r).2.1.isExhausted = false ∧
    ∀ source word after, source.drawWord = (.ok word, after) →
      ∃ t, (s.answer r).2.1.next source = (.emitted word, t, after) ∧
        t.produced = (s.answer r).2.1.produced + 1
  /-- At the end every request is told so, draws nothing and changes nothing. -/
  ends : s.isExhausted = true →
    (s.answer r).1.IsEnd ∧ (s.answer r).2.1 = s ∧ (s.answer r).2.2 = r.source

theorem eq_of_produced {s t : Sequence} (mode : t.mode = s.mode)
    (produced : t.produced = s.produced) :
    t = s := by
  cases s
  cases t
  simp_all

theorem served (s : Sequence) (r : Request) : Served s r := by
  have took := s.answer_took r
  obtain ⟨indices, failure, left⟩ := s.answer_eq_take r
  exact {
    counts := took.produced_eq
    draws := took.yields
    fills := fun fine => by
      rw [indices]
      exact take_length (failure ▸ fine)
    spares := by
      refine Nat.le_min.mpr ⟨?_, took.values_le⟩
      rw [indices, failure]
      exact take_values_le _ s r.source
    steady := fun ordered => by
      rcases failed : (s.answer r).1.failure? with _ | e
      · rfl
      · have random := (took.unfinished e failed).1
        simp [ordered] at random
    lasts := isExhausted_of_ended
    resumes := fun e failed => by
      obtain ⟨random, open?⟩ := took.unfinished e failed
      refine ⟨by simpa [isExhausted] using open?, fun source word after drawn => ?_⟩
      exact next_of_word (took.mode_eq ▸ random) open? drawn
    ends := fun ended => by
      obtain ⟨_, _, produced⟩ := took.of_exhausted ended
      exact ⟨isEnd_of_isExhausted ended r, eq_of_produced took.mode_eq produced,
        took.source_eq (.inr ended)⟩ }

/-! ### Histories -/

/-- How a sequence of a mode stands when it has emitted `indices`. -/
structure Consistent (mode : Mode) (indices : List Nat) (s : Sequence) : Prop where
  mode_eq : s.mode = mode
  produced_eq : s.produced = indices.length
  bounded : s.produced ≤ mode.count
  remaining_eq : s.remaining = mode.count - s.produced
  isExhausted_iff : s.isExhausted = true ↔ s.produced = mode.count
  /-- A sequence that is not random has emitted the numbers from zero on, in order. -/
  ordered : mode.isRandom = false → indices = List.range indices.length

theorem consistent_start (mode : Mode) : Consistent mode [] (start mode) where
  mode_eq := rfl
  produced_eq := rfl
  bounded := Nat.zero_le _
  remaining_eq := rfl
  isExhausted_iff := by simp [isExhausted, start, eq_comm]
  ordered := fun _ => rfl

/-- A request keeps the sequence consistent with what it has emitted. -/
theorem Consistent.answer {mode : Mode} {indices : List Nat} {s : Sequence}
    (consistent : Consistent mode indices s) (r : Request) :
    Consistent mode (indices ++ (s.answer r).1.indices) (s.answer r).2.1 := by
  have took := s.answer_took r
  have bound := (s.answer r).2.1.produced_le
  have same : (s.answer r).2.1.mode = mode := took.mode_eq.trans consistent.mode_eq
  rw [same] at bound
  exact {
    mode_eq := same
    produced_eq := by rw [took.produced_eq, consistent.produced_eq, List.length_append]
    bounded := bound
    remaining_eq := by rw [remaining, same]
    isExhausted_iff := by
      rw [isExhausted, same, decide_eq_true_eq]
      omega
    ordered := fun ordered => by
      have later := took.positions (consistent.mode_eq ▸ ordered)
      have before := consistent.ordered ordered
      rw [consistent.produced_eq] at later
      rw [List.length_append, List.range_eq_range', ← List.range'_append_1, ← List.range_eq_range',
        Nat.zero_add, ← before, ← later] }

theorem Consistent.answers {mode : Mode} {indices : List Nat} {s : Sequence}
    (consistent : Consistent mode indices s) (requests : List Request) :
    Consistent mode (indices ++ emitted (s.answers requests).1) (s.answers requests).2 := by
  induction requests generalizing indices s with
  | nil => simpa [Sequence.answers, emitted] using consistent
  | cons r rest ih =>
    have later := ih (consistent.answer r)
    rw [List.append_assoc] at later
    exact later

/-- After any requests a sequence stands as its mode and the indices that it has emitted say, and
the next request is served as it should be. -/
theorem one_shot (mode : Mode) (requests : List Request) (r : Request) :
    Consistent mode (emitted ((start mode).answers requests).1)
        ((start mode).answers requests).2 ∧
      Served ((start mode).answers requests).2 r := by
  have whole := (consistent_start mode).answers requests
  rw [List.nil_append] at whole
  exact ⟨whole, served _ r⟩

/-- A value out of range ends a row, another row finds the source run out, and the sequence then goes
on with what the source gives once it has recovered. -/
theorem one_shot_across_failures :
    let requests : List Request :=
      [⟨.take 3, .scripted [4, -1, 5] 0⟩, ⟨.drain, .scripted [] 2⟩, ⟨.next, .scripted [6] 2⟩]
    let s := ((start (.random ⟨3, by decide⟩)).answers requests).2
    emitted ((start (.random ⟨3, by decide⟩)).answers requests).1 = [4, 6] ∧
      s.produced = 2 ∧ s.remaining = 1 ∧
      (s.answer ⟨.take 5, .scripted [7, 8] 3⟩).1.indices.length = 1 := by
  intro requests s
  obtain ⟨consistent, served⟩ :=
    one_shot (.random ⟨3, by decide⟩) requests ⟨.take 5, .scripted [7, 8] 3⟩
  have given : emitted ((start (.random ⟨3, by decide⟩)).answers requests).1 = [4, 6] := by
    decide +kernel
  have produced : s.produced = 2 := by
    rw [consistent.produced_eq, given]
    rfl
  have remaining : s.remaining = 1 := by
    rw [consistent.remaining_eq, produced]
    rfl
  refine ⟨given, produced, remaining, ?_⟩
  rw [served.fills (by decide +kernel), remaining]
  rfl

end IndexScan.Sequence
