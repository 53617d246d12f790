import IndexScan.Proofs.Scan.Branches

/-!
Scans of branches over modes that are not random. Such a mode has nothing to do with the source: a
pass over it does the same on every source and leaves each as it was (`resolve_of_ordered`). So
every pass over a branch has the same result, whatever was scanned before it, and neither the order
of the branches nor how often they come matters to what is kept (`resolveBranches_unordered`).
-/

namespace IndexScan

/-- Probing whose steps never fail. -/
structure Probing.Sure {ε α : Type} (p : Probing ε α) : Prop where
  derives : ∀ index, ∃ artifact, p.derive index = .ok artifact
  decides : ∀ artifact, ∃ isHit, p.accepts artifact = .ok isHit

namespace Sequence

/-- A sequence that is not random takes the same step on every source, and leaves it as it was. -/
theorem next_of_ordered {s : Sequence} (ordered : s.mode.isRandom = false) (a b : Source) :
    s.next b = ((s.next a).1, (s.next a).2.1, b) := by
  obtain ⟨mode, produced, bound⟩ := s
  unfold next
  cases mode with
  | single => split_ifs <;> rfl
  | first limit => split_ifs <;> rfl
  | random limit => cases ordered

end Sequence

namespace Scan

variable {ε α : Type}

/-! ### One pass -/

/-- Probing along a sequence that is not random does the same on every source, and leaves it as it
was. -/
theorem probe_of_ordered (p : Probing ε α) (n : Nat) {s : Sequence}
    (ordered : s.mode.isRandom = false) (a b : Source) :
    probe p n s b = { probe p n s a with source := b } := by
  induction n generalizing s a with
  | zero => rfl
  | succ n ih =>
    rcases next : s.next a with ⟨step, t, a'⟩
    have next' : s.next b = (step, t, b) := by rw [Sequence.next_of_ordered ordered a b, next]
    rw [probe, probe, next, next']
    cases step with
    | ended => rfl
    | failed e => rfl
    | emitted index =>
      have took := Sequence.next_took s a
      rw [next] at took
      have later := ih (took.mode_eq ▸ ordered) a'
      dsimp only
      cases p.derive index with
      | error e => rfl
      | ok artifact =>
        dsimp only
        cases p.accepts artifact with
        | error e => rfl
        | ok isHit =>
          dsimp only
          split_ifs
          · rfl
          · rw [later]

/-- A pass over a mode that is not random does the same on every source, and leaves it as it was. -/
theorem resolve_of_ordered (p : Probing ε α) {mode : Mode} (ordered : mode.isRandom = false)
    (a b : Source) : resolve p mode b = { resolve p mode a with source := b } := by
  have same := probe_of_ordered p (Sequence.start mode).remaining (s := .start mode) ordered a b
  unfold resolve
  dsimp only
  rw [same]
  dsimp only
  split <;> rfl

/-- No call of a pass over a mode that is not random fails, if none of its steps does. -/
theorem callsSucceed_of_ordered {p : Probing ε α} (sure : p.Sure) {mode : Mode}
    (ordered : mode.isRandom = false) (source : Source) : CallsSucceed p mode source := by
  intro raises
  cases raises with
  | draw failed =>
    obtain ⟨taken, -⟩ := Sequence.take_ordered (s := .start mode) ordered _ source
    rw [taken] at failed
    cases failed
  | @step index _ failed =>
    obtain ⟨artifact, derived⟩ := sure.derives index
    obtain ⟨isHit, decided⟩ := sure.decides artifact
    exact failed ⟨index, artifact, isHit⟩ rfl ⟨derived, decided⟩

/-! ### All branches -/

/-- Every pass over branch `b` has the result `alone b`, and leaves its source as it was. -/
def Steady (p : Int → Probing ε α) (mode : Mode) (alone : Int → ScanResult α) : Prop :=
  ∀ b source, (resolve (p b) mode source).outcome = .ok (alone b) ∧
    (resolve (p b) mode source).source = source

theorem exists_steady {p : Int → Probing ε α} (sure : ∀ b, (p b).Sure) {mode : Mode}
    (ordered : mode.isRandom = false) : ∃ alone, Steady p mode alone := by
  have each : ∀ b, ∃ result, ∀ source, (resolve (p b) mode source).outcome = .ok result ∧
      (resolve (p b) mode source).source = source := by
    intro b
    obtain ⟨result, outcome⟩ :=
      resolve_answered (callsSucceed_of_ordered (sure b) ordered (.scripted [] 0))
    refine ⟨result, fun source => ?_⟩
    rw [resolve_of_ordered (p b) ordered (.scripted [] 0) source]
    exact ⟨outcome, rfl⟩
  exact ⟨fun b => (each b).choose, fun b => (each b).choose_spec⟩

/-- Steady passes keep for every branch of the list its one result, and leave the source as it was.
-/
theorem resolveMany_of_steady {p : Int → Probing ε α} {mode : Mode} {alone : Int → ScanResult α}
    (steady : Steady p mode alone) (branches : List Int) (sofar : List (Int × ScanResult α))
    (source : Source) :
    (resolveMany p mode sofar branches source).source = source ∧
      ∃ results, (resolveMany p mode sofar branches source).outcome = .ok results ∧
        ∀ b, results.lookup b = if b ∈ branches then some (alone b) else sofar.lookup b := by
  induction branches generalizing sofar with
  | nil => exact ⟨rfl, sofar, rfl, fun b => (if_neg List.not_mem_nil).symm⟩
  | cons branch rest ih =>
    obtain ⟨outcome, left⟩ := steady branch source
    obtain ⟨untouched, results, later, kept⟩ := ih (insertBranch branch (alone branch) sofar)
    rw [resolveMany_cons outcome]
    dsimp only
    rw [left]
    refine ⟨untouched, results, later, fun b => ?_⟩
    rw [kept, Command.lookup_insertBranch]
    by_cases known : b ∈ rest
    · rw [if_pos known, if_pos (List.mem_cons_of_mem _ known)]
    · by_cases same : b = branch
      · rw [if_neg known, if_pos same, if_pos (same ▸ List.mem_cons_self), same]
      · rw [if_neg known, if_neg same, if_neg (by simp [same, known])]

/-- Over a mode that is not random, branches can be scanned in any order and any number of times.
Two lists with the same branches have results on whatever sources, the same one for every branch:
that of a pass over the branch alone, stopped at its first hit or not. No source is touched. -/
theorem resolveBranches_unordered {p : Int → Probing ε α} (sure : ∀ b, (p b).Sure) {mode : Mode}
    (ordered : mode.isRandom = false) {branches branches' : List Int}
    (same : ∀ b, b ∈ branches ↔ b ∈ branches') (source source' : Source) :
    let one := resolveBranches p mode branches source
    let other := resolveBranches p mode branches' source'
    one.source = source ∧ other.source = source' ∧
      ∃ results results', one.outcome = .ok results ∧ other.outcome = .ok results' ∧
        (∀ b, results.lookup b = results'.lookup b) ∧
        (∀ b, (results.lookup b).isSome = true ↔ b ∈ branches) ∧
        ∀ b ∈ branches, ∃ result, results.lookup b = some result ∧
          ∀ apart, (resolve (p b) mode apart).outcome = .ok result ∧
            (resolve (p b) mode apart).source = apart := by
  intro one other
  obtain ⟨alone, steady⟩ := exists_steady sure ordered
  obtain ⟨untouched, results, outcome, kept⟩ := resolveMany_of_steady steady branches [] source
  obtain ⟨untouched', results', outcome', kept'⟩ :=
    resolveMany_of_steady steady branches' [] source'
  refine ⟨untouched, untouched', results, results', outcome, outcome', ?_, ?_, ?_⟩
  · intro b
    rw [kept, kept']
    simp only [same]
  · intro b
    rw [kept]
    by_cases known : b ∈ branches
    · simp [known]
    · simp [known]
  · intro b known
    exact ⟨alone b, by rw [kept, if_pos known], steady b⟩

/-- Two lists of the branches 3 and 5, one of them with a branch that comes twice, on two scripts: a
pass stops at its first hit, and both scans keep the same result for branch 5. -/
theorem resolveBranches_unordered_of_stops :
    let mode : Mode := .first ⟨4, by decide⟩
    ∃ results results' result,
      (resolveBranches evenSums mode [5, 3, 5] (.scripted [9] 0)).outcome = .ok results ∧
        (resolveBranches evenSums mode [3, 5] (.scripted [] 2)).outcome = .ok results' ∧
        results.lookup 5 = some result ∧ results'.lookup 5 = some result ∧
        result.indexes = [1] ∧
        (resolveBranches evenSums mode [5, 3, 5] (.scripted [9] 0)).source = .scripted [9] 0 := by
  intro mode
  have sure : ∀ b, (evenSums b).Sure := fun b => ⟨fun _ => ⟨_, rfl⟩, fun _ => ⟨_, rfl⟩⟩
  have same : ∀ b : Int, b ∈ [5, 3, 5] ↔ b ∈ [3, 5] := by
    intro b
    simp only [List.mem_cons, List.not_mem_nil, or_false]
    tauto
  have ordered : mode.isRandom = false := rfl
  obtain ⟨untouched, -, results, results', outcome, outcome', agree, -, each⟩ :=
    resolveBranches_unordered sure ordered same (.scripted [9] 0) (.scripted [] 2)
  obtain ⟨result, kept, alone⟩ := each 5 (by decide)
  refine ⟨results, results', result, outcome, outcome', kept, (agree 5).symm.trans kept, ?_,
    untouched⟩
  have indexes : ((resolve (evenSums 5) mode (.scripted [] 0)).outcome.toOption.map
      ScanResult.indexes) = some [1] := by decide +kernel
  rw [(alone (.scripted [] 0)).1] at indexes
  exact Option.some.inj indexes

end Scan

end IndexScan
