import IndexScan.Proofs.Sequence.Draws
import IndexScan.Scan.Observed

/-!
Acts of a scan. What an act does in a world is computed step by step (`play_bind_ok`,
`play_ask_emitted` and their like). What holds between the steps of two scans in lockstep, and is
kept when steps are done one after the other, holds between the scans (`Lockstep.resolve`,
`Lockstep.resolveMany`). So every scan accounts for what it did (`Accounts`): it adds its events to
those before it, its draws are what it took from the source, and if it fails, it fails with what its
last event failed with, before which nothing failed.
-/

namespace IndexScan

namespace Sequence

variable {s t : Sequence} {a b : Source}

/-- An index that a sequence gives is the word that it drew, if it draws any, and brings it one
index nearer to its end. -/
theorem emitted_effect {index : Nat} (next : s.next a = (.emitted index, t, b)) :
    t.mode = s.mode ∧ s.remaining = t.remaining + 1 ∧
      a.Yields (if s.mode.isRandom then [(index : Int)] else []) b := by
  have took := next_took s a
  rw [next] at took
  have counted : t.produced = s.produced + 1 := took.produced_eq
  have bound := t.produced_le
  rw [took.mode_eq] at bound
  refine ⟨took.mode_eq, ?_, took.yields⟩
  rw [remaining, remaining, took.mode_eq]
  omega

/-- Only a random sequence with an index still to come fails. It uses up the value that it turns
down. -/
theorem failed_effect {e : DrawError} (next : s.next a = (.failed e, t, b)) :
    s.mode.isRandom = true ∧ (∃ r, s.remaining = r + 1) ∧
      a.Yields (Source.rejected (some e)) b := by
  have took := next_took s a
  rw [next] at took
  obtain ⟨random, unfinished⟩ := took.unfinished e rfl
  have yields := took.yields
  rw [if_pos random] at yields
  have counted : t.produced = s.produced := took.produced_eq
  rw [took.mode_eq, counted] at unfinished
  exact ⟨random, ⟨_, (Nat.succ_pred_eq_of_pos (Nat.sub_pos_of_lt unfinished)).symm⟩, yields⟩

/-- A sequence at its end leaves its source alone. -/
theorem ended_effect (next : s.next a = (.ended, t, b)) : b = a := by
  have took := next_took s a
  rw [next] at took
  have yields := took.yields
  simp only [Step.indices, Step.failure?, valuesOf, Source.rejected, List.map_nil, List.append_nil,
    ite_self] at yields
  exact yields.eq_of_nil

/-- A sequence has ended, gives an index, or fails. -/
theorem next_outcomes (s : Sequence) (a : Source) :
    (s.remaining = 0 ∧ ∃ t b, s.next a = (.ended, t, b)) ∨
      (∃ index t b, s.next a = (.emitted index, t, b)) ∨ ∃ e t b, s.next a = (.failed e, t, b) := by
  rcases next_cases s a with ⟨done, eq⟩ | ⟨left, -, eq⟩ | ⟨left, -, n, b, -, eq⟩ |
    ⟨-, -, e, b, -, eq⟩
  · exact .inl ⟨Nat.sub_eq_zero_of_le (Nat.le_of_eq done.symm), _, _, eq⟩
  · exact .inr (.inl ⟨_, _, _, eq⟩)
  · exact .inr (.inl ⟨_, _, _, eq⟩)
  · exact .inr (.inr ⟨_, _, _, eq⟩)

end Sequence

namespace Scan

variable {ε σ κ α β γ : Type}

/-- The event of a word that was drawn for a mode; a mode that is not random draws none. -/
def drawn (mode : Mode) (index : Nat) : List (Event ε κ α) :=
  if mode.isRandom then [.drew (.ok index)] else []

/-- The event of a record, if the level lets it through. -/
def logged (threshold : Nat) (record : LogRecord) : List (Event ε κ α) :=
  if threshold ≤ record.level.weight then [.logged record] else []

namespace Act

/-! ### Step by step -/

section

variable {act : Act ε σ κ α β} {next : β → Act ε σ κ α γ} {w v : World ε σ κ α}

theorem play_bind_ok {b : β} (done : act.play w = (.ok b, v)) :
    (act >>= next).play w = (next b).play v := by
  unfold play at done ⊢
  rw [ExceptT.run_bind, StateT.run_bind, done]
  rfl

theorem play_bind_error {e : ScanFailure ε} (failed : act.play w = (.error e, v)) :
    (act >>= next).play w = (.error e, v) := by
  unfold play at failed ⊢
  rw [ExceptT.run_bind, StateT.run_bind, failed]
  rfl

end

section

variable {source source' : Source} {state state' : σ} {events : List (Event ε κ α)}

theorem play_log (threshold : Nat) (record : LogRecord) :
    (log threshold record).play ⟨source, state, events⟩ =
      (.ok (), ⟨source, state, events ++ logged threshold record⟩) := by
  unfold log logged
  split_ifs
  · rfl
  · rw [List.append_nil]
    rfl

theorem play_ask_ended {s t : Sequence} (next : s.next source = (.ended, t, source')) :
    (ask s).play ⟨source, state, events⟩ = (.ok none, ⟨source', state, events⟩) := by
  have asked : (ask s : Act ε σ κ α _).play ⟨source, state, events⟩ = _ := play_bind_ok rfl
  rw [asked]
  dsimp only
  rw [next]
  rfl

theorem play_ask_emitted {s t : Sequence} {index : Nat}
    (next : s.next source = (.emitted index, t, source')) :
    (ask s).play ⟨source, state, events⟩ =
      (.ok (some (index, t)), ⟨source', state, events ++ drawn s.mode index⟩) := by
  have asked : (ask s : Act ε σ κ α _).play ⟨source, state, events⟩ = _ := play_bind_ok rfl
  rw [asked]
  dsimp only
  rw [next]
  dsimp only
  unfold drawn
  cases s.mode.isRandom with
  | true => rfl
  | false =>
    simp only [Bool.false_eq_true, if_false, List.append_nil]
    rfl

theorem play_ask_failed {s t : Sequence} {e : DrawError}
    (next : s.next source = (.failed e, t, source')) :
    (ask s).play ⟨source, state, events⟩ =
      (.error (.draw e), ⟨source', state, events ++ [.drew (.error e)]⟩) := by
  have asked : (ask s : Act ε σ κ α _).play ⟨source, state, events⟩ = _ := play_bind_ok rfl
  rw [asked]
  dsimp only
  rw [next]
  rfl

theorem play_call_ok {f : σ → Except ε β × σ} {event : Except ε β → Event ε κ α} {b : β}
    (answer : f state = (.ok b, state')) :
    (call f event).play ⟨source, state, events⟩ =
      (.ok b, ⟨source, state', events ++ [event (.ok b)]⟩) := by
  have asked : (call f event).play ⟨source, state, events⟩ = _ := play_bind_ok rfl
  rw [asked]
  dsimp only
  rw [answer]
  rfl

theorem play_call_error {f : σ → Except ε β × σ} {event : Except ε β → Event ε κ α} {e : ε}
    (answer : f state = (.error e, state')) :
    (call f event).play ⟨source, state, events⟩ =
      (.error (.step e), ⟨source, state', events ++ [event (.error e)]⟩) := by
  have asked : (call f event).play ⟨source, state, events⟩ = _ := play_bind_ok rfl
  rw [asked]
  dsimp only
  rw [answer]
  rfl

end

end Act

namespace Act

/-! ### Acts in lockstep -/

section

variable {R : (β : Type) → Act ε σ κ α β → Act ε σ κ α β → Prop} {threshold threshold' : Nat}

/-- Two scans do the same things in the same order, logged at two levels, and `R` holds between what
they do at a time. `R` is kept when things are done one after the other. -/
structure Lockstep (R : (β : Type) → Act ε σ κ α β → Act ε σ κ α β → Prop)
    (threshold threshold' : Nat) : Prop where
  pure {β : Type} (b : β) : R β (pure b) (pure b)
  bind {β γ : Type} {act act' : Act ε σ κ α β} {next next' : β → Act ε σ κ α γ} :
    R β act act' → (∀ b, R γ (next b) (next' b)) → R γ (act >>= next) (act' >>= next')
  log (record : LogRecord) : R Unit (log threshold record) (log threshold' record)
  ask (s : Sequence) : R (Option (Nat × Sequence)) (ask s) (ask s)

/-- `R` holds between the calls of two callers, who both go on behind a hit or both stop there. -/
structure InStep (R : (β : Type) → Act ε σ κ α β → Act ε σ κ α β → Prop)
    (c c' : Callbacks ε σ α) (name : Nat → κ) : Prop where
  derive (index : Nat) : R α (call (c.derive index) (.derived (name index)))
    (call (c'.derive index) (.derived (name index)))
  accepts (artifact : α) : R Bool (call (c.accepts artifact) (.tested artifact))
    (call (c'.accepts artifact) (.tested artifact))
  stop : c'.stopOnFirst = c.stopOnFirst

theorem Lockstep.probe {c c' : Callbacks ε σ α} {name : Nat → κ}
    (steps : Lockstep R threshold threshold') (calls : InStep R c c' name) (n : Nat) (s : Sequence)
    (tally : Tally α) :
    R _ (probe c threshold name n s tally) (probe c' threshold' name n s tally) := by
  -- Both loops ask, derive, decide and log at the same places; they differ in what they call.
  induction n generalizing s tally with
  | zero => exact steps.pure tally
  | succ n ih =>
    apply steps.bind (steps.ask s)
    intro given
    cases given with
    | none => exact steps.pure tally
    | some given =>
      apply steps.bind (calls.derive given.1)
      intro artifact
      apply steps.bind (calls.accepts artifact)
      intro isHit
      apply steps.bind (steps.log _)
      intro _
      rw [calls.stop]
      dsimp only
      split_ifs
      · exact steps.pure _
      · exact ih _ _
      · exact ih _ _

theorem Lockstep.resolve {c c' : Callbacks ε σ α} {name : Nat → κ}
    (steps : Lockstep R threshold threshold') (calls : InStep R c c' name) (mode : Mode) :
    R _ (resolve c threshold name mode) (resolve c' threshold' name mode) := by
  apply steps.bind (steps.probe calls _ _ _)
  intro tally
  apply steps.bind (steps.log _)
  intro _
  exact steps.pure tally

end

theorem Lockstep.resolveMany
    {R : (β : Type) → Act ε σ (Int × Nat) α β → Act ε σ (Int × Nat) α β → Prop}
    {threshold threshold' : Nat} {c c' : Int → Callbacks ε σ α}
    (steps : Lockstep R threshold threshold')
    (calls : ∀ branch, InStep R (c branch) (c' branch) fun index => (branch, index)) (mode : Mode)
    (branches : List Int) (results : List (Int × Tally α)) :
    R _ (resolveMany c threshold mode branches results)
      (resolveMany c' threshold' mode branches results) := by
  induction branches generalizing results with
  | nil => exact steps.pure results
  | cons branch rest ih =>
    apply steps.bind (steps.log _)
    intro _
    apply steps.bind (steps.resolve (calls branch) mode)
    intro tally
    exact ih _

end Act

/-! ### Accounts -/

/-- The values that a draw took from the source: the word that it gave, or the value that it turned
down. -/
def Event.values : Event ε κ α → List Int
  | drew (.ok n) => [(n : Int)]
  | drew (.error e) => Source.rejected (some e)
  | _ => []

/-- The failure of an outcome. -/
def failureOf? : Except (ScanFailure ε) β → Option (ScanFailure ε)
  | .ok _ => none
  | .error f => some f

/-- Of the events none failed; or the last one did, with the failure given, and none before it. -/
def FailsLast (events : List (Event ε κ α)) : Option (ScanFailure ε) → Prop
  | none => ∀ event ∈ events, event.failure? = none
  | some f => ∃ before last, events = before ++ [last] ∧ last.failure? = some f ∧
      ∀ event ∈ before, event.failure? = none

theorem FailsLast.append {first rest : List (Event ε κ α)} {failure? : Option (ScanFailure ε)}
    (fine : FailsLast first none) (later : FailsLast rest failure?) :
    FailsLast (first ++ rest) failure? := by
  cases failure? with
  | none => exact fun event mem => (List.mem_append.mp mem).elim (fine event) (later event)
  | some f =>
    obtain ⟨before, last, rfl, fails, none⟩ := later
    refine ⟨first ++ before, last, (List.append_assoc ..).symm, fails, ?_⟩
    exact fun event mem => (List.mem_append.mp mem).elim (fine event) (none event)

/-- Between two worlds the events `new` were told, they say what was taken from the source, and
nothing but the last one failed. -/
structure Added (w v : World ε σ κ α) (new : List (Event ε κ α))
    (failure? : Option (ScanFailure ε)) : Prop where
  events_eq : v.events = w.events ++ new
  yields : w.source.Yields (new.flatMap Event.values) v.source
  failsLast : FailsLast new failure?

theorem Added.refl (w : World ε σ κ α) : Added w w [] none where
  events_eq := (List.append_nil _).symm
  yields := .nil
  failsLast := fun _ mem => absurd mem List.not_mem_nil

theorem Added.trans {w v u : World ε σ κ α} {new more : List (Event ε κ α)}
    {failure? : Option (ScanFailure ε)} (left : Added w v new none)
    (right : Added v u more failure?) : Added w u (new ++ more) failure? where
  events_eq := by rw [right.events_eq, left.events_eq, List.append_assoc]
  yields := by
    rw [List.flatMap_append]
    exact left.yields.trans right.yields
  failsLast := left.failsLast.append right.failsLast

namespace Act

/-- An act accounts for what it does, in whatever world it is carried out. -/
def Accounts (act : Act ε σ κ α β) : Prop :=
  ∀ w, ∃ new, Added w (act.play w).2 new (failureOf? (act.play w).1)

theorem Accounts.pure (b : β) : (pure b : Act ε σ κ α β).Accounts :=
  fun w => ⟨[], .refl w⟩

theorem Accounts.bind {act : Act ε σ κ α β} {next : β → Act ε σ κ α γ} (first : act.Accounts)
    (later : ∀ b, (next b).Accounts) : (act >>= next).Accounts := by
  intro w
  obtain ⟨new, added⟩ := first w
  rcases done : act.play w with ⟨outcome, v⟩
  rw [done] at added
  cases outcome with
  | error e =>
    rw [play_bind_error done]
    exact ⟨new, added⟩
  | ok b =>
    rw [play_bind_ok done]
    obtain ⟨more, after⟩ := later b v
    exact ⟨new ++ more, added.trans after⟩

theorem log_accounts (threshold : Nat) (record : LogRecord) :
    (log threshold record : Act ε σ κ α Unit).Accounts := by
  rintro ⟨source, state, events⟩
  rw [play_log]
  refine ⟨logged threshold record, rfl, ?_, ?_⟩
  · unfold logged
    split_ifs <;> exact .nil
  · intro event mem
    unfold logged at mem
    split_ifs at mem
    · rw [List.mem_singleton.mp mem]
      rfl
    · cases mem

theorem ask_accounts (s : Sequence) : (ask s : Act ε σ κ α _).Accounts := by
  rintro ⟨source, state, events⟩
  rcases s.next_outcomes source with ⟨-, t, b, next⟩ | ⟨index, t, b, next⟩ | ⟨e, t, b, next⟩
  · rw [play_ask_ended next, Sequence.ended_effect next]
    exact ⟨[], .refl _⟩
  · rw [play_ask_emitted next]
    obtain ⟨-, -, yields⟩ := Sequence.emitted_effect next
    refine ⟨drawn s.mode index, rfl, ?_, ?_⟩
    · unfold drawn
      split_ifs at yields ⊢ <;> exact yields
    · intro event mem
      unfold drawn at mem
      split_ifs at mem
      · rw [List.mem_singleton.mp mem]
        rfl
      · cases mem
  · rw [play_ask_failed next]
    obtain ⟨-, -, yields⟩ := Sequence.failed_effect next
    refine ⟨[.drew (.error e)], rfl, ?_, [], _, rfl, rfl, by simp⟩
    simpa [Event.values] using yields

theorem derive_fails {call : κ} (answer : Except ε α) :
    (Event.derived call answer : Event ε κ α).failure? =
      failureOf? (answer.mapError ScanFailure.step) := by
  cases answer <;> rfl

theorem accepts_fails {artifact : α} (answer : Except ε Bool) :
    (Event.tested artifact answer : Event ε κ α).failure? =
      failureOf? (answer.mapError ScanFailure.step) := by
  cases answer <;> rfl

/-- Calling a function of the caller takes nothing from the source, and fails as its event does. -/
theorem call_accounts {f : σ → Except ε β × σ} {event : Except ε β → Event ε κ α}
    (none : ∀ answer, (event answer).values = [])
    (fails : ∀ answer, (event answer).failure? = failureOf? (answer.mapError ScanFailure.step)) :
    (call f event).Accounts := by
  rintro ⟨source, state, events⟩
  rcases answered : f state with ⟨answer, state'⟩
  cases answer with
  | error e =>
    rw [play_call_error answered]
    refine ⟨[event (.error e)], rfl, ?_, [], _, rfl, fails _, by simp⟩
    rw [List.flatMap_singleton, none]
    exact .nil
  | ok b =>
    rw [play_call_ok answered]
    refine ⟨[event (.ok b)], rfl, ?_, ?_⟩
    · rw [List.flatMap_singleton, none]
      exact .nil
    · intro other mem
      rw [List.mem_singleton.mp mem]
      exact fails _

theorem accounts_lockstep (threshold : Nat) :
    Lockstep (fun _ (act _ : Act ε σ κ α _) => act.Accounts) threshold threshold where
  pure := .pure
  bind := .bind
  log := log_accounts threshold
  ask := ask_accounts

theorem accounts_inStep (c : Callbacks ε σ α) (name : Nat → κ) :
    InStep (fun _ act _ => act.Accounts) c c name where
  derive _ := call_accounts (fun _ => rfl) derive_fails
  accepts _ := call_accounts (fun _ => rfl) accepts_fails
  stop := rfl

theorem resolve_accounts (c : Callbacks ε σ α) (threshold : Nat) (name : Nat → κ) (mode : Mode) :
    (resolve c threshold name mode).Accounts :=
  (accounts_lockstep threshold).resolve (accounts_inStep c name) mode

theorem resolveMany_accounts (c : Int → Callbacks ε σ α) (threshold : Nat) (mode : Mode)
    (branches : List Int) (results : List (Int × Tally α)) :
    (resolveMany c threshold mode branches results).Accounts :=
  (accounts_lockstep threshold).resolveMany (fun branch => accounts_inStep (c branch) _) mode
    branches results

/-- What is seen of an act that accounts for what it does: the draws are what was taken from the
source, and a failure is that of the last event. -/
theorem Accounts.observe {act : Act ε σ κ α β} (accounts : act.Accounts) (source : Source)
    (state : σ) :
    source.Yields ((act.observe source state).events.flatMap Event.values)
        (act.observe source state).source ∧
      FailsLast (act.observe source state).events
        (failureOf? (act.observe source state).outcome) := by
  obtain ⟨new, added⟩ := accounts ⟨source, state, []⟩
  have events : (act.observe source state).events = new := added.events_eq
  rw [events]
  exact ⟨added.yields, added.failsLast⟩

/-- An act of which no event failed has an answer. -/
theorem Accounts.answered {act : Act ε σ κ α β} (accounts : act.Accounts) {source : Source}
    {state : σ} (quiet : ∀ event ∈ (act.observe source state).events, event.failure? = none) :
    ∃ b, (act.observe source state).outcome = .ok b := by
  obtain ⟨-, failsLast⟩ := accounts.observe source state
  cases outcome : (act.observe source state).outcome with
  | ok b => exact ⟨b, rfl⟩
  | error f =>
    rw [outcome] at failsLast
    obtain ⟨before, last, events, fails, -⟩ := failsLast
    have fine := quiet last (by simp [events])
    rw [fails] at fine
    cases fine

end Act

end Scan

end IndexScan
