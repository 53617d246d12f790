import IndexScan.Proofs.Scan.Succession

/-!
Scans that fail. The failure that ends a scan is that of its last event, and the first that happened
(`StopsAt`). A pass that fails completed some rounds, of which each has its record, and of the round
under way it shows what came before the failing call and that call, and no record (`CutShort`). Up
to there the scan does what it would have done without the failure: a scan on a source and with
callbacks that go on where these fail (`Source.Mends`, `Callbacks.Mends`) begins with the same
events (`Act.Mended.observe`). `observe_stops` says so of passes and of scans of branches, where
passes that were finished earlier keep all that they logged.
-/

namespace IndexScan

/-! ### Sources and callbacks that go on where others fail -/

/-- The source gives every row of words that the source `a` gives. -/
def Source.Mends (a' a : Source) : Prop :=
  ∀ (words : List Nat) (b : Source), (∀ word ∈ words, word < 2 ^ 32) →
    a.Yields (words.map fun (word : Nat) => (word : Int)) b →
      ∃ b', a'.Yields (words.map fun (word : Nat) => (word : Int)) b'

/-- The callbacks answer what the callbacks `c` answer, wherever these do not fail. -/
structure Callbacks.Mends {ε σ α : Type} (c' c : Callbacks ε σ α) : Prop where
  derive {index : Nat} {state state' : σ} {artifact : α} :
    c.derive index state = (.ok artifact, state') → c'.derive index state = (.ok artifact, state')
  accepts {artifact : α} {state state' : σ} {isHit : Bool} :
    c.accepts artifact state = (.ok isHit, state') → c'.accepts artifact state = (.ok isHit, state')
  stop : c'.stopOnFirst = c.stopOnFirst

theorem Source.Mends.drawWord {a a' b : Source} {word : Nat} (mends : a'.Mends a)
    (drawn : a.drawWord = (.ok word, b)) : ∃ b', a'.drawWord = (.ok word, b') ∧ b'.Mends b := by
  obtain ⟨small, draw⟩ := draw?_of_drawWord_ok drawn
  obtain ⟨b', yields⟩ := mends [word] b (by simpa using small) (.single draw)
  cases yields with
  | @cons _ t _ _ _ draw' rest =>
    refine ⟨t, ?_, ?_⟩
    · rcases drawWord_cases a' with ⟨n, u, -, given, eq⟩ | ⟨v, u, outside, given, -⟩ | ⟨given, -⟩
      · rw [draw'] at given
        cases given
        exact eq
      · rw [draw'] at given
        cases given
        dsimp only at outside
        omega
      · rw [draw'] at given
        cases given
    · intro words c small' later
      have both : ∀ w ∈ word :: words, w < 2 ^ 32 := List.forall_mem_cons.mpr ⟨small, small'⟩
      obtain ⟨c', all⟩ := mends (word :: words) c both (.cons draw later)
      cases all with
      | cons given all =>
        rw [draw'] at given
        cases given
        exact ⟨c', all⟩

/-- A sequence takes the same step on a source that goes on where another fails. -/
theorem Sequence.next_mended {s t : Sequence} {a a' b : Source} {step : Step} (mends : a'.Mends a)
    (next : s.next a = (step, t, b)) (fine : step.failure? = none) :
    ∃ b', s.next a' = (step, t, b') ∧ b'.Mends b := by
  rcases next_cases s a with ⟨done, eq⟩ | ⟨left, ordered, eq⟩ | ⟨left, random, word, u, drawn, eq⟩ |
    ⟨-, -, e, u, -, eq⟩
  · rw [eq] at next
    cases next
    -- Where the sequence stands does not depend on the source, so only one case remains.
    rcases next_cases s a' with ⟨-, eq'⟩ | ⟨left, -⟩ | ⟨left, -⟩ | ⟨left, -⟩
    · exact ⟨a', eq', mends⟩
    all_goals omega
  · rw [eq] at next
    cases next
    rcases next_cases s a' with ⟨done, -⟩ | ⟨_, -, eq'⟩ | ⟨-, random, -⟩ | ⟨-, random, -⟩
    · omega
    · exact ⟨a', eq', mends⟩
    all_goals simp [ordered] at random
  · rw [eq] at next
    cases next
    obtain ⟨u', drawn', later⟩ := mends.drawWord drawn
    rcases next_cases s a' with ⟨done, -⟩ | ⟨-, ordered, -⟩ | ⟨_, -, word', v, given, eq'⟩ |
      ⟨-, -, e, v, given, -⟩
    · omega
    · simp [ordered] at random
    · rw [drawn'] at given
      cases given
      exact ⟨u', eq', later⟩
    · rw [drawn'] at given
      cases given
  · rw [eq] at next
    cases next
    cases fine

namespace Scan

variable {ε σ κ α β γ : Type}

/-- The world is as the world `w`, but for a source that goes on where that of `w` fails. -/
structure World.Mends (w' w : World ε σ κ α) : Prop where
  source : w'.source.Mends w.source
  state : w'.state = w.state
  events : w'.events = w.events

namespace Act

/-- Where `act` answers, `act'` answers the same; and where `act` fails, `act'` does all that `act`
did before its last event. -/
structure Mended (act act' : Act ε σ κ α β) : Prop where
  answers {w w' v : World ε σ κ α} {b : β} : w'.Mends w → act.play w = (.ok b, v) →
    ∃ v', act'.play w' = (.ok b, v') ∧ v'.Mends v
  fails {w w' v : World ε σ κ α} {f : ScanFailure ε} : w'.Mends w → act.play w = (.error f, v) →
    v.events.dropLast <+: (act'.play w').2.events
  accounts : act'.Accounts

/-- An act only adds to the events. -/
theorem Accounts.extends {act : Act ε σ κ α β} (accounts : act.Accounts) (w : World ε σ κ α) :
    w.events <+: (act.play w).2.events := by
  obtain ⟨new, added⟩ := accounts w
  exact ⟨new, added.events_eq.symm⟩

theorem Mended.pure (b : β) : Mended (pure b : Act ε σ κ α β) (pure b) where
  answers mends played := by
    cases played
    exact ⟨_, rfl, mends⟩
  fails _ played := by cases played
  accounts := .pure b

theorem Mended.bind {act act' : Act ε σ κ α β} {next next' : β → Act ε σ κ α γ}
    (first : Mended act act') (later : ∀ b, Mended (next b) (next' b)) :
    Mended (act >>= next) (act' >>= next') where
  answers {w w' u d} mends played := by
    rcases done : act.play w with ⟨outcome, v⟩
    cases outcome with
    | error f =>
      rw [play_bind_error done] at played
      cases played
    | ok b =>
      rw [play_bind_ok done] at played
      obtain ⟨v', done', mends'⟩ := first.answers mends done
      rw [play_bind_ok done']
      exact (later b).answers mends' played
  fails {w w' u f} mends played := by
    rcases done : act.play w with ⟨outcome, v⟩
    cases outcome with
    | error f =>
      rw [play_bind_error done] at played
      cases played
      have sofar := first.fails mends done
      rcases done' : act'.play w' with ⟨outcome', v'⟩
      rw [done'] at sofar
      -- The mended act may answer and go on; what follows only adds events.
      cases outcome' with
      | error f' => rwa [play_bind_error done']
      | ok b' =>
        rw [play_bind_ok done']
        exact sofar.trans ((later b').accounts.extends v')
    | ok b =>
      rw [play_bind_ok done] at played
      obtain ⟨v', done', mends'⟩ := first.answers mends done
      rw [play_bind_ok done']
      exact (later b).fails mends' played
  accounts := first.accounts.bind fun b => (later b).accounts

theorem log_mended (threshold : Nat) (record : LogRecord) :
    Mended (log threshold record : Act ε σ κ α Unit) (log threshold record) where
  answers {w w' v b} mends played := by
    obtain ⟨source, state, events⟩ := w
    obtain ⟨source', state', events'⟩ := w'
    obtain ⟨sources, rfl, rfl⟩ := mends
    rw [play_log] at played ⊢
    cases played
    exact ⟨_, rfl, sources, rfl, rfl⟩
  fails {w w' v f} mends played := by
    obtain ⟨source, state, events⟩ := w
    rw [play_log] at played
    cases played
  accounts := log_accounts threshold record

theorem ask_mended (s : Sequence) : Mended (ask s : Act ε σ κ α _) (ask s) where
  answers {w w' v b} mends played := by
    obtain ⟨source, state, events⟩ := w
    obtain ⟨source', state', events'⟩ := w'
    obtain ⟨sources, rfl, rfl⟩ := mends
    rcases s.next_outcomes source with ⟨-, t, b, next⟩ | ⟨index, t, b, next⟩ | ⟨e, t, b, next⟩
    · obtain ⟨b', next', later⟩ := Sequence.next_mended sources next rfl
      rw [play_ask_ended next] at played
      cases played
      exact ⟨_, play_ask_ended next', later, rfl, rfl⟩
    · obtain ⟨b', next', later⟩ := Sequence.next_mended sources next rfl
      rw [play_ask_emitted next] at played
      cases played
      exact ⟨_, play_ask_emitted next', later, rfl, rfl⟩
    · rw [play_ask_failed next] at played
      cases played
  fails {w w' v f} mends played := by
    obtain ⟨source, state, events⟩ := w
    obtain ⟨source', state', events'⟩ := w'
    obtain ⟨-, rfl, rfl⟩ := mends
    rcases s.next_outcomes source with ⟨-, t, b, next⟩ | ⟨index, t, b, next⟩ | ⟨e, t, b, next⟩
    · rw [play_ask_ended next] at played
      cases played
    · rw [play_ask_emitted next] at played
      cases played
    · rw [play_ask_failed next] at played
      cases played
      rw [List.dropLast_concat]
      exact (ask_accounts s).extends _
  accounts := ask_accounts s

theorem call_mended {f f' : σ → Except ε β × σ} {event : Except ε β → Event ε κ α}
    (mends : ∀ {state state' b}, f state = (.ok b, state') → f' state = (.ok b, state'))
    (accounts : (call f' event).Accounts) : Mended (call f event) (call f' event) where
  answers {w w' v b} worlds played := by
    obtain ⟨source, state, events⟩ := w
    obtain ⟨source', state', events'⟩ := w'
    obtain ⟨sources, rfl, rfl⟩ := worlds
    rcases answered : f state' with ⟨answer, after⟩
    cases answer with
    | error e =>
      rw [play_call_error answered] at played
      cases played
    | ok b =>
      rw [play_call_ok answered] at played
      cases played
      exact ⟨_, play_call_ok (mends answered), sources, rfl, rfl⟩
  fails {w w' v g} worlds played := by
    obtain ⟨source, state, events⟩ := w
    obtain ⟨source', state', events'⟩ := w'
    obtain ⟨-, rfl, rfl⟩ := worlds
    rcases answered : f state' with ⟨answer, after⟩
    cases answer with
    | error e =>
      rw [play_call_error answered] at played
      cases played
      rw [List.dropLast_concat]
      exact accounts.extends _
    | ok b =>
      rw [play_call_ok answered] at played
      cases played
  accounts := accounts

theorem mended_lockstep (threshold : Nat) :
    Lockstep (fun _ (act act' : Act ε σ κ α _) => Mended act act') threshold threshold where
  pure := .pure
  bind := .bind
  log := log_mended threshold
  ask := ask_mended

theorem mended_inStep {c c' : Callbacks ε σ α} (mends : c'.Mends c) (name : Nat → κ) :
    InStep (fun _ act act' => Mended act act') c c' name where
  derive index := call_mended mends.derive ((accounts_inStep c' name).derive index)
  accepts artifact := call_mended mends.accepts ((accounts_inStep c' name).accepts artifact)
  stop := mends.stop

/-- What an act does up to its failure is what a mended one begins with. -/
theorem Mended.observe {act act' : Act ε σ κ α β} (mended : Mended act act')
    {source source' : Source} (mends : source'.Mends source) {state : σ} {f : ScanFailure ε}
    (fails : (act.observe source state).outcome = .error f) :
    (act.observe source state).events.dropLast <+: (act'.observe source' state).events := by
  have worlds : (⟨source', state, []⟩ : World ε σ κ α).Mends ⟨source, state, []⟩ :=
    ⟨mends, rfl, rfl⟩
  exact mended.fails worlds (Prod.ext fails rfl)

end Act

/-! ### Where scans stop -/

/-- What is seen of a scan that stops where the failure `f` happens: it answers `f`, which is the
failure of its last event, nothing failed before that, and what it drew is all that was taken from
the source. -/
structure StopsAt (source : Source) (f : ScanFailure ε) (run : Observed ε σ κ α β) : Prop where
  outcome : run.outcome = .error f
  last : FailsLast run.events (some f)
  yields : source.Yields (run.events.flatMap Event.values) run.source

/-- What is seen of a pass that completed some rounds and in the next came to a call that fails: the
rounds with the records that tell of them, the calls of the last round up to the failing one, and no
summary. -/
structure CutShort (threshold : Nat) (mode : Mode) (rounds : List (Probe α)) (cut : Ending ε α)
    (f : ScanFailure ε) (run : Observed ε σ Nat α (Tally α)) : Prop where
  failure : cut.failure? = some f
  events : run.events = rounds.flatMap (roundEvents threshold id mode) ++ cut.events id mode
  log : run.log = LogRecord.atLeast threshold (rounds.map (probeRecord mode))

theorem stopsAt_of_mem {act : Act ε σ κ α β} (accounts : act.Accounts) {source : Source} {state : σ}
    {f : ScanFailure ε}
    (failing : ∃ event ∈ (act.observe source state).events, event.failure? = some f) :
    StopsAt source f (act.observe source state) := by
  obtain ⟨event, mem, fails⟩ := failing
  obtain ⟨yields, failsLast⟩ := accounts.observe source state
  cases outcome : (act.observe source state).outcome with
  | ok b =>
    rw [outcome] at failsLast
    have fine := failsLast event mem
    rw [fails] at fine
    cases fine
  | error g =>
    rw [outcome] at failsLast
    obtain ⟨before, last, events, lastly, fine⟩ := failsLast
    have same : g = f := by
      rw [events] at mem
      rcases List.mem_append.mp mem with early | mem
      · rw [fine event early] at fails
        cases fails
      · rw [List.mem_singleton.mp mem, lastly] at fails
        exact Option.some.inj fails
    subst same
    exact ⟨outcome, ⟨before, last, events, lastly, fine⟩, yields⟩

theorem exists_cutShort {c : Callbacks ε σ α} {threshold : Nat} {mode : Mode} {source : Source}
    {state : σ} {f : ScanFailure ε}
    (fails : (observe c threshold mode source state).outcome = .error f) :
    ∃ rounds cut, CutShort threshold mode rounds cut f (observe c threshold mode source state) := by
  obtain ⟨rounds, ending, q, course⟩ := exists_course c ⟨.start mode, source, state⟩
  rw [observe_of_course threshold course] at fails ⊢
  cases failed : ending.failure? with
  | none =>
    dsimp only at fails
    rw [Ending.outcome_of_fine failed] at fails
    cases fails
  | some g =>
    dsimp only at fails
    rw [Ending.outcome_of_failed failed] at fails
    obtain rfl : g = f := Except.error.inj fails
    refine ⟨rounds, ending, failed, passEvents_of_failed failed, ?_⟩
    rw [Observed.log, passEvents_of_failed failed, List.filterMap_append, records_rounds,
      records_cut, List.append_nil]

/-- A scan stops exactly where a call fails. If a draw, a call to derive or a call to test fails in
a pass, the pass answers that failure, and nothing happens behind it; before it the pass completed
rounds, each of a word drawn, its artifact and its verdict, and logged the record of each. The scan
of branches that it belongs to stops there too; its earlier passes have done all that they do
without a failure, their summaries included. And up to the failing call everything is as it is where
that call does not fail. -/
theorem observe_stops (c : Int → Callbacks ε σ α) (threshold : Nat) (mode : Mode) (source : Source)
    (state : σ) (f : ScanFailure ε) :
    (∀ branch,
      let run := observe (c branch) threshold mode source state
      (∃ event ∈ run.events, event.failure? = some f) →
        StopsAt source f run ∧ (∃ rounds cut, CutShort threshold mode rounds cut f run) ∧
        ∀ c' source', c'.Mends (c branch) → source'.Mends source →
          run.events.dropLast <+: (observe c' threshold mode source' state).events) ∧
    ∀ branches,
      let run := observeBranches c threshold mode branches source state
      (∃ event ∈ run.events, event.failure? = some f) →
        StopsAt source f run ∧
        (∃ earlier last rest source₁ state₁,
          branches = earlier.map (·.branch) ++ last.branch :: rest ∧
          Succession c threshold mode source state (earlier.map (·.branch)) earlier none source₁
            state₁ ∧
          (∀ pass ∈ earlier, ∃ rounds, Shows threshold mode rounds pass.run) ∧
          last.run = observe (c last.branch) threshold mode source₁ state₁ ∧
          (∃ rounds cut, CutShort threshold mode rounds cut f last.run) ∧
          run.events = (earlier ++ [last]).flatMap (Pass.events threshold mode) ∧
          run.log = (earlier ++ [last]).flatMap (Pass.log threshold mode)) ∧
        ∀ c' source', (∀ branch, (c' branch).Mends (c branch)) → source'.Mends source →
          run.events.dropLast <+:
            (observeBranches c' threshold mode branches source' state).events := by
  constructor
  · intro branch run failing
    have stops : StopsAt source f run := stopsAt_of_mem (Act.resolve_accounts _ _ _ _) failing
    refine ⟨stops, exists_cutShort stops.outcome, ?_⟩
    intro c' source' mends sources
    have mended := (Act.mended_lockstep threshold).resolve (Act.mended_inStep mends id) mode
    exact mended.observe sources stops.outcome
  · intro branches run failing
    have stops : StopsAt source f run := stopsAt_of_mem (Act.resolveMany_accounts _ _ _ _ _) failing
    refine ⟨stops, ?_, ?_⟩
    · obtain ⟨passes, failure?, source', state', succession⟩ :=
        exists_succession c threshold mode source state branches
      have run_eq : run = _ := observeBranches_of_succession succession
      have failed : failure? = some f := by
        have outcome := stops.outcome
        rw [run_eq] at outcome
        cases failure? with
        | none => cases outcome
        | some g => exact congrArg some (Except.error.inj outcome)
      obtain ⟨earlier, last, rest, source₁, state₁, split, named, before, own, fails⟩ :=
        succession.cut failed
      refine ⟨earlier, last, rest, source₁, state₁, named, before, (before.shows rfl).2, own, ?_,
        ?_, ?_⟩
      · rw [own] at fails ⊢
        exact exists_cutShort fails
      · rw [run_eq, split]
      · rw [Observed.log, run_eq, records_passes, split]
    · intro c' source' mends sources
      have mended := (Act.mended_lockstep threshold).resolveMany
        (fun branch => Act.mended_inStep (mends branch) _) mode branches []
      exact mended.observe sources stops.outcome

/-- Callbacks that add the branch to the index and accept even sums; they fail at one index, if one
is given. -/
def failingAt (bad? : Option Nat) (branch : Int) : Callbacks String Unit Int where
  derive index _ := (if bad? = some index then .error "no key" else .ok (branch + index), ())
  accepts sum _ := (.ok (sum % 2 == 0), ())
  stopOnFirst := false

theorem failingAt_mends (bad? : Option Nat) (branch : Int) :
    (failingAt none branch).Mends (failingAt bad? branch) where
  derive {index _ _ _} answers := by
    by_cases bad : bad? = some index
    · simp [failingAt, bad] at answers
    · simpa [failingAt, bad] using answers
  accepts answers := answers
  stop := rfl

/-- A scan of two branches that comes to the index 7 in its second pass. -/
def brokenScan (bad? : Option Nat) :
    Observed String Unit (Int × Nat) Int (List (Int × Tally Int)) :=
  observeBranches (failingAt bad?) Level.info.weight (.random ⟨3, by decide⟩) [5, 3]
    (.scripted [2, 4, 6, 1, 7, 9] 0) ()

/-- It stops behind the fifth word, logs the summary of its first pass only, and does nothing that
the scan which does not fail at 7 would not do. -/
theorem observe_stops_at_seven :
    (brokenScan (some 7)).outcome = .error (.step "no key") ∧
      (brokenScan (some 7)).log.length = 1 ∧ (brokenScan (some 7)).source = .scripted [9] 5 ∧
      (brokenScan (some 7)).events.dropLast <+: (brokenScan none).events := by
  have failures : (brokenScan (some 7)).events.filterMap Event.failure? = [.step "no key"] := by
    decide +kernel
  have taken : (brokenScan (some 7)).events.flatMap Event.values = [2, 4, 6, 1, 7] := by
    decide +kernel
  have logged : (brokenScan (some 7)).log.length = 1 := by decide +kernel
  obtain ⟨-, stops⟩ := observe_stops (failingAt (some 7)) Level.info.weight
    (.random ⟨3, by decide⟩) (.scripted [2, 4, 6, 1, 7, 9] 0) () (.step "no key")
  obtain ⟨at_seven, -, begins⟩ := stops [5, 3]
    (List.mem_filterMap.mp (failures.symm ▸ List.mem_singleton_self _))
  have at_seven : StopsAt _ _ (brokenScan (some 7)) := at_seven
  have yields := at_seven.yields
  rw [taken] at yields
  refine ⟨at_seven.outcome, logged, yields.of_scripted.2, ?_⟩
  exact begins (failingAt none) _ (failingAt_mends _) fun words b _ yields => ⟨b, yields⟩

end Scan

end IndexScan
