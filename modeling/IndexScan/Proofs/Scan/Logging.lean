import IndexScan.Proofs.Scan.Succession

/-!
What scans log. At any level a scan does what it does when every record is let through, and of its
records the level holds back those below it (`observe_atLevel`, `observeBranches_atLevel`); the
steps of the two scans are compared one by one (`Act.Quiets`). What a completed pass logs when every
record is let through tells of its probes one by one and sums up its result, and a scan of branches
names each branch before what its pass logs (`observe_logs`).
-/

namespace IndexScan.Scan

variable {ε σ κ α β γ : Type}

/-! ### Holding records back -/

/-- Whether the level with the number `threshold` lets an event be seen; all but records can be. -/
def Event.isSeen (threshold : Nat) : Event ε κ α → Bool
  | logged record => threshold ≤ record.level.weight
  | _ => true

/-- The world with the records below a level taken out. -/
def World.atLevel (threshold : Nat) (w : World ε σ κ α) : World ε σ κ α :=
  { w with events := w.events.filter (Event.isSeen threshold) }

/-- What is seen of a scan at a higher level. -/
def Observed.atLevel (threshold : Nat) (run : Observed ε σ κ α β) : Observed ε σ κ α β :=
  { run with events := run.events.filter (Event.isSeen threshold) }

theorem seen_of_logged (threshold : Nat) (record : LogRecord) :
    (logged Level.debug.weight record : List (Event ε κ α)).filter (Event.isSeen threshold) =
      logged threshold record := by
  have lowest : Level.debug.weight ≤ record.level.weight := by
    cases record.level <;> decide
  rw [logged, if_pos lowest, logged]
  by_cases through : threshold ≤ record.level.weight
  · simp [Event.isSeen, through]
  · simp [Event.isSeen, through]

namespace Act

/-- `act` does what `loud` does, and shows the records that a level lets through. -/
def Quiets (threshold : Nat) (act loud : Act ε σ κ α β) : Prop :=
  ∀ w, act.play (w.atLevel threshold) = ((loud.play w).1, (loud.play w).2.atLevel threshold)

variable {threshold : Nat}

theorem Quiets.bind {act loud : Act ε σ κ α β} {next louder : β → Act ε σ κ α γ}
    (first : Quiets threshold act loud) (later : ∀ b, Quiets threshold (next b) (louder b)) :
    Quiets threshold (act >>= next) (loud >>= louder) := by
  intro w
  have quiet := first w
  rcases done : loud.play w with ⟨outcome, v⟩
  rw [done] at quiet
  cases outcome with
  | error f => rw [play_bind_error done, play_bind_error quiet]
  | ok b =>
    rw [play_bind_ok done, play_bind_ok quiet]
    exact later b v

theorem log_quiets (threshold : Nat) (record : LogRecord) :
    Quiets threshold (log threshold record : Act ε σ κ α Unit) (log Level.debug.weight record) := by
  rintro ⟨source, state, events⟩
  rw [World.atLevel, play_log, play_log, World.atLevel, List.filter_append, seen_of_logged]

theorem ask_quiets (s : Sequence) : Quiets threshold (ask s : Act ε σ κ α _) (ask s) := by
  rintro ⟨source, state, events⟩
  rcases s.next_outcomes source with ⟨-, t, b, next⟩ | ⟨index, t, b, next⟩ | ⟨e, t, b, next⟩
  · rw [World.atLevel, play_ask_ended next, play_ask_ended next]
    rfl
  · have seen : (drawn s.mode index : List (Event ε κ α)).filter (Event.isSeen threshold) =
        drawn s.mode index := by
      unfold drawn
      split_ifs <;> rfl
    rw [World.atLevel, play_ask_emitted next, play_ask_emitted next, World.atLevel,
      List.filter_append, seen]
  · rw [World.atLevel, play_ask_failed next, play_ask_failed next, World.atLevel,
      List.filter_append]
    rfl

theorem call_quiets {f : σ → Except ε β × σ} {event : Except ε β → Event ε κ α}
    (seen : ∀ answer, (event answer).isSeen threshold = true) :
    Quiets threshold (call f event) (call f event) := by
  rintro ⟨source, state, events⟩
  have kept : ∀ answer, [event answer].filter (Event.isSeen threshold) = [event answer] := by
    intro answer
    rw [List.filter_cons_of_pos (seen answer), List.filter_nil]
  rcases answered : f state with ⟨answer, state'⟩
  cases answer with
  | error e =>
    rw [World.atLevel, play_call_error answered, play_call_error answered, World.atLevel,
      List.filter_append, kept]
  | ok b =>
    rw [World.atLevel, play_call_ok answered, play_call_ok answered, World.atLevel,
      List.filter_append, kept]

theorem quiets_lockstep (threshold : Nat) :
    Lockstep (fun _ (act loud : Act ε σ κ α _) => Quiets threshold act loud) threshold
      Level.debug.weight where
  pure _ _ := rfl
  bind := .bind
  log := log_quiets threshold
  ask := ask_quiets

theorem quiets_inStep (c : Callbacks ε σ α) (name : Nat → κ) :
    InStep (fun _ act loud => Quiets threshold act loud) c c name where
  derive _ := call_quiets fun _ => rfl
  accepts _ := call_quiets fun _ => rfl
  stop := rfl

theorem Quiets.observe {act loud : Act ε σ κ α β} (quiets : Quiets threshold act loud)
    (source : Source) (state : σ) :
    act.observe source state = (loud.observe source state).atLevel threshold := by
  have played := quiets ⟨source, state, []⟩
  unfold Act.observe
  rw [World.atLevel, List.filter_nil] at played
  rw [played]
  rfl

end Act

theorem observe_atLevel (c : Callbacks ε σ α) (threshold : Nat) (mode : Mode) (source : Source)
    (state : σ) :
    observe c threshold mode source state =
      (observe c Level.debug.weight mode source state).atLevel threshold :=
  ((Act.quiets_lockstep threshold).resolve (Act.quiets_inStep c id) mode).observe source state

theorem observeBranches_atLevel (c : Int → Callbacks ε σ α) (threshold : Nat) (mode : Mode)
    (branches : List Int) (source : Source) (state : σ) :
    observeBranches c threshold mode branches source state =
      (observeBranches c Level.debug.weight mode branches source state).atLevel threshold :=
  ((Act.quiets_lockstep threshold).resolveMany (fun branch => Act.quiets_inStep (c branch) _) mode
    branches []).observe source state

/-! ### What is logged -/

/-- The same scan is seen twice, once with every record and once at a level: what it answers, the
calls that it makes and what it leaves behind are the same, and the level lets through the records
at or above it. -/
structure SameAtLevel (threshold : Nat) (loud run : Observed ε σ κ α β) : Prop where
  outcome : run.outcome = loud.outcome
  derived : run.derived = loud.derived
  tested : run.tested = loud.tested
  draws : run.draws = loud.draws
  source : run.source = loud.source
  state : run.state = loud.state
  log : run.log = LogRecord.atLeast threshold loud.log

/-- A view that shows no records does not tell at which level it sees a scan. -/
theorem filterMap_seen {view : Event ε κ α → Option β}
    (blind : ∀ record, view (.logged record) = none) (threshold : Nat)
    (events : List (Event ε κ α)) :
    (events.filter (Event.isSeen threshold)).filterMap view = events.filterMap view := by
  rw [List.filterMap_filter]
  congr 1
  funext event
  cases event with
  | logged record => rw [blind, ite_self]
  | drew answer => rfl
  | derived call answer => rfl
  | tested artifact answer => rfl

theorem records_seen (threshold : Nat) (events : List (Event ε κ α)) :
    (events.filter (Event.isSeen threshold)).filterMap Event.record? =
      LogRecord.atLeast threshold (events.filterMap Event.record?) := by
  rw [List.filterMap_filter, LogRecord.atLeast, List.filter_filterMap]
  congr 1
  funext event
  cases event with
  | logged record =>
    by_cases through : threshold ≤ record.level.weight
    · simp [Event.isSeen, Event.record?, Option.filter, through]
    · simp [Event.isSeen, Event.record?, Option.filter, through]
  | drew answer => rfl
  | derived call answer => rfl
  | tested artifact answer => rfl

theorem sameAtLevel (threshold : Nat) (loud : Observed ε σ κ α β) :
    SameAtLevel threshold loud (loud.atLevel threshold) where
  outcome := rfl
  derived := filterMap_seen (fun _ => rfl) threshold loud.events
  tested := filterMap_seen (fun _ => rfl) threshold loud.events
  draws := filterMap_seen (fun _ => rfl) threshold loud.events
  source := rfl
  state := rfl
  log := records_seen threshold loud.events

/-- The log tells of a scan and does not touch it. At every level a pass, and a scan of branches,
answers, calls and draws what it does when every record is let through, and the level lets the
records through that are at or above it. With every record let through, a pass with an answer logs
one debug record for each index that it derived, in order, with the text of the mode and the index and
with `match` if it became a hit and `no match` if it did not, and then the summary with the numbers of
its result; and a scan of branches logs for each branch that it comes to, before the records of its
pass, one that names the branch and the mode. -/
theorem observe_logs (c : Int → Callbacks ε σ α) (mode : Mode) (source : Source) (state : σ) :
    (∀ threshold branch,
      SameAtLevel threshold (observe (c branch) Level.debug.weight mode source state)
        (observe (c branch) threshold mode source state)) ∧
    (∀ threshold branches,
      SameAtLevel threshold (observeBranches c Level.debug.weight mode branches source state)
        (observeBranches c threshold mode branches source state)) ∧
    (∀ branch tally,
      let run := observe (c branch) Level.debug.weight mode source state
      run.outcome = .ok tally →
        ∃ rounds, Answers (c branch) state rounds run.state ∧
          run.derived = rounds.map (·.index) ∧ tally.hits = hitsOf rounds ∧
          tally.probed = rounds.length ∧ tally.mode = mode ∧
          run.log =
            rounds.map (fun made => ⟨.debug, .resolver, "[" ++ mode.directive ++ "] index " ++
              Decimal.text made.index ++ ": " ++ if made.isHit then "match" else "no match"⟩) ++
            [⟨.info, .resolver, "Resolver mode " ++ mode.directive ++ " probed " ++
              Decimal.text tally.probed ++ " of " ++ Decimal.text mode.count ++ " indices, " ++
              Decimal.text tally.hits.length ++ " hit(s)"⟩]) ∧
    ∀ branches,
      let run := observeBranches c Level.debug.weight mode branches source state
      ∃ passes failure? source' state',
        Succession c Level.debug.weight mode source state branches passes failure? source' state' ∧
        (failure? = none → passes.map (·.branch) = branches) ∧
        run.log = passes.flatMap fun pass =>
          ⟨.debug, .resolver, "Scanning branch " ++ Decimal.text pass.branch ++ " with mode " ++
            mode.directive⟩ :: pass.run.log := by
  refine ⟨?_, ?_, ?_, ?_⟩
  · intro threshold branch
    rw [observe_atLevel (c branch) threshold]
    exact sameAtLevel threshold _
  · intro threshold branches
    rw [observeBranches_atLevel c threshold]
    exact sameAtLevel threshold _
  · intro branch tally run answers
    obtain ⟨rounds, ending, q, course, fine⟩ := course_of_answer answers
    have shows : Shows Level.debug.weight mode rounds run := course.shows fine
    have same : tally = .ofRounds mode rounds :=
      Except.ok.inj (answers.symm.trans shows.outcome)
    subst same
    refine ⟨rounds, ?_, shows.derived, rfl, rfl, rfl, ?_⟩
    · have state_eq : run.state = q.state := (course.left _).2
      rw [state_eq]
      exact course.answers fine
    · rw [shows.log, atLeast_debug]
      rfl
  · intro branches run
    obtain ⟨passes, failure?, source', state', succession⟩ :=
      exists_succession c Level.debug.weight mode source state branches
    refine ⟨passes, failure?, source', state', succession, ?_, ?_⟩
    · intro fine
      exact (succession.shows fine).1
    · have run_eq : run = _ := observeBranches_of_succession succession
      have behind : Pass.log Level.debug.weight mode =
          fun (pass : Pass ε σ α) => branchRecord mode pass.branch :: pass.run.log := rfl
      rw [Observed.log, run_eq, records_passes, behind]
      rfl

/-- Callbacks that add the branch to the index and stop at the first odd sum. -/
def untilOdd (branch : Int) : Callbacks Empty Unit Int where
  derive index _ := (.ok (branch + index), ())
  accepts sum _ := (.ok (sum % 2 == 1), ())
  stopOnFirst := true

/-- They decide on each index in one way only. -/
theorem Answers.untilOdd {branch : Int} {rounds : List (Probe Int)} {state state' : Unit}
    (answers : Answers (untilOdd branch) state rounds state') :
    rounds = (rounds.map (·.index)).map fun index =>
      ⟨index, branch + index, (branch + index) % 2 == 1⟩ := by
  induction answers with
  | nil => rfl
  | @cons _ _ _ made rounds decides _ ih =>
    obtain ⟨_, derives, accepts⟩ := decides
    obtain ⟨index, artifact, isHit⟩ := made
    have sum : branch + index = artifact := by simpa [Scan.untilOdd] using derives
    have odd : (artifact % 2 == 1) = isHit := by simpa [Scan.untilOdd] using accepts
    rw [List.map_cons, List.map_cons, ← ih, sum, odd]

/-- A pass that stops at the second of six indices. -/
def watchedPass (threshold : Nat) : Observed Empty Unit Nat Int (Tally Int) :=
  observe (untilOdd 2) threshold (.random ⟨6, by decide⟩) (.scripted [4, 5, 6] 0) ()

/-- With every record let through it logs one record for each of the two, and the summary; without
debug records it logs the summary, and derives the same two. -/
theorem observe_logs_two_probes :
    (watchedPass Level.debug.weight).log =
        [⟨.debug, .resolver, "[random6] index 4: no match"⟩,
          ⟨.debug, .resolver, "[random6] index 5: match"⟩,
          ⟨.info, .resolver, "Resolver mode random6 probed 2 of 6 indices, 1 hit(s)"⟩] ∧
      (watchedPass Level.info.weight).log =
        [⟨.info, .resolver, "Resolver mode random6 probed 2 of 6 indices, 1 hit(s)"⟩] ∧
      (watchedPass Level.info.weight).derived = [4, 5] := by
  have answered : (watchedPass Level.debug.weight).outcome =
      .ok ⟨.random ⟨6, by decide⟩, [⟨5, 7⟩], 2⟩ := by decide +kernel
  have derived : (watchedPass Level.debug.weight).derived = [4, 5] := by decide +kernel
  obtain ⟨levels, -, completed, -⟩ := observe_logs untilOdd (.random ⟨6, by decide⟩)
    (.scripted [4, 5, 6] 0) ()
  obtain ⟨rounds, answers, indices, -, -, -, log⟩ := completed 2 _ answered
  change (watchedPass Level.debug.weight).derived = _ at indices
  change (watchedPass Level.debug.weight).log = _ at log
  have two : rounds = [⟨4, 6, false⟩, ⟨5, 7, true⟩] := by
    rw [answers.untilOdd, ← indices, derived]
    rfl
  have loud : (watchedPass Level.debug.weight).log =
      [⟨.debug, .resolver, "[random6] index 4: no match"⟩,
        ⟨.debug, .resolver, "[random6] index 5: match"⟩,
        ⟨.info, .resolver, "Resolver mode random6 probed 2 of 6 indices, 1 hit(s)"⟩] := by
    rw [log, two]
    decide +kernel
  have same : SameAtLevel _ (watchedPass Level.debug.weight) (watchedPass Level.info.weight) :=
    levels Level.info.weight 2
  refine ⟨loud, ?_, same.derived.trans derived⟩
  rw [same.log, loud]
  rfl

end IndexScan.Scan
