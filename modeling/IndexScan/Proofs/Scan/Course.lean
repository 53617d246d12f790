import IndexScan.Proofs.Scan.Acts

/-!
Courses of a pass. A pass goes through rounds, of which each takes an index to an artifact and a
verdict, until its sequence ends, a hit stops it, or a call fails. `Course` says which rounds a pass
completes and how it ends; it knows neither of tallies nor of logs. Every pass has a course
(`exists_course`), and the course decides all that is seen of the pass: the tally is that of its
rounds, and the events are those of one round after the other (`play_probe`, `observe_of_course`).
-/

namespace IndexScan

/-- The hit that a probe is, if it is one. -/
def Probe.hit {α : Type} (made : Probe α) : Hit α :=
  ⟨made.index, made.artifact⟩

/-- The hits among probes. -/
def hitsOf {α : Type} (rounds : List (Probe α)) : List (Hit α) :=
  (rounds.filter (·.isHit)).map Probe.hit

/-- The tally of a pass that completed some rounds. -/
def Tally.ofRounds {α : Type} (mode : Mode) (rounds : List (Probe α)) : Tally α :=
  ⟨mode, hitsOf rounds, rounds.length⟩

/-- The tally after more probes. -/
def Tally.after {α : Type} (t : Tally α) (rounds : List (Probe α)) : Tally α :=
  ⟨t.mode, t.hits ++ hitsOf rounds, t.probed + rounds.length⟩

theorem Tally.after_start {α : Type} (mode : Mode) (rounds : List (Probe α)) :
    (⟨mode, [], 0⟩ : Tally α).after rounds = .ofRounds mode rounds := by
  simp [Tally.after, Tally.ofRounds]

theorem Tally.after_nil {α : Type} (t : Tally α) : t.after [] = t := by
  simp [Tally.after, hitsOf]

theorem Tally.after_cons {α : Type} (t : Tally α) (made : Probe α) (rounds : List (Probe α)) :
    t.after (made :: rounds) = (t.after [made]).after rounds := by
  cases hit : made.isHit <;>
    simp [Tally.after, hitsOf, hit, Nat.add_assoc, Nat.add_comm 1]

namespace Scan

variable {ε σ κ α β γ : Type}

/-! ### Courses -/

/-- How a pass ends: with its sequence, at a hit, or at a call that fails. -/
inductive Ending (ε α : Type) where
  | ended
  | stopped
  | undrawn (error : DrawError)
  | underived (index : Nat) (error : ε)
  | undecided (index : Nat) (artifact : α) (error : ε)

namespace Ending

/-- The failure that ends a pass, if one does. -/
def failure? : Ending ε α → Option (ScanFailure ε)
  | ended | stopped => none
  | undrawn e => some (.draw e)
  | underived _ e => some (.step e)
  | undecided _ _ e => some (.step e)

/-- The outcome of what ends so, had it come to `b`. -/
def outcome (ending : Ending ε α) (b : β) : Except (ScanFailure ε) β :=
  match ending.failure? with
  | none => .ok b
  | some f => .error f

theorem outcome_of_fine {ending : Ending ε α} (fine : ending.failure? = none) (b : β) :
    ending.outcome b = .ok b := by
  rw [outcome, fine]

theorem outcome_of_failed {ending : Ending ε α} {f : ScanFailure ε}
    (failed : ending.failure? = some f) (b : β) : ending.outcome b = .error f := by
  rw [outcome, failed]

/-- The events of a round that a failure cuts short. -/
def events (name : Nat → κ) (mode : Mode) : Ending ε α → List (Event ε κ α)
  | ended | stopped => []
  | undrawn e => [.drew (.error e)]
  | underived index e => drawn mode index ++ [.derived (name index) (.error e)]
  | undecided index artifact e =>
    drawn mode index ++ [.derived (name index) (.ok artifact), .tested artifact (.error e)]

end Ending

/-- The events of a round that is completed. -/
def roundEvents (threshold : Nat) (name : Nat → κ) (mode : Mode) (made : Probe α) :
    List (Event ε κ α) :=
  drawn mode made.index ++
    [.derived (name made.index) (.ok made.artifact), .tested made.artifact (.ok made.isHit)] ++
    logged threshold (probeRecord mode made)

/-- Where a pass stands between two rounds. -/
structure Place (σ : Type) where
  sequence : Sequence
  source : Source
  state : σ

/-- The caller derives the artifact of a probe, and then decides on it. -/
def Decides (c : Callbacks ε σ α) (state : σ) (made : Probe α) (state' : σ) : Prop :=
  ∃ mid, c.derive made.index state = (.ok made.artifact, mid) ∧
    c.accepts made.artifact mid = (.ok made.isHit, state')

/-- The caller decides on one probe after the other. -/
inductive Answers (c : Callbacks ε σ α) : σ → List (Probe α) → σ → Prop where
  | nil {state : σ} : Answers c state [] state
  | cons {state mid state' : σ} {made : Probe α} {rounds : List (Probe α)}
      (decides : Decides c state made mid) (rest : Answers c mid rounds state') :
      Answers c state (made :: rounds) state'

/-- One round: the sequence gives an index, and the caller decides on it. -/
structure Round (c : Callbacks ε σ α) (p : Place σ) (made : Probe α) (q : Place σ) : Prop where
  next : p.sequence.next p.source = (.emitted made.index, q.sequence, q.source)
  decides : Decides c p.state made q.state

/-- The rounds that a pass completes from a place on, how it ends, and where. -/
inductive Course (c : Callbacks ε σ α) :
    Place σ → List (Probe α) → Ending ε α → Place σ → Prop where
  | ended {p : Place σ} (done : p.sequence.remaining = 0) : Course c p [] .ended p
  | undrawn {s t : Sequence} {a b : Source} {state : σ} {e : DrawError}
      (next : s.next a = (.failed e, t, b)) : Course c ⟨s, a, state⟩ [] (.undrawn e) ⟨t, b, state⟩
  | underived {s t : Sequence} {a b : Source} {state state' : σ} {index : Nat} {e : ε}
      (next : s.next a = (.emitted index, t, b))
      (fails : c.derive index state = (.error e, state')) :
      Course c ⟨s, a, state⟩ [] (.underived index e) ⟨t, b, state'⟩
  | undecided {s t : Sequence} {a b : Source} {state mid state' : σ} {index : Nat} {artifact : α}
      {e : ε} (next : s.next a = (.emitted index, t, b))
      (derives : c.derive index state = (.ok artifact, mid))
      (fails : c.accepts artifact mid = (.error e, state')) :
      Course c ⟨s, a, state⟩ [] (.undecided index artifact e) ⟨t, b, state'⟩
  | stopped {p q : Place σ} {made : Probe α} (round : Round c p made q)
      (stops : (made.isHit && c.stopOnFirst) = true) : Course c p [made] .stopped q
  | goesOn {p q r : Place σ} {made : Probe α} {rounds : List (Probe α)} {ending : Ending ε α}
      (round : Round c p made q) (on : (made.isHit && c.stopOnFirst) = false)
      (rest : Course c q rounds ending r) : Course c p (made :: rounds) ending r

variable {c : Callbacks ε σ α} {p q : Place σ} {made : Probe α} {rounds : List (Probe α)}
  {ending : Ending ε α}

/-- Every pass has a course. The induction is on what the sequence still has to give. -/
theorem exists_course (c : Callbacks ε σ α) (p : Place σ) :
    ∃ rounds ending q, Course c p rounds ending q := by
  induction left : p.sequence.remaining generalizing p with
  | zero => exact ⟨[], .ended, p, .ended left⟩
  | succ n ih =>
    obtain ⟨s, a, state⟩ := p
    rcases Sequence.next_outcomes s a with ⟨done, -⟩ | ⟨index, t, b, next⟩ | ⟨e, t, b, next⟩
    · rw [done] at left
      cases left
    · rcases derived : c.derive index state with ⟨answer, mid⟩
      cases answer with
      | error e => exact ⟨_, _, _, .underived next derived⟩
      | ok artifact =>
        rcases accepted : c.accepts artifact mid with ⟨answer, state'⟩
        cases answer with
        | error e => exact ⟨_, _, _, .undecided next derived accepted⟩
        | ok isHit =>
          have round : Round c ⟨s, a, state⟩ ⟨index, artifact, isHit⟩ ⟨t, b, state'⟩ :=
            ⟨next, mid, derived, accepted⟩
          cases stops : isHit && c.stopOnFirst with
          | true => exact ⟨_, _, _, .stopped round stops⟩
          | false =>
            obtain ⟨-, fewer, -⟩ := Sequence.emitted_effect next
            obtain ⟨rounds, ending, r, rest⟩ := ih ⟨t, b, state'⟩ (by
              dsimp only at left ⊢
              omega)
            exact ⟨_, _, _, .goesOn round stops rest⟩
    · exact ⟨_, _, _, .undrawn next⟩

/-! ### Courses without a failure -/

/-- The rounds of a pass that no failure ends are what its sequence gives, one after the other. -/
theorem Course.taken (course : Course c p rounds ending q) (fine : ending.failure? = none) :
    p.sequence.take rounds.length p.source =
      (⟨rounds.map (·.index), none⟩, q.sequence, q.source) := by
  induction course with
  | ended => rfl
  | undrawn => cases fine
  | underived => cases fine
  | undecided => cases fine
  | stopped round stops =>
    rw [List.length_singleton, Sequence.take_succ, round.next]
    rfl
  | goesOn round on rest ih =>
    rw [List.length_cons, Sequence.take_succ, round.next]
    dsimp only
    rw [ih fine]
    rfl

/-- The caller decided on every round of a pass that no failure ends, and on nothing else. -/
theorem Course.answers (course : Course c p rounds ending q) (fine : ending.failure? = none) :
    Answers c p.state rounds q.state := by
  induction course with
  | ended => exact .nil
  | undrawn => cases fine
  | underived => cases fine
  | undecided => cases fine
  | stopped round stops => exact .cons round.decides .nil
  | goesOn round on rest ih => exact .cons round.decides (ih fine)

/-- A pass that goes on behind hits, and that no failure ends, goes through its whole sequence. -/
theorem Course.length_of_full (course : Course c p rounds ending q) (fine : ending.failure? = none)
    (full : c.stopOnFirst = false) : rounds.length = p.sequence.remaining := by
  induction course with
  | ended done => exact done.symm
  | undrawn => cases fine
  | underived => cases fine
  | undecided => cases fine
  | stopped round stops =>
    rw [full, Bool.and_false] at stops
    cases stops
  | goesOn round on rest ih =>
    obtain ⟨-, fewer, -⟩ := Sequence.emitted_effect round.next
    rw [List.length_cons, ih fine, fewer]

/-! ### What is seen of a pass -/

section

variable (threshold : Nat) (name : Nat → κ) (tally : Tally α) (events : List (Event ε κ α))

/-- A round of a pass, and what follows it. -/
theorem play_round (round : Round c p made q) :
    (Act.probe c threshold name p.sequence.remaining p.sequence tally).play
        ⟨p.source, p.state, events⟩ =
      (if made.isHit && c.stopOnFirst then return tally.after [made]
        else Act.probe c threshold name q.sequence.remaining q.sequence (tally.after [made])).play
        ⟨q.source, q.state, events ++ roundEvents threshold name p.sequence.mode made⟩ := by
  obtain ⟨state, derives, accepts⟩ := round.decides
  obtain ⟨mode, fewer, -⟩ := Sequence.emitted_effect round.next
  rw [fewer, Act.probe, Act.play_bind_ok (Act.play_ask_emitted round.next)]
  dsimp only
  rw [Act.play_bind_ok (Act.play_call_ok derives), Act.play_bind_ok (Act.play_call_ok accepts),
    Act.play_bind_ok (Act.play_log ..)]
  -- The record names the mode of the sequence behind the step, which is that before it.
  have told : events ++ drawn p.sequence.mode made.index ++
      [.derived (name made.index) (.ok made.artifact)] ++
        [.tested made.artifact (.ok made.isHit)] ++
          logged threshold (probeRecord q.sequence.mode made) =
      events ++ roundEvents threshold name p.sequence.mode made := by
    simp only [roundEvents, mode, List.append_assoc, List.cons_append, List.nil_append]
  rw [told]
  cases hit : made.isHit with
  | false =>
    have missed : tally.after [made] = { tally with probed := tally.probed + 1 } := by
      simp [Tally.after, hitsOf, hit]
    rw [missed]
    rfl
  | true =>
    have counted : tally.after [made] =
        ⟨tally.mode, tally.hits ++ [made.hit], tally.probed + 1⟩ := by
      simp [Tally.after, hitsOf, hit]
    rw [counted]
    cases c.stopOnFirst <;> rfl

/-- The course of a pass decides what it comes to, what it does and what it leaves behind. -/
theorem play_probe (course : Course c p rounds ending q) :
    (Act.probe c threshold name p.sequence.remaining p.sequence tally).play
        ⟨p.source, p.state, events⟩ =
      (ending.outcome (tally.after rounds), ⟨q.source, q.state, events ++
        (rounds.flatMap (roundEvents threshold name p.sequence.mode) ++
          ending.events name p.sequence.mode)⟩) := by
  induction course generalizing tally events with
  | @ended p done =>
    rw [done, Tally.after_nil]
    simp only [List.flatMap_nil, Ending.events, List.append_nil]
    rfl
  | undrawn next =>
    obtain ⟨-, ⟨r, more⟩, -⟩ := Sequence.failed_effect next
    dsimp only
    rw [more, Act.probe, Act.play_bind_error (Act.play_ask_failed next)]
    rfl
  | underived next fails =>
    obtain ⟨-, more, -⟩ := Sequence.emitted_effect next
    dsimp only
    rw [more, Act.probe, Act.play_bind_ok (Act.play_ask_emitted next)]
    dsimp only
    rw [Act.play_bind_error (Act.play_call_error fails), List.append_assoc]
    rfl
  | undecided next derives fails =>
    obtain ⟨-, more, -⟩ := Sequence.emitted_effect next
    dsimp only
    rw [more, Act.probe, Act.play_bind_ok (Act.play_ask_emitted next)]
    dsimp only
    rw [Act.play_bind_ok (Act.play_call_ok derives),
      Act.play_bind_error (Act.play_call_error fails), List.append_assoc, List.append_assoc]
    rfl
  | stopped round stops =>
    rw [play_round threshold name tally events round, if_pos stops]
    simp only [List.flatMap_cons, List.flatMap_nil, Ending.events, List.append_nil]
    rfl
  | goesOn round on rest ih =>
    obtain ⟨mode, -, -⟩ := Sequence.emitted_effect round.next
    rw [play_round threshold name tally events round, if_neg (Bool.not_eq_true _ ▸ on), ih, mode,
      ← Tally.after_cons, List.append_assoc, List.flatMap_cons, List.append_assoc]

end

/-- The summary that a pass logs, unless a failure ends it. -/
def Ending.summary (threshold : Nat) (tally : Tally α) (ending : Ending ε α) :
    List (Event ε κ α) :=
  match ending.failure? with
  | none => logged threshold tally.record
  | some _ => []

/-- The events of a pass. -/
def passEvents (threshold : Nat) (name : Nat → κ) (mode : Mode) (rounds : List (Probe α))
    (ending : Ending ε α) : List (Event ε κ α) :=
  rounds.flatMap (roundEvents threshold name mode) ++ ending.events name mode ++
    ending.summary threshold (.ofRounds mode rounds)

theorem passEvents_of_fine {threshold : Nat} {name : Nat → κ} {mode : Mode}
    (fine : ending.failure? = none) :
    (passEvents threshold name mode rounds ending : List (Event ε κ α)) =
      rounds.flatMap (roundEvents threshold name mode) ++
        logged threshold (Tally.ofRounds mode rounds).record := by
  rw [passEvents, Ending.summary, fine]
  cases ending with
  | ended => rw [Ending.events, List.append_nil]
  | stopped => rw [Ending.events, List.append_nil]
  | undrawn => cases fine
  | underived => cases fine
  | undecided => cases fine

theorem passEvents_of_failed {threshold : Nat} {name : Nat → κ} {mode : Mode} {f : ScanFailure ε}
    (failed : ending.failure? = some f) :
    (passEvents threshold name mode rounds ending : List (Event ε κ α)) =
      rounds.flatMap (roundEvents threshold name mode) ++ ending.events name mode := by
  rw [passEvents, Ending.summary, failed, List.append_nil]

section

variable {mode : Mode} {source : Source} {state : σ}

theorem play_resolve (threshold : Nat) (name : Nat → κ) (events : List (Event ε κ α))
    (course : Course c ⟨.start mode, source, state⟩ rounds ending q) :
    (Act.resolve c threshold name mode).play ⟨source, state, events⟩ =
      (ending.outcome (.ofRounds mode rounds),
        ⟨q.source, q.state, events ++ passEvents threshold name mode rounds ending⟩) := by
  have probed := play_probe threshold name (⟨mode, [], 0⟩ : Tally α) events course
  rw [Tally.after_start] at probed
  unfold Act.resolve passEvents Ending.summary
  cases failed : ending.failure? with
  | some f =>
    rw [Ending.outcome_of_failed failed] at probed ⊢
    rw [Act.play_bind_error probed, List.append_nil]
    rfl
  | none =>
    rw [Ending.outcome_of_fine failed] at probed ⊢
    rw [Act.play_bind_ok probed, Act.play_bind_ok (Act.play_log ..), List.append_assoc]
    rfl

/-- What is seen of a pass is what its course says. -/
theorem observe_of_course (threshold : Nat)
    (course : Course c ⟨.start mode, source, state⟩ rounds ending q) :
    observe c threshold mode source state =
      ⟨ending.outcome (.ofRounds mode rounds), passEvents threshold id mode rounds ending, q.source,
        q.state⟩ := by
  unfold observe Act.observe
  rw [play_resolve threshold id [] course, List.nil_append]

/-- A pass leaves the source and the state where its course ends. -/
theorem Course.left (course : Course c ⟨.start mode, source, state⟩ rounds ending q)
    (threshold : Nat) :
    (observe c threshold mode source state).source = q.source ∧
      (observe c threshold mode source state).state = q.state := by
  rw [observe_of_course threshold course]
  exact ⟨rfl, rfl⟩

end

/-! ### Views of a pass -/

section

variable (threshold : Nat) (name : Nat → κ) (mode : Mode) (rounds : List (Probe α))
  {ending : Ending ε α}

theorem records_logged (record : LogRecord) :
    (logged threshold record : List (Event ε κ α)).filterMap Event.record? =
      LogRecord.atLeast threshold [record] := by
  unfold logged LogRecord.atLeast
  split_ifs with through
  · simp [through, Event.record?]
  · simp [through]

/-- A view that shows no records shows nothing of a record. -/
theorem filterMap_logged {view : Event ε κ α → Option β}
    (blind : ∀ record, view (.logged record) = none) {threshold : Nat} {record : LogRecord} :
    (logged threshold record).filterMap view = [] := by
  unfold logged
  split_ifs
  · rw [List.filterMap_cons_none (blind _), List.filterMap_nil]
  · rfl

theorem calls_rounds :
    (rounds.flatMap (roundEvents threshold name mode) : List (Event ε κ α)).filterMap Event.call? =
      rounds.map fun made => name made.index := by
  rw [List.filterMap_flatMap, List.map_eq_flatMap]
  congr 1
  funext made
  unfold roundEvents drawn logged
  split_ifs <;> rfl

theorem artifacts_rounds :
    (rounds.flatMap (roundEvents threshold name mode) : List (Event ε κ α)).filterMap
      Event.artifact? = rounds.map (·.artifact) := by
  rw [List.filterMap_flatMap, List.map_eq_flatMap]
  congr 1
  funext made
  unfold roundEvents drawn logged
  split_ifs <;> rfl

theorem draws_rounds :
    (rounds.flatMap (roundEvents threshold name mode) : List (Event ε κ α)).filterMap
      Event.draw? = if mode.isRandom then rounds.map fun made => .ok made.index else [] := by
  rw [List.filterMap_flatMap]
  unfold roundEvents drawn logged
  split_ifs with random
  · rw [List.map_eq_flatMap]
    congr 1
    funext made
    split_ifs <;> rfl
  · rw [List.flatMap_eq_nil_iff]
    intro made _
    split_ifs <;> rfl

theorem records_rounds :
    (rounds.flatMap (roundEvents threshold name mode) : List (Event ε κ α)).filterMap
      Event.record? = LogRecord.atLeast threshold (rounds.map (probeRecord mode)) := by
  have each : ∀ made : Probe α,
      (roundEvents threshold name mode made : List (Event ε κ α)).filterMap Event.record? =
        LogRecord.atLeast threshold [probeRecord mode made] := by
    intro made
    unfold roundEvents drawn
    rw [List.filterMap_append, records_logged]
    split_ifs <;> rfl
  simp only [List.filterMap_flatMap, each, LogRecord.atLeast, List.map_eq_flatMap,
    List.filter_flatMap]

/-- A round that a failure cuts short has no record. -/
theorem records_cut (cut : Ending ε α) :
    (cut.events name mode : List (Event ε κ α)).filterMap Event.record? = [] := by
  cases cut <;> simp [Ending.events, drawn, Event.record?]

end

/-- No record is below the lowest level. -/
theorem atLeast_debug (records : List LogRecord) :
    LogRecord.atLeast Level.debug.weight records = records := by
  rw [LogRecord.atLeast, List.filter_eq_self]
  intro record _
  cases record.level <;> decide

/-! ### Passes without a failure -/

/-- What is seen of a pass that completed some rounds and then ended without a failure. -/
structure Shows (threshold : Nat) (mode : Mode) (rounds : List (Probe α))
    (run : Observed ε σ Nat α (Tally α)) : Prop where
  outcome : run.outcome = .ok (.ofRounds mode rounds)
  derived : run.derived = rounds.map (·.index)
  tested : run.tested = rounds.map (·.artifact)
  draws : run.draws = if mode.isRandom then rounds.map fun made => .ok made.index else []
  log : run.log = LogRecord.atLeast threshold
    (rounds.map (probeRecord mode) ++ [(Tally.ofRounds mode rounds).record])

section

variable {threshold : Nat} {mode : Mode} {source : Source} {state : σ}

theorem Course.shows (course : Course c ⟨.start mode, source, state⟩ rounds ending q)
    (fine : ending.failure? = none) :
    Shows threshold mode rounds (observe c threshold mode source state) := by
  rw [observe_of_course threshold course, passEvents_of_fine fine]
  constructor
  · exact Ending.outcome_of_fine fine _
  · rw [Observed.derived, List.filterMap_append, calls_rounds, filterMap_logged fun _ => rfl,
      List.append_nil]
    rfl
  · rw [Observed.tested, List.filterMap_append, artifacts_rounds, filterMap_logged fun _ => rfl,
      List.append_nil]
  · rw [Observed.draws, List.filterMap_append, draws_rounds, filterMap_logged fun _ => rfl,
      List.append_nil]
  · rw [Observed.log, List.filterMap_append, records_rounds, records_logged, LogRecord.atLeast,
      LogRecord.atLeast, LogRecord.atLeast, List.filter_append]

/-- A pass with an answer has a course that no failure ends. -/
theorem course_of_answer {tally : Tally α}
    (answers : (observe c threshold mode source state).outcome = .ok tally) :
    ∃ rounds ending q, Course c ⟨.start mode, source, state⟩ rounds ending q ∧
      ending.failure? = none := by
  obtain ⟨rounds, ending, q, course⟩ := exists_course c ⟨.start mode, source, state⟩
  refine ⟨rounds, ending, q, course, ?_⟩
  rw [observe_of_course threshold course] at answers
  cases fine : ending.failure? with
  | none => rfl
  | some f =>
    dsimp only at answers
    rw [Ending.outcome_of_failed fine] at answers
    cases answers

/-- So has a pass of which no call fails. -/
theorem course_of_quiet
    (quiet : ∀ event ∈ (observe c threshold mode source state).events, event.failure? = none) :
    ∃ rounds ending q, Course c ⟨.start mode, source, state⟩ rounds ending q ∧
      ending.failure? = none := by
  obtain ⟨tally, answers⟩ := (Act.resolve_accounts c threshold id mode).answered quiet
  exact course_of_answer answers

end

end Scan

end IndexScan
