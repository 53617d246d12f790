import IndexScan.Proofs.Scan.Course

/-!
Scans of branches, pass after pass. A scan of branches is one pass for each of its branches, up to
the first that fails (`Succession`). Each pass does what it does on its own, on the source and the
state as the pass before left them, behind a record that names its branch (`Pass.events`), and
nothing else happens (`observeBranches_of_succession`).
-/

namespace IndexScan.Scan

variable {ε σ κ α : Type}

/-! ### Passes under other names -/

/-- The events of a pass whose calls to derive go by other names. -/
theorem passEvents_rename (threshold : Nat) (name : Nat → κ) (mode : Mode) (rounds : List (Probe α))
    (ending : Ending ε α) :
    passEvents threshold name mode rounds ending =
      (passEvents threshold id mode rounds ending).map (Event.rename name) := by
  have drawn_rename : ∀ index : Nat,
      (drawn mode index : List (Event ε Nat α)).map (Event.rename name) = drawn mode index := by
    intro index
    unfold drawn
    split_ifs <;> rfl
  have logged_rename : ∀ record : LogRecord,
      (logged threshold record : List (Event ε Nat α)).map (Event.rename name) =
        logged threshold record := by
    intro record
    unfold logged
    split_ifs <;> rfl
  have round : ∀ made : Probe α,
      (roundEvents threshold id mode made : List (Event ε Nat α)).map (Event.rename name) =
        roundEvents threshold name mode made := by
    intro made
    rw [roundEvents, List.map_append, List.map_append, drawn_rename, logged_rename]
    rfl
  have cut : (ending.events id mode).map (Event.rename name) = ending.events name mode := by
    cases ending <;> simp [Ending.events, drawn_rename, Event.rename]
  have summary : (ending.summary threshold (.ofRounds mode rounds)).map (Event.rename name) =
      ending.summary threshold (.ofRounds mode rounds) := by
    unfold Ending.summary
    cases ending.failure? with
    | none => exact logged_rename _
    | some f => rfl
  simp only [passEvents, List.map_append, List.map_flatMap, round, cut, summary]

/-- A pass whose calls go by other names is what is seen of the pass on its own, under these names.
-/
theorem play_resolve_renamed (c : Callbacks ε σ α) (threshold : Nat) (name : Nat → κ) (mode : Mode)
    (source : Source) (state : σ) (events : List (Event ε κ α)) :
    let run := observe c threshold mode source state
    (Act.resolve c threshold name mode).play ⟨source, state, events⟩ =
      (run.outcome, ⟨run.source, run.state, events ++ run.events.map (Event.rename name)⟩) := by
  intro run
  obtain ⟨rounds, ending, q, course⟩ := exists_course c ⟨.start mode, source, state⟩
  have run_eq : run = _ := observe_of_course threshold course
  rw [play_resolve threshold name events course, run_eq, passEvents_rename]

theorem record?_rename (name : Nat → κ) (event : Event ε Nat α) :
    (event.rename name).record? = event.record? := by
  cases event <;> rfl

/-! ### Pass after pass -/

/-- A pass of a scan of branches: its branch, and what is seen of the pass on its own. -/
structure Pass (ε σ α : Type) where
  branch : Int
  run : Observed ε σ Nat α (Tally α)

namespace Pass

/-- The events of a pass in a scan of branches. -/
def events (threshold : Nat) (mode : Mode) (pass : Pass ε σ α) : List (Event ε (Int × Nat) α) :=
  logged threshold (branchRecord mode pass.branch) ++
    pass.run.events.map (Event.rename fun index => (pass.branch, index))

/-- The records that a pass logs in a scan of branches. -/
def log (threshold : Nat) (mode : Mode) (pass : Pass ε σ α) : List LogRecord :=
  LogRecord.atLeast threshold [branchRecord mode pass.branch] ++ pass.run.log

/-- The results with that of a pass, if it has one. -/
def keep (results : List (Int × Tally α)) (pass : Pass ε σ α) : List (Int × Tally α) :=
  match pass.run.outcome with
  | .ok tally => insertBranch pass.branch tally results
  | .error _ => results

end Pass

/-- The passes of a scan of branches, the failure that ends it, if one does, and the source and the
state behind it. -/
inductive Succession (c : Int → Callbacks ε σ α) (threshold : Nat) (mode : Mode) :
    Source → σ → List Int → List (Pass ε σ α) → Option (ScanFailure ε) → Source → σ → Prop where
  | ended {source : Source} {state : σ} :
      Succession c threshold mode source state [] [] none source state
  | failed {source : Source} {state : σ} {branch : Int} {rest : List Int}
      {run : Observed ε σ Nat α (Tally α)} {f : ScanFailure ε}
      (own : run = observe (c branch) threshold mode source state)
      (fails : run.outcome = .error f) :
      Succession c threshold mode source state (branch :: rest) [⟨branch, run⟩] (some f) run.source
        run.state
  | goesOn {source source' : Source} {state state' : σ} {branch : Int} {rest : List Int}
      {run : Observed ε σ Nat α (Tally α)} {tally : Tally α} {passes : List (Pass ε σ α)}
      {failure? : Option (ScanFailure ε)}
      (own : run = observe (c branch) threshold mode source state)
      (answers : run.outcome = .ok tally)
      (later : Succession c threshold mode run.source run.state rest passes failure? source'
        state') :
      Succession c threshold mode source state (branch :: rest) (⟨branch, run⟩ :: passes) failure?
        source' state'

section

variable {c : Int → Callbacks ε σ α} {threshold : Nat} {mode : Mode} {source source' : Source}
  {state state' : σ} {branches : List Int} {passes : List (Pass ε σ α)}
  {failure? : Option (ScanFailure ε)}

theorem exists_succession (c : Int → Callbacks ε σ α) (threshold : Nat) (mode : Mode)
    (source : Source) (state : σ) (branches : List Int) :
    ∃ passes failure? source' state',
      Succession c threshold mode source state branches passes failure? source' state' := by
  induction branches generalizing source state with
  | nil => exact ⟨_, _, _, _, .ended⟩
  | cons branch rest ih =>
    cases outcome : (observe (c branch) threshold mode source state).outcome with
    | error f => exact ⟨_, _, _, _, .failed rfl outcome⟩
    | ok tally =>
      obtain ⟨passes, failure?, source', state', later⟩ := ih _ _
      exact ⟨_, _, _, _, .goesOn rfl outcome later⟩

/-- What a scan comes to that kept `results` before its passes. -/
def outcomeOf (results : List (Int × Tally α)) (passes : List (Pass ε σ α)) :
    Option (ScanFailure ε) → Except (ScanFailure ε) (List (Int × Tally α))
  | none => .ok (passes.foldl Pass.keep results)
  | some f => .error f

/-- The first pass of a scan of branches, behind the record that names its branch. -/
theorem play_pass {branch : Int} {run : Observed ε σ Nat α (Tally α)}
    (own : run = observe (c branch) threshold mode source state)
    (events : List (Event ε (Int × Nat) α)) :
    (do
      Act.log threshold (branchRecord mode branch)
      Act.resolve (c branch) threshold (fun index => (branch, index)) mode).play
        ⟨source, state, events⟩ =
      (run.outcome,
        ⟨run.source, run.state, events ++ Pass.events threshold mode ⟨branch, run⟩⟩) := by
  rw [Act.play_bind_ok (Act.play_log ..), play_resolve_renamed, ← own, List.append_assoc]
  rfl

theorem play_resolveMany
    (succession : Succession c threshold mode source state branches passes failure? source' state')
    (results : List (Int × Tally α)) (events : List (Event ε (Int × Nat) α)) :
    (Act.resolveMany c threshold mode branches results).play ⟨source, state, events⟩ =
      (outcomeOf results passes failure?,
        ⟨source', state', events ++ passes.flatMap (Pass.events threshold mode)⟩) := by
  induction succession generalizing results events with
  | ended =>
    rw [List.flatMap_nil, List.append_nil]
    rfl
  | failed own fails =>
    have played := play_pass own events
    rw [fails] at played
    rw [Act.resolveMany, ← bind_assoc, Act.play_bind_error played, List.flatMap_singleton]
    rfl
  | @goesOn _ _ _ _ branch _ run tally _ failure? own answers later ih =>
    have played := play_pass own events
    rw [answers] at played
    have kept : Pass.keep results ⟨branch, run⟩ = insertBranch branch tally results := by
      rw [Pass.keep, answers]
    -- The record and the pass are taken as one act, so that `play_pass` applies to both.
    rw [Act.resolveMany, ← bind_assoc, Act.play_bind_ok played, ih, List.append_assoc,
      List.flatMap_cons]
    cases failure? with
    | none => rw [outcomeOf, outcomeOf, List.foldl_cons, kept]
    | some f => rfl

/-- What is seen of a scan of branches is what its passes show, one behind the other. -/
theorem observeBranches_of_succession
    (succession : Succession c threshold mode source state branches passes failure? source'
      state') :
    observeBranches c threshold mode branches source state =
      ⟨outcomeOf [] passes failure?, passes.flatMap (Pass.events threshold mode), source',
        state'⟩ := by
  unfold observeBranches Act.observe
  rw [play_resolveMany succession [] [], List.nil_append]

/-- The passes of a scan of branches log one behind the other. -/
theorem records_passes (threshold : Nat) (mode : Mode) (passes : List (Pass ε σ α)) :
    (passes.flatMap (Pass.events threshold mode)).filterMap Event.record? =
      passes.flatMap (Pass.log threshold mode) := by
  rw [List.filterMap_flatMap]
  congr 1
  funext pass
  rw [Pass.events, Pass.log, Observed.log, List.filterMap_append, records_logged,
    List.filterMap_map]
  congr 2
  funext event
  exact record?_rename _ event

/-- The passes of a scan that no failure ends have answers. -/
theorem Succession.shows
    (succession : Succession c threshold mode source state branches passes failure? source' state')
    (fine : failure? = none) :
    passes.map (·.branch) = branches ∧
      ∀ pass ∈ passes, ∃ rounds, Shows threshold mode rounds pass.run := by
  induction succession with
  | ended => exact ⟨rfl, by simp⟩
  | failed => cases fine
  | goesOn own answers later ih =>
    obtain ⟨same, shows⟩ := ih fine
    rw [own] at answers
    obtain ⟨rounds, ending, q, course, ends⟩ := course_of_answer answers
    refine ⟨by rw [List.map_cons, same], List.forall_mem_cons.mpr ⟨⟨rounds, ?_⟩, shows⟩⟩
    rw [own]
    exact course.shows ends

/-- A scan that a failure ends has passes without one, and then the pass of the branch that fails.
-/
theorem Succession.cut
    (succession : Succession c threshold mode source state branches passes failure? source' state')
    {f : ScanFailure ε} (failed : failure? = some f) :
    ∃ earlier last rest source₁ state₁, passes = earlier ++ [last] ∧
      branches = earlier.map (·.branch) ++ last.branch :: rest ∧
      Succession c threshold mode source state (earlier.map (·.branch)) earlier none source₁
        state₁ ∧
      last.run = observe (c last.branch) threshold mode source₁ state₁ ∧
      last.run.outcome = .error f := by
  induction succession with
  | ended => cases failed
  | failed own fails =>
    cases failed
    exact ⟨[], ⟨_, _⟩, _, _, _, rfl, rfl, .ended, own, fails⟩
  | goesOn own answers later ih =>
    obtain ⟨earlier, last, rest, source₁, state₁, split, named, before, lastly, fails⟩ := ih failed
    refine ⟨⟨_, _⟩ :: earlier, last, rest, source₁, state₁, ?_, ?_, .goesOn own answers before,
      lastly, fails⟩
    · rw [split, List.cons_append]
    · rw [named, List.map_cons, List.cons_append]

end

end IndexScan.Scan
