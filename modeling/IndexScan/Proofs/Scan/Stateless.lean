import IndexScan.Proofs.Scan.Passes
import IndexScan.Proofs.Scan.Succession

/-!
Callbacks that keep no state. With them what is seen of a scan when every record is let through is
what the scan itself tells: its outcome, the calls that it made to derive, its log, and the source
as it left it (`resolve_agrees`, `resolveBranches_agrees`).
-/

namespace IndexScan

/-- The callbacks of a scan that keep no state. -/
def Probing.callbacks {ε α : Type} (p : Probing ε α) : Callbacks ε Unit α where
  derive index _ := (p.derive index, ())
  accepts artifact _ := (p.accepts artifact, ())
  stopOnFirst := p.stopOnFirst

/-- What a result comes to. -/
def ScanResult.tally {α : Type} (r : ScanResult α) : Tally α :=
  .ofRounds r.mode r.probes

namespace Scan

variable {ε α : Type}

theorem summaryRecord_eq (r : ScanResult α) : summaryRecord r = r.tally.record := by
  have hits : r.hits.length = r.tally.hits.length := by
    simp [ScanResult.hits, ScanResult.tally, Tally.ofRounds, hitsOf]
  rw [summaryRecord, hits]
  rfl

/-- A scan tells what is seen of it, if its results are read as `read` says. -/
structure Agrees {κ β γ : Type} (read : β → γ) (told : Scanned ε κ β)
    (run : Observed ε Unit κ α γ) : Prop where
  outcome : run.outcome = told.outcome.map read
  derived : run.derived = told.derived
  log : run.log = told.log
  source : run.source = told.source

section

variable {p : Probing ε α} {s q : Place Unit} {made : Probe α} {rounds : List (Probe α)}
  {ending : Ending ε α}

/-- The call to derive of a round that a failure cuts short, if the round came to it. -/
def Ending.call? : Ending ε α → Option Nat
  | underived index _ | undecided index _ _ => some index
  | _ => none

theorem calls_cut (mode : Mode) (cut : Ending ε α) :
    (cut.events id mode : List (Event ε Nat α)).filterMap Event.call? = cut.call?.toList := by
  unfold Ending.events drawn
  cases mode.isRandom <;> cases cut <;> rfl

/-- A round of probing without a state, and what follows it. -/
theorem probe_round (round : Round p.callbacks s made q) :
    probe p s.sequence.remaining s.sequence s.source =
      let later := probe p q.sequence.remaining q.sequence q.source
      let record := probeRecord s.sequence.mode made
      if made.isHit && p.callbacks.stopOnFirst then ⟨.ok [made], [made.index], [record], q.source⟩
      else ⟨later.outcome.map (made :: ·), made.index :: later.derived, record :: later.log,
        later.source⟩ := by
  obtain ⟨state, derives, accepts⟩ := round.decides
  obtain ⟨mode, more, -⟩ := Sequence.emitted_effect round.next
  have derived : p.derive made.index = .ok made.artifact := congrArg Prod.fst derives
  have accepted : p.accepts made.artifact = .ok made.isHit := congrArg Prod.fst accepts
  rw [more, probe, round.next]
  dsimp only
  rw [derived]
  dsimp only
  rw [accepted, mode]
  rfl

/-- Probing without a state goes through the rounds of its course. -/
theorem probe_of_course (course : Course p.callbacks s rounds ending q) :
    probe p s.sequence.remaining s.sequence s.source =
      ⟨ending.outcome rounds, rounds.map (·.index) ++
          (ending.events id s.sequence.mode : List (Event ε Nat α)).filterMap Event.call?,
        rounds.map (probeRecord s.sequence.mode), q.source⟩ := by
  induction course with
  | ended done =>
    rw [done]
    rfl
  | undrawn next =>
    obtain ⟨-, ⟨r, more⟩, -⟩ := Sequence.failed_effect next
    dsimp only
    rw [more, probe, next]
    rfl
  | @underived s t a b state state' index e next fails =>
    obtain ⟨-, more, -⟩ := Sequence.emitted_effect next
    have derived : p.derive index = .error e := congrArg Prod.fst fails
    dsimp only
    rw [more, probe, next]
    dsimp only
    rw [derived, calls_cut]
    rfl
  | @undecided s t a b state mid state' index artifact e next derives fails =>
    obtain ⟨-, more, -⟩ := Sequence.emitted_effect next
    have derived : p.derive index = .ok artifact := congrArg Prod.fst derives
    have accepted : p.accepts artifact = .error e := congrArg Prod.fst fails
    dsimp only
    rw [more, probe, next]
    dsimp only
    rw [derived]
    dsimp only
    rw [accepted, calls_cut]
    rfl
  | stopped round stops =>
    rw [probe_round round]
    dsimp only
    rw [if_pos stops]
    rfl
  | goesOn round on rest ih =>
    rw [probe_round round]
    obtain ⟨mode, -, -⟩ := Sequence.emitted_effect round.next
    dsimp only
    rw [if_neg (Bool.not_eq_true _ ▸ on), ih, mode]
    congr 1
    unfold Ending.outcome
    split <;> rfl

end

theorem resolve_agrees (p : Probing ε α) (mode : Mode) (source : Source) :
    Agrees ScanResult.tally (resolve p mode source)
      (observe p.callbacks Level.debug.weight mode source ()) := by
  obtain ⟨rounds, ending, q, course⟩ := exists_course p.callbacks ⟨.start mode, source, ()⟩
  have told : probe p (Sequence.start mode).remaining (Sequence.start mode) source = _ :=
    probe_of_course course
  cases failed : ending.failure? with
  | some f =>
    rw [Ending.outcome_of_failed failed, calls_cut] at told
    rw [observe_of_course _ course, resolve, told, passEvents_of_failed failed]
    refine ⟨Ending.outcome_of_failed failed _, ?_, ?_, rfl⟩
    · rw [Observed.derived, List.filterMap_append, calls_rounds, calls_cut]
      rfl
    · rw [Observed.log, List.filterMap_append, records_rounds, records_cut, List.append_nil,
        atLeast_debug]
      rfl
  | none =>
    have shows : Shows Level.debug.weight mode rounds _ := course.shows failed
    have uncalled : ending.call? = none := by
      cases ending <;> first | rfl | cases failed
    rw [Ending.outcome_of_fine failed, calls_cut, uncalled, Option.toList_none, List.append_nil]
      at told
    rw [resolve, told]
    refine ⟨shows.outcome, shows.derived, ?_, (course.left _).1⟩
    have summary : summaryRecord ⟨mode, rounds⟩ = (Tally.ofRounds mode rounds).record :=
      summaryRecord_eq _
    rw [shows.log, atLeast_debug, ← summary]
    rfl

/-! ### Branches -/

theorem map_insertBranch {β γ : Type} (read : β → γ) (branch : Int) (result : β)
    (results : List (Int × β)) :
    (insertBranch branch result results).map (Prod.map id read) =
      insertBranch branch (read result) (results.map (Prod.map id read)) := by
  induction results with
  | nil => rfl
  | cons first rest ih =>
    obtain ⟨b, r⟩ := first
    by_cases same : b = branch
    · simp [insertBranch, same]
    · simp [insertBranch, same, ih]

theorem derived_passes (threshold : Nat) (mode : Mode) {σ : Type} (passes : List (Pass ε σ α)) :
    (passes.flatMap (Pass.events threshold mode)).filterMap Event.call? =
      passes.flatMap fun pass => pass.run.derived.map fun index => (pass.branch, index) := by
  rw [List.filterMap_flatMap]
  congr 1
  funext pass
  rw [Pass.events, List.filterMap_append, filterMap_logged fun _ => rfl, List.nil_append,
    Observed.derived, List.filterMap_map, List.map_filterMap]
  congr 1
  funext event
  cases event <;> rfl

theorem resolveMany_of_succession {p : Int → Probing ε α} {mode : Mode} {source source' : Source}
    {state state' : Unit} {branches : List Int} {passes : List (Pass ε Unit α)}
    {failure? : Option (ScanFailure ε)}
    (succession : Succession (fun branch => (p branch).callbacks) Level.debug.weight mode source
      state branches passes failure? source' state') (sofar : List (Int × ScanResult α)) :
    let told := resolveMany p mode sofar branches source
    outcomeOf (sofar.map (Prod.map id ScanResult.tally)) passes failure? =
        told.outcome.map (List.map (Prod.map id ScanResult.tally)) ∧
      (passes.flatMap fun pass => pass.run.derived.map fun index => (pass.branch, index)) =
        told.derived ∧
      passes.flatMap (Pass.log Level.debug.weight mode) = told.log ∧ source' = told.source := by
  induction succession generalizing sofar with
  | ended => exact ⟨rfl, rfl, rfl, rfl⟩
  | @failed source state branch rest run f own fails =>
    have agrees := resolve_agrees (p branch) mode source
    rw [← own] at agrees
    have outcome := agrees.outcome
    rw [fails] at outcome
    cases told : (resolve (p branch) mode source).outcome with
    | ok result =>
      rw [told] at outcome
      cases outcome
    | error g =>
      rw [told] at outcome
      obtain rfl : f = g := Except.error.inj outcome
      have first : resolveMany p mode sofar (branch :: rest) source =
          ⟨.error f, (resolve (p branch) mode source).derived.map fun index => (branch, index),
            branchRecord mode branch :: (resolve (p branch) mode source).log,
            (resolve (p branch) mode source).source⟩ := by
        simp only [resolveMany, told]
      rw [first, ← agrees.derived, ← agrees.log, ← agrees.source]
      exact ⟨rfl, List.flatMap_singleton .., List.flatMap_singleton .., rfl⟩
  | @goesOn source source' state state' branch rest run tally passes failure? own answers later
      ih =>
    have agrees := resolve_agrees (p branch) mode source
    rw [← own] at agrees
    have outcome := agrees.outcome
    rw [answers] at outcome
    cases told : (resolve (p branch) mode source).outcome with
    | error g =>
      rw [told] at outcome
      cases outcome
    | ok result =>
      rw [told] at outcome
      obtain rfl : tally = result.tally := Except.ok.inj outcome
      obtain ⟨same, derived, log, left⟩ := ih (insertBranch branch result sofar)
      rw [agrees.source] at same derived log left
      rw [map_insertBranch] at same
      rw [resolveMany_cons told]
      dsimp only
      rw [← derived, ← log, ← same, ← left, ← agrees.derived, ← agrees.log]
      refine ⟨?_, rfl, rfl, rfl⟩
      cases failure? with
      | none => rw [outcomeOf, outcomeOf, List.foldl_cons, Pass.keep, answers]
      | some f => rfl

/-- Scans of branches whose callbacks keep no state tell what is seen of them. -/
theorem resolveBranches_agrees (p : Int → Probing ε α) (mode : Mode) (branches : List Int)
    (source : Source) :
    Agrees (List.map (Prod.map id ScanResult.tally)) (resolveBranches p mode branches source)
      (observeBranches (fun branch => (p branch).callbacks) Level.debug.weight mode branches source
        ()) := by
  obtain ⟨passes, failure?, source', state', succession⟩ :=
    exists_succession (fun branch => (p branch).callbacks) Level.debug.weight mode source ()
      branches
  obtain ⟨outcome, derived, log, left⟩ := resolveMany_of_succession succession []
  rw [observeBranches_of_succession succession]
  exact ⟨outcome, (derived_passes _ _ _).trans derived, (records_passes _ _ _).trans log, left⟩

end Scan

end IndexScan
