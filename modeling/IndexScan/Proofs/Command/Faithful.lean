import IndexScan.Proofs.Command.Previewing
import IndexScan.Proofs.Scan.Passes

/-!
Previews that show a scan. A preview takes indices from its sequences, a scan feeds them to a
derivation; both draw on one source for all branches. With a limit that cuts nothing off they use
up the source alike, so a preview lists for every branch what the scan with that seed probes
(`scan_lists_probes`).
-/

namespace IndexScan.Command

variable {ε α : Type}

/-- The indices that the result of a pass tells of. -/
def probedIndices (r : ScanResult α) : List Nat :=
  r.probes.map (·.index)

/-- A plan that goes along with a scan is the document of what was probed for every branch. -/
theorem planDocument_probed (results : List (Int × ScanResult α)) :
    planDocument (results.map fun e => (e.1, probedIndices e.2)) =
      .obj (results.map fun e =>
        (Decimal.text e.1, .arr (e.2.probes.map fun probe => .int (probe.index : Nat)))) := by
  simp [planDocument, probedIndices, Function.comp_def]

/-- A limit that cuts nothing off takes what the sequence of the mode gives. -/
theorem firstIndices_of_count_le {mode : Mode} {limit : Nat} (whole : mode.count ≤ limit)
    (small : limit < Sequence.takeBound) {source : Source}
    (fine : ((Sequence.start mode).take mode.count source).1.failure? = none) :
    ∃ s, firstIndices mode limit source =
      .ok (((Sequence.start mode).take mode.count source).1.indices, s,
        ((Sequence.start mode).take mode.count source).2.2) := by
  have taken : (Sequence.start mode).take limit source =
      (Sequence.start mode).take mode.count source :=
    Sequence.take_of_remaining_le whole source
  refine ⟨((Sequence.start mode).take mode.count source).2.1, ?_⟩
  simp only [firstIndices, if_pos small, taken, fine]

/-- A plan goes along with a scan: where the scan has results so far, the plan has their indices,
and both leave the source the same for the next branch. -/
theorem planFrom_of_resolveMany {p : Int → Probing ε α} (full : ∀ b, (p b).Full) {mode : Mode}
    {limit : Nat} (whole : mode.count ≤ limit) (small : limit < Sequence.takeBound)
    (branches : List Int) (g : Twister) (sofar : List (Int × ScanResult α))
    {results : List (Int × ScanResult α)}
    (outcome : (Scan.resolveMany p mode sofar branches (.seeded g)).outcome = .ok results) :
    planFrom mode limit (sofar.map fun e => (e.1, probedIndices e.2)) branches (.seeded g) =
      .ok (results.map fun e => (e.1, probedIndices e.2)) := by
  induction branches generalizing g sofar with
  | nil =>
    obtain rfl : sofar = results := Except.ok.inj outcome
    rfl
  | cons branch rest ih =>
    obtain ⟨fine, h, source⟩ := (Sequence.start mode).take_of_seeded mode.count g
    obtain ⟨probes, log, pass, indices⟩ :=
      Scan.resolve_of_full (full branch) mode (.seeded g) fine
    obtain ⟨s, first⟩ := firstIndices_of_count_le whole small fine
    rw [source] at pass first
    rw [← indices] at first
    simp only [Scan.resolveMany, pass] at outcome
    have later := ih h _ outcome
    rw [Scan.insertBranch_map probedIndices] at later
    simp only [planFrom, first, bind, Except.bind]
    exact later

section

variable {w : Workplace} {path : String} {profile : Profile} {seed : Int}

/-- With a limit that cuts nothing off, a preview prints for every branch, in the order in which a
full scan with the same seed keeps its results, the indices that were probed by the pass whose
result is kept: the last one over that branch. The scan is of functions without a state, for without
failures and stops the indices do not depend on what the functions answer; `resolveBranches_agrees`
says what a scan of such functions is to a caller. -/
theorem scan_lists_probes {args : List String} {isVerbose isDebug : Bool} {limit : Nat}
    {p : Int → Probing ε α}
    (asks : Request.ofArguments args =
      .run ⟨true, isVerbose, isDebug, .scan path (some seed) limit⟩)
    (loaded : w.profile? path = some profile) (small : limit < Sequence.takeBound)
    (full : ∀ b, (p b).Full) :
    ∃ mode, profile.resolverMode = .ok mode ∧ (mode.count ≤ limit →
      ∃ results,
        (Scan.resolveBranches p mode profile.branches (.seeded (.ofSeed seed))).outcome =
          .ok results ∧
        (run w args).1.exitCode = Report.successCode ∧
        (document? (run w args).1.printed).bind (·.get? "branches") =
          some (.obj (results.map fun e =>
            (Decimal.text e.1, .arr (e.2.probes.map fun probe => .int (probe.index : Nat))))) ∧
        ∀ e ∈ results, ∃ k pass, lastPlace? e.1 profile.branches = some k ∧
          (Scan.passes p mode profile.branches (.seeded (.ofSeed seed)))[k]? = some pass ∧
          pass.outcome = .ok e.2 ∧ pass.derived = probedIndices e.2) := by
  obtain ⟨mode, resolves⟩ := resolverMode_of_profile? loaded
  refine ⟨mode, resolves, fun whole => ?_⟩
  obtain ⟨results, outcome, kept⟩ :=
    Scan.resolveMany_of_full full mode profile.branches (.ofSeed seed) []
  have seeded : (some seed).or w.settings.1.seed = some seed := rfl
  obtain ⟨q, planned, code, document⟩ := previewProfile_document resolves seeded small
  have along := planFrom_of_resolveMany full whole small profile.branches (.ofSeed seed) [] outcome
  obtain rfl : q = results.map fun e => (e.1, probedIndices e.2) :=
    Except.ok.inj (planned.symm.trans along)
  have performed : ∃ log, (run w args).1 =
      { previewProfile true w.settings w.entropy profile (some seed) limit with log := log } := by
    rw [run, asks]
    simp only [perform, previewFile_of_profile? loaded]
    exact ⟨_, rfl⟩
  obtain ⟨log, performed⟩ := performed
  have printed : (run w args).1.printed =
      (previewProfile true w.settings w.entropy profile (some seed) limit).printed := by
    rw [performed]
    rfl
  have ends : (run w args).1.exitCode = Report.successCode := by
    rw [performed]
    exact code
  refine ⟨results, outcome, ends, ?_, fun e mem => ?_⟩
  · rw [printed, document, ← planDocument_probed]
    rfl
  · obtain ⟨_, same, distinct, _⟩ := plan_seeded small mode profile.branches (.ofSeed seed)
    rw [← Except.ok.inj (planned.symm.trans same), List.map_map] at distinct
    have entry : results.lookup e.1 = some e.2 := lookup_of_mem distinct mem
    have here := kept e.1
    cases place : lastPlace? e.1 profile.branches with
    | none =>
      rw [place] at here
      simp [entry] at here
    | some k =>
      rw [place] at here
      obtain ⟨pass, result, at_k, made, found, derived⟩ := here
      obtain rfl : e.2 = result := Option.some.inj (entry.symm.trans found)
      exact ⟨k, pass, rfl, at_k, made, derived⟩

end

/-- A workplace with a random profile that names a branch twice. -/
def repeatingWorkplace : Workplace :=
  ⟨Folder.empty.put ["p.yaml"]
      (.ofText "name: n\nmode: random2\nbranches: [0, 1, 0]\n".toList),
    ⟨none, none, "config"⟩, .scripted [] 0⟩

/-- Probing that derives the branch and the index, and accepts the even indices. -/
def labelling (branch : Int) : Probing Empty (Int × Nat) :=
  ⟨fun index => .ok (branch, index), fun artifact => .ok (artifact.2 % 2 = 0), false⟩

/-- There the preview with seed 7 lists what the scan probes, and the first branch is listed as its
second pass probes it. -/
theorem scan_lists_probes_of_repeated :
    ∃ results, (Scan.resolveBranches labelling (.random ⟨2, by decide⟩) [0, 1, 0]
        (.seeded (.ofSeed 7))).outcome = .ok results ∧
      (document? (run repeatingWorkplace (previewArgs 2)).1.printed).bind (·.get? "branches") =
        some (.obj (results.map fun e =>
          (Decimal.text e.1, .arr (e.2.probes.map fun probe => .int (probe.index : Nat))))) ∧
      ∀ e ∈ results, e.1 = 0 → ∃ pass, (Scan.passes labelling (.random ⟨2, by decide⟩) [0, 1, 0]
        (.seeded (.ofSeed 7)))[2]? = some pass ∧ pass.derived = probedIndices e.2 := by
  have loaded : repeatingWorkplace.profile? "p.yaml" =
      some ⟨"n", "random2", [0, 1, 0], none⟩ := by
    decide +kernel
  have full : ∀ b, (labelling b).Full := fun b =>
    ⟨fun index => ⟨_, rfl⟩, fun artifact => ⟨_, rfl⟩, rfl⟩
  have asks : Request.ofArguments (previewArgs 2) =
      .run ⟨true, false, false, .scan "p.yaml" (some 7) 2⟩ :=
    ofArguments_previewArgs (by decide)
  obtain ⟨mode, resolves, lists⟩ := scan_lists_probes asks loaded (by decide) full
  obtain rfl : Mode.random ⟨2, by decide⟩ = mode := by
    have parse : Directive.parse "random2" = .ok (.random ⟨2, by decide⟩) := by decide +kernel
    exact Except.ok.inj (parse.symm.trans resolves)
  obtain ⟨results, outcome, _, printed, kept⟩ := lists (by decide)
  refine ⟨results, outcome, printed, fun e mem first => ?_⟩
  obtain ⟨k, pass, place, made, _, derived⟩ := kept e mem
  have last : lastPlace? e.1 [0, 1, 0] = some 2 := by
    rw [first]
    decide
  obtain rfl : 2 = k := Option.some.inj (last.symm.trans place)
  exact ⟨pass, made, derived⟩

end IndexScan.Command
