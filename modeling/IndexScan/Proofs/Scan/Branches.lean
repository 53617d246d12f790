import IndexScan.Proofs.Scan.Passes

/-!
Scans of several branches. A scan of branches is one pass for each place in their list, on the source
as the pass before left it, and nothing else passes from one place to the next: a hit that ends a
pass does not end the scan (`getElem?_passes`). What is kept has the branches in the order in which
they first come, each with the result of its last pass (`resolveBranches_threads`).

What is derived and accepted keeps no state from one call to the next here, so that a pass is one
function of its source. A scan whose callbacks may keep one goes through the same passes
(`Succession`), and is this scan where they keep none (`resolveBranches_agrees`).
-/

namespace IndexScan.Scan

variable {ε α : Type}

/-- The source as passes leave it, one after the other. -/
def sourceAfter {κ β : Type} (each : List (Scanned ε κ β)) (source : Source) : Source :=
  (each.map (·.source)).getLastD source

/-- The calls to derive of passes over branches, each with its branch. -/
def calls {β : Type} (branches : List Int) (each : List (Scanned ε Nat β)) : List (Int × Nat) :=
  (branches.zip each).flatMap fun e => e.2.derived.map fun index => (e.1, index)

section

variable {p : Int → Probing ε α} {mode : Mode} {branch : Int} {rest branches : List Int}
  {source : Source} {sofar results : List (Int × ScanResult α)}

/-! ### One pass for each place -/

theorem length_passes : (passes p mode branches source).length = branches.length := by
  induction branches generalizing source with
  | nil => rfl
  | cons branch rest ih => exact congrArg (· + 1) ih

/-- The pass at a place probes for the branch that stands there, on the source as the passes before
left it. -/
theorem getElem?_passes {k : Nat} {b : Int} (here : branches[k]? = some b) :
    (passes p mode branches source)[k]? =
      some (resolve (p b) mode (sourceAfter ((passes p mode branches source).take k) source)) := by
  induction branches generalizing k source with
  | nil => simp at here
  | cons branch rest ih =>
    cases k with
    | zero =>
      obtain rfl : branch = b := by simpa using here
      rfl
    | succ k =>
      simp only [passes, List.getElem?_cons_succ, List.take_succ_cons, sourceAfter, List.map_cons,
        List.getLastD_cons]
      exact ih (by simpa using here)

/-! ### What the whole scan does -/

/-- A scan with results had one from its first pass. -/
theorem answered_head
    (outcome : (resolveMany p mode sofar (branch :: rest) source).outcome = .ok results) :
    ∃ result, (resolve (p branch) mode source).outcome = .ok result := by
  cases first : (resolve (p branch) mode source).outcome with
  | ok result => exact ⟨result, rfl⟩
  | error e =>
    simp only [resolveMany, first] at outcome
    cases outcome

theorem answered_of_resolveMany
    (outcome : (resolveMany p mode sofar branches source).outcome = .ok results) :
    ∀ pass ∈ passes p mode branches source, Answered pass := by
  induction branches generalizing source sofar with
  | nil => simp [passes]
  | cons branch rest ih =>
    obtain ⟨result, first⟩ := answered_head outcome
    rw [resolveMany_cons first] at outcome
    intro pass mem
    rcases List.mem_cons.mp mem with rfl | mem
    · exact ⟨result, first⟩
    · exact ih outcome pass mem

/-- A scan has results exactly when each of its passes has one. -/
theorem resolveMany_answered_iff :
    Answered (resolveMany p mode sofar branches source) ↔
      ∀ pass ∈ passes p mode branches source, Answered pass := by
  constructor
  · rintro ⟨results, outcome⟩
    exact answered_of_resolveMany outcome
  · intro answered
    obtain ⟨results, outcome, -⟩ := resolveMany_of_answered sofar answered
    exact ⟨results, outcome⟩

/-- A scan of which no call fails has results. -/
theorem resolveMany_answered
    (fine : ∀ k b, branches[k]? = some b → CallsSucceed (p b) mode
      (sourceAfter ((passes p mode branches source).take k) source)) :
    Answered (resolveMany p mode sofar branches source) := by
  rw [resolveMany_answered_iff]
  intro pass mem
  obtain ⟨k, at_k⟩ := List.mem_iff_getElem?.mp mem
  obtain ⟨short, -⟩ := List.getElem?_eq_some_iff.mp at_k
  rw [length_passes] at short
  have here : branches[k]? = some branches[k] := List.getElem?_eq_getElem short
  rw [getElem?_passes here] at at_k
  obtain rfl := Option.some.inj at_k
  exact resolve_answered (fine k branches[k] here)

/-- A scan whose passes all have results derives what they derive, in their order. -/
theorem resolveMany_derived (answered : ∀ pass ∈ passes p mode branches source, Answered pass) :
    (resolveMany p mode sofar branches source).derived =
      calls branches (passes p mode branches source) := by
  induction branches generalizing source sofar with
  | nil => rfl
  | cons branch rest ih =>
    obtain ⟨result, first⟩ := answered _ List.mem_cons_self
    rw [resolveMany_cons first]
    dsimp only
    rw [ih fun pass mem => answered pass (List.mem_cons_of_mem _ mem)]
    rfl

theorem resolveMany_source (answered : ∀ pass ∈ passes p mode branches source, Answered pass) :
    (resolveMany p mode sofar branches source).source =
      sourceAfter (passes p mode branches source) source := by
  induction branches generalizing source sofar with
  | nil => rfl
  | cons branch rest ih =>
    obtain ⟨result, first⟩ := answered _ List.mem_cons_self
    rw [resolveMany_cons first]
    dsimp only
    rw [ih fun pass mem => answered pass (List.mem_cons_of_mem _ mem)]
    simp only [passes, sourceAfter, List.map_cons, List.getLastD_cons]

/-! ### What is kept -/

/-- The branches that have results already, with one more, in the order in which they first came. -/
theorem keys_snoc {β : Type} {earlier : List Int} {pairs : List (Int × β)}
    (keys : pairs.map (·.1) = earlier.eraseDups) (branch : Int) (result : β) :
    (insertBranch branch result pairs).map (·.1) = (earlier ++ [branch]).eraseDups := by
  rw [Command.keys_insertBranch, keys, List.eraseDups_append]
  by_cases known : branch ∈ earlier
  · have nothingNew : [branch].removeAll earlier = [] := by simp [List.removeAll, known]
    rw [if_pos (List.mem_eraseDups.mpr known), nothingNew, List.eraseDups_nil, List.append_nil]
  · have new : [branch].removeAll earlier = [branch] := by simp [List.removeAll, known]
    rw [if_neg (mt List.mem_eraseDups.mp known), new]
    rfl

/-- The branches that have results come in the order in which they first come in the list. The
induction carries the branches that have been gone through as `earlier`. -/
theorem resolveMany_keys {earlier : List Int} (keys : sofar.map (·.1) = earlier.eraseDups)
    (outcome : (resolveMany p mode sofar branches source).outcome = .ok results) :
    results.map (·.1) = (earlier ++ branches).eraseDups := by
  induction branches generalizing earlier source sofar with
  | nil =>
    obtain rfl : sofar = results := Except.ok.inj outcome
    rw [List.append_nil]
    exact keys
  | cons branch rest ih =>
    obtain ⟨result, first⟩ := answered_head outcome
    rw [resolveMany_cons first] at outcome
    rw [List.append_cons]
    exact ih (keys_snoc keys branch result) outcome

/-- For a branch the result of its last pass is kept. -/
theorem resolveMany_lookup {k : Nat} {b : Int}
    (outcome : (resolveMany p mode sofar branches source).outcome = .ok results)
    (here : branches[k]? = some b) (last : b ∉ branches.drop (k + 1)) :
    ∃ pass result, (passes p mode branches source)[k]? = some pass ∧
      pass.outcome = .ok result ∧ results.lookup b = some result := by
  obtain ⟨others, same, kept⟩ := resolveMany_of_answered sofar (answered_of_resolveMany outcome)
  obtain rfl : results = others := Except.ok.inj (outcome.symm.trans same)
  have found := kept b
  rw [Command.lastPlace?_of_getElem? here last] at found
  exact found

end

/-- A scan of branches is one pass for each place in their list, each on the source as the pass
before left it, also behind a pass that a hit ended. It has results exactly when each pass has one,
and so whenever no call of a pass fails. Then its calls to derive are those of the passes, one pass
after the other, each call for the branch of its own pass; the branches that have results are those
of the list in the order in which they first come, and each has the result of its last pass. -/
theorem resolveBranches_threads (p : Int → Probing ε α) (mode : Mode) (branches : List Int)
    (source : Source) :
    let whole := resolveBranches p mode branches source
    let each := passes p mode branches source
    each.length = branches.length ∧
      (∀ k b, branches[k]? = some b →
        each[k]? = some (resolve (p b) mode (sourceAfter (each.take k) source))) ∧
      (Answered whole ↔ ∀ pass ∈ each, Answered pass) ∧
      ((∀ k b, branches[k]? = some b →
        CallsSucceed (p b) mode (sourceAfter (each.take k) source)) → Answered whole) ∧
      ∀ results, whole.outcome = .ok results →
        whole.derived = calls branches each ∧
          whole.source = sourceAfter each source ∧
          results.map (·.1) = branches.eraseDups ∧
          ∀ k b, branches[k]? = some b → ∃ pass result, each[k]? = some pass ∧
            pass.outcome = .ok result ∧ pass.derived = result.probes.map (·.index) ∧
            (∀ made ∈ result.probes, Makes (p b) made) ∧
            (b ∉ branches.drop (k + 1) → results.lookup b = some result) := by
  intro whole each
  refine ⟨length_passes, fun k b here => getElem?_passes here, resolveMany_answered_iff,
    resolveMany_answered, ?_⟩
  intro results outcome
  have answered := answered_of_resolveMany outcome
  have keys : results.map (·.1) = ([] ++ branches).eraseDups := resolveMany_keys rfl outcome
  refine ⟨resolveMany_derived answered, resolveMany_source answered, keys, fun k b here => ?_⟩
  have at_k : each[k]? = some (resolve (p b) mode (sourceAfter (each.take k) source)) :=
    getElem?_passes here
  obtain ⟨result, made⟩ := answered _ (List.mem_of_getElem? at_k)
  obtain ⟨indices, all⟩ := resolve_makes made
  refine ⟨_, result, at_k, made, indices, all, fun last => ?_⟩
  obtain ⟨pass, other, at_k', made', found⟩ := resolveMany_lookup outcome here last
  obtain rfl := Option.some.inj (at_k.symm.trans at_k')
  obtain rfl : result = other := Except.ok.inj (made.symm.trans made')
  exact found

/-- Probing that adds the branch to the index, accepts even sums and stops at the first. -/
def evenSums (branch : Int) : Probing Empty Int where
  derive index := .ok (branch + index)
  accepts sum := .ok (sum % 2 = 0)
  stopOnFirst := true

/-- Three passes over two branches, of which each stops at its first hit: the next draws on behind
it, and the branch that comes twice keeps its place and the result of its second pass. -/
theorem resolveBranches_threads_of_stops :
    let whole := resolveBranches evenSums (.random ⟨3, by decide⟩) [5, 3, 5]
      (.scripted [1, 2, 3, 4, 5, 6] 0)
    whole.derived = [(5, 1), (3, 2), (3, 3), (5, 4), (5, 5)] ∧
      ∃ results, whole.outcome = .ok results ∧ results.map (·.1) = [5, 3] ∧
        ∃ result, results.lookup 5 = some result ∧ result.probes.map (·.index) = [4, 5] := by
  intro whole
  obtain ⟨-, -, -, -, kept⟩ := resolveBranches_threads evenSums (.random ⟨3, by decide⟩) [5, 3, 5]
    (.scripted [1, 2, 3, 4, 5, 6] 0)
  obtain ⟨results, outcome⟩ : ∃ results, whole.outcome = .ok results := ⟨_, rfl⟩
  obtain ⟨derived, -, keys, last⟩ := kept results outcome
  obtain ⟨pass, result, at_2, -, indices, -, found⟩ := last 2 5 rfl
  refine ⟨derived.trans rfl, results, outcome, keys.trans rfl, result, found (by simp), ?_⟩
  obtain rfl := Option.some.inj at_2
  exact indices.symm

end IndexScan.Scan
