import IndexScan.Proofs.Command.Plan
import IndexScan.Scan

/-!
Passes. Asking for one more index ends in one of six ways (`Probed`). A pass of which no call fails
has a result (`resolve_answered`), and one with a result tells of every index that it derived, and
what was made of it (`resolve_makes`). Passes over several branches that have a result each have
results together, and the result that is kept for a branch is that of its last pass
(`resolveMany_of_answered`).

A scan whose steps never fail, and which goes on behind hits, probes what its sequence gives
(`resolve_of_full`), whatever it derives. So its passes depend on nothing but the mode and the source
(`resolveMany_of_full`).
-/

namespace IndexScan

/-- Probing that never fails and goes on behind hits. -/
structure Probing.Full {ε α : Type} (p : Probing ε α) : Prop where
  derives : ∀ index, ∃ artifact, p.derive index = .ok artifact
  decides : ∀ artifact, ∃ isHit, p.accepts artifact = .ok isHit
  goesOn : p.stopOnFirst = false

namespace Sequence

/-- Asking for more indices than are still to come changes nothing. -/
theorem take_of_remaining_le {n : Nat} {s : Sequence} (enough : s.remaining ≤ n)
    (source : Source) : s.take n source = s.take s.remaining source := by
  induction n generalizing s source with
  | zero => rw [Nat.le_zero.mp enough]
  | succ n ih =>
    rcases next_cases s source with ⟨done, eq⟩ | ⟨left, _, eq⟩ | ⟨left, _, m, b, _, eq⟩ |
      ⟨left, _, e, b, _, eq⟩
    · have none : s.remaining = 0 := Nat.sub_eq_zero_of_le (Nat.le_of_eq done.symm)
      rw [take_succ, eq, none]
      rfl
    all_goals
      obtain ⟨r, more⟩ : ∃ r, s.remaining = r + 1 :=
        Nat.exists_eq_succ_of_ne_zero (Nat.sub_ne_zero_of_lt left)
      have fewer : s.mode.count - (s.produced + 1) = r := by
        simp only [remaining] at more
        omega
    · have later := ih (s := ⟨s.mode, s.produced + 1, left⟩)
        (by simp only [remaining] at enough ⊢; omega) source
      rw [take_succ, more, take_succ, eq]
      simp only [later, remaining, fewer]
    · have later := ih (s := ⟨s.mode, s.produced + 1, left⟩)
        (by simp only [remaining] at enough ⊢; omega) b
      rw [take_succ, more, take_succ, eq]
      simp only [later, remaining, fewer]
    · rw [take_succ, more, take_succ, eq]

/-- A seeded source never fails a sequence, and stays seeded. -/
theorem take_of_seeded (s : Sequence) (n : Nat) (g : Twister) :
    (s.take n (.seeded g)).1.failure? = none ∧ ∃ h, (s.take n (.seeded g)).2.2 = .seeded h := by
  cases random : s.mode.isRandom with
  | true =>
    obtain ⟨taken, source⟩ := take_seeded random n g
    exact ⟨congrArg Taken.failure? taken, _, source⟩
  | false =>
    obtain ⟨taken, source⟩ := take_ordered random n (.seeded g)
    exact ⟨congrArg Taken.failure? taken, _, source⟩

end Sequence

namespace Scan

variable {ε α : Type}

/-! ### One pass -/

/-- What probing makes of an index: its artifact, and whether that is accepted. -/
def Makes (p : Probing ε α) (made : Probe α) : Prop :=
  p.derive made.index = .ok made.artifact ∧ p.accepts made.artifact = .ok made.isHit

/-- What asking a sequence for one more index can lead to, `n` more to come at most: nothing is left,
one of the three steps fails, or an index is probed, and probing stops there or goes on. -/
inductive Probed (p : Probing ε α) (n : Nat) (s : Sequence) (source : Source)
    (done : Scanned ε Nat (List (Probe α))) : Prop where
  | ended {t : Sequence} {b : Source} (next : s.next source = (.ended, t, b))
      (eq : done = ⟨.ok [], [], [], b⟩)
  | undrawn {e : DrawError} {t : Sequence} {b : Source} (next : s.next source = (.failed e, t, b))
      (eq : done = ⟨.error (.draw e), [], [], b⟩)
  | underived {index : Nat} {e : ε} {t : Sequence} {b : Source}
      (next : s.next source = (.emitted index, t, b)) (derived : p.derive index = .error e)
      (eq : done = ⟨.error (.step e), [index], [], b⟩)
  | undecided {index : Nat} {artifact : α} {e : ε} {t : Sequence} {b : Source}
      (next : s.next source = (.emitted index, t, b)) (derived : p.derive index = .ok artifact)
      (accepted : p.accepts artifact = .error e) (eq : done = ⟨.error (.step e), [index], [], b⟩)
  | stopped {made : Probe α} {t : Sequence} {b : Source}
      (next : s.next source = (.emitted made.index, t, b)) (makes : Makes p made)
      (stops : (made.isHit && p.stopOnFirst) = true)
      (eq : done = ⟨.ok [made], [made.index], [probeRecord t.mode made], b⟩)
  | goesOn {made : Probe α} {t : Sequence} {b : Source}
      (next : s.next source = (.emitted made.index, t, b)) (makes : Makes p made)
      (on : (made.isHit && p.stopOnFirst) = false)
      (eq : done = ⟨(probe p n t b).outcome.map (made :: ·), made.index :: (probe p n t b).derived,
        probeRecord t.mode made :: (probe p n t b).log, (probe p n t b).source⟩)

theorem probe_succ (p : Probing ε α) (n : Nat) (s : Sequence) (source : Source) :
    Probed p n s source (probe p (n + 1) s source) := by
  rw [probe]
  rcases next : s.next source with ⟨step, t, b⟩
  cases step with
  | ended => exact .ended next rfl
  | failed e => exact .undrawn next rfl
  | emitted index =>
    dsimp only
    cases derived : p.derive index with
    | error e => exact .underived next derived rfl
    | ok artifact =>
      dsimp only
      cases accepted : p.accepts artifact with
      | error e => exact .undecided next derived accepted rfl
      | ok isHit =>
        have makes : Makes p ⟨index, artifact, isHit⟩ := ⟨derived, accepted⟩
        dsimp only
        cases stops : isHit && p.stopOnFirst with
        | true => exact .stopped next makes stops rfl
        | false => exact .goesOn next makes stops rfl

/-- Probing that comes to its end tells of every index that it derived, in order, and what it made of
each. -/
theorem probe_makes {p : Probing ε α} {n : Nat} {s : Sequence} {source : Source}
    {probes : List (Probe α)} (outcome : (probe p n s source).outcome = .ok probes) :
    (probe p n s source).derived = probes.map (·.index) ∧ ∀ made ∈ probes, Makes p made := by
  induction n generalizing s source probes with
  | zero =>
    cases outcome
    exact ⟨rfl, by simp⟩
  | succ n ih =>
    cases probe_succ p n s source with
    | ended _ eq =>
      rw [eq] at outcome ⊢
      cases outcome
      exact ⟨rfl, by simp⟩
    | undrawn _ eq => rw [eq] at outcome; cases outcome
    | underived _ _ eq => rw [eq] at outcome; cases outcome
    | undecided _ _ _ eq => rw [eq] at outcome; cases outcome
    | stopped _ makes _ eq =>
      rw [eq] at outcome ⊢
      cases outcome
      exact ⟨rfl, by simpa using makes⟩
    | @goesOn made t b _ makes _ eq =>
      rw [eq] at outcome ⊢
      dsimp only at outcome ⊢
      cases later : (probe p n t b).outcome with
      | error e =>
        rw [later] at outcome
        cases outcome
      | ok rest =>
        rw [later] at outcome
        cases outcome
        obtain ⟨indices, all⟩ := ih later
        refine ⟨congrArg (made.index :: ·) indices, ?_⟩
        intro other mem
        rcases List.mem_cons.mp mem with rfl | mem
        · exact makes
        · exact all other mem

/-- A pass that comes to its end tells of every index that it derived, and what it made of each. -/
theorem resolve_makes {p : Probing ε α} {mode : Mode} {source : Source} {result : ScanResult α}
    (outcome : (resolve p mode source).outcome = .ok result) :
    (resolve p mode source).derived = result.probes.map (·.index) ∧
      ∀ made ∈ result.probes, Makes p made := by
  unfold resolve at outcome ⊢
  dsimp only at outcome ⊢
  cases pass : (probe p (Sequence.start mode).remaining (Sequence.start mode) source).outcome with
  | error e =>
    rw [pass] at outcome
    cases outcome
  | ok probes =>
    rw [pass] at outcome
    cases outcome
    exact probe_makes pass

/-- A call of a pass fails: a draw for one index more than were derived, or a step at an index that
was. -/
inductive Raises (p : Probing ε α) (s : Sequence) (source : Source) (derived : List Nat) : Prop where
  | draw {e : DrawError} (failed : (s.take (derived.length + 1) source).1.failure? = some e)
  | step {index : Nat} (mem : index ∈ derived)
      (failed : ∀ made : Probe α, made.index = index → ¬ Makes p made)

theorem Raises.cons {p : Probing ε α} {s t : Sequence} {source b : Source} {index : Nat}
    {derived : List Nat} (next : s.next source = (.emitted index, t, b))
    (raises : Raises p t b derived) : Raises p s source (index :: derived) := by
  cases raises with
  | @draw e failed =>
    have first : (s.take (derived.length + 1 + 1) source).1.failure? = some e := by
      rw [Sequence.take_succ, next]
      exact failed
    exact .draw first
  | step mem failed => exact .step (List.mem_cons_of_mem _ mem) failed

/-- Probing fails only if a call does. -/
theorem probe_raises {p : Probing ε α} {n : Nat} {s : Sequence} {source : Source}
    {failure : ScanFailure ε} (outcome : (probe p n s source).outcome = .error failure) :
    Raises p s source (probe p n s source).derived := by
  induction n generalizing s source failure with
  | zero => cases outcome
  | succ n ih =>
    cases probe_succ p n s source with
    | ended _ eq =>
      rw [eq] at outcome
      cases outcome
    | @undrawn e t b next eq =>
      have failed : (s.take 1 source).1.failure? = some e := by rw [Sequence.take_succ, next]
      rw [eq]
      exact .draw failed
    | @underived index e t b _ derived eq =>
      rw [eq]
      refine .step List.mem_cons_self fun made same makes => ?_
      rw [← same, makes.1] at derived
      cases derived
    | @undecided index artifact e t b _ derived accepted eq =>
      rw [eq]
      refine .step List.mem_cons_self fun made same makes => ?_
      rw [← same, makes.1] at derived
      cases derived
      rw [makes.2] at accepted
      cases accepted
    | stopped _ _ _ eq =>
      rw [eq] at outcome
      cases outcome
    | @goesOn made t b next _ _ eq =>
      rw [eq] at outcome ⊢
      dsimp only at outcome ⊢
      cases later : (probe p n t b).outcome with
      | ok rest =>
        rw [later] at outcome
        cases outcome
      | error e => exact (ih later).cons next

/-- Full probing follows its sequence: it derives every index that the sequence gives, once and in
order, and leaves the source where the sequence does. -/
theorem probe_of_full {p : Probing ε α} (full : p.Full) (n : Nat) (s : Sequence) (source : Source)
    (fine : (s.take n source).1.failure? = none) :
    ∃ probes log,
      probe p n s source =
        ⟨.ok probes, (s.take n source).1.indices, log, (s.take n source).2.2⟩ ∧
      probes.map (·.index) = (s.take n source).1.indices := by
  induction n generalizing s source with
  | zero => exact ⟨[], [], rfl, rfl⟩
  | succ n ih =>
    rw [Sequence.take_succ] at fine ⊢
    cases probe_succ p n s source with
    | ended next eq =>
      rw [next, eq]
      exact ⟨[], [], rfl, rfl⟩
    | undrawn next _ =>
      rw [next] at fine
      cases fine
    | @underived index _ _ _ _ derived _ =>
      obtain ⟨artifact, made⟩ := full.derives index
      rw [derived] at made
      cases made
    | @undecided _ artifact _ _ _ _ _ accepted _ =>
      obtain ⟨isHit, decided⟩ := full.decides artifact
      rw [accepted] at decided
      cases decided
    | stopped _ _ stops _ =>
      rw [full.goesOn, Bool.and_false] at stops
      cases stops
    | @goesOn made t b next _ _ eq =>
      rw [next] at fine ⊢
      obtain ⟨probes, log, later, indices⟩ := ih t b fine
      rw [eq, later]
      exact ⟨made :: probes, probeRecord t.mode made :: log, rfl, congrArg (made.index :: ·) indices⟩

/-- A full pass probes what a fresh sequence of its mode gives. -/
theorem resolve_of_full {p : Probing ε α} (full : p.Full) (mode : Mode) (source : Source)
    (fine : ((Sequence.start mode).take mode.count source).1.failure? = none) :
    ∃ probes log,
      resolve p mode source = ⟨.ok ⟨mode, probes⟩,
        ((Sequence.start mode).take mode.count source).1.indices, log,
        ((Sequence.start mode).take mode.count source).2.2⟩ ∧
      probes.map (·.index) = ((Sequence.start mode).take mode.count source).1.indices := by
  obtain ⟨probes, log, pass, indices⟩ :=
    probe_of_full full mode.count (Sequence.start mode) source fine
  refine ⟨probes, log ++ [summaryRecord ⟨mode, probes⟩], ?_, indices⟩
  have whole : (Sequence.start mode).remaining = mode.count := rfl
  simp only [resolve, whole, pass]

/-! ### All branches -/

/-- The passes over branches, in their order, each on the source as the pass before left it. -/
def passes (p : Int → Probing ε α) (mode : Mode) :
    List Int → Source → List (Scanned ε Nat (ScanResult α))
  | [], _ => []
  | branch :: rest, source =>
    let pass := resolve (p branch) mode source
    pass :: passes p mode rest pass.source

/-- A pass that had a result. -/
def Answered {κ β : Type} (pass : Scanned ε κ β) : Prop :=
  ∃ result, pass.outcome = .ok result

/-- No call of a pass fails, neither to draw nor to derive nor to accept. -/
def CallsSucceed (p : Probing ε α) (mode : Mode) (source : Source) : Prop :=
  ¬ Raises p (.start mode) source (resolve p mode source).derived

theorem resolve_answered {p : Probing ε α} {mode : Mode} {source : Source}
    (fine : CallsSucceed p mode source) : Answered (resolve p mode source) := by
  unfold CallsSucceed resolve at fine
  unfold resolve
  dsimp only at fine ⊢
  cases pass : (probe p (Sequence.start mode).remaining (Sequence.start mode) source).outcome with
  | ok probes => exact ⟨_, rfl⟩
  | error e =>
    rw [pass] at fine
    exact absurd (probe_raises pass) fine

section

variable {p : Int → Probing ε α} {mode : Mode} {branch : Int} {rest branches : List Int}
  {source : Source} {sofar : List (Int × ScanResult α)}

/-- Behind a pass with a result, the result is kept and the others follow on the source as that pass
left it. -/
theorem resolveMany_cons {result : ScanResult α}
    (outcome : (resolve (p branch) mode source).outcome = .ok result) :
    resolveMany p mode sofar (branch :: rest) source =
      let pass := resolve (p branch) mode source
      let later := resolveMany p mode (insertBranch branch result sofar) rest pass.source
      ⟨later.outcome, (pass.derived.map fun index => (branch, index)) ++ later.derived,
        branchRecord mode branch :: pass.log ++ later.log, later.source⟩ := by
  simp only [resolveMany, outcome]

/-- Passes of which each has a result have results together: for a branch that the list names, the
result of its last pass. -/
theorem resolveMany_of_answered (sofar : List (Int × ScanResult α))
    (answered : ∀ pass ∈ passes p mode branches source, Answered pass) :
    ∃ results, (resolveMany p mode sofar branches source).outcome = .ok results ∧
      ∀ b, match Command.lastPlace? b branches with
        | none => results.lookup b = sofar.lookup b
        | some k => ∃ pass result, (passes p mode branches source)[k]? = some pass ∧
            pass.outcome = .ok result ∧ results.lookup b = some result := by
  induction branches generalizing source sofar with
  | nil => exact ⟨sofar, rfl, fun b => rfl⟩
  | cons branch rest ih =>
    obtain ⟨result, outcome⟩ := answered _ List.mem_cons_self
    obtain ⟨results, later, kept⟩ := ih (insertBranch branch result sofar)
      fun pass mem => answered pass (List.mem_cons_of_mem _ mem)
    refine ⟨results, by rw [resolveMany_cons outcome]; exact later, fun b => ?_⟩
    have here := kept b
    rw [Command.lastPlace?]
    cases place : Command.lastPlace? b rest with
    | some k =>
      rw [place] at here
      simpa only [passes, List.getElem?_cons_succ] using here
    | none =>
      rw [place, Command.lookup_insertBranch] at here
      by_cases same : branch = b
      · rw [if_pos same.symm] at here
        simp only [if_pos same]
        exact ⟨_, result, rfl, outcome, here⟩
      · rw [if_neg (Ne.symm same)] at here
        simpa only [if_neg same] using here

end

theorem insertBranch_map {β γ : Type} (f : β → γ) (branch : Int) (result : β)
    (pairs : List (Int × β)) :
    (insertBranch branch result pairs).map (fun e => (e.1, f e.2)) =
      insertBranch branch (f result) (pairs.map fun e => (e.1, f e.2)) := by
  induction pairs with
  | nil => rfl
  | cons e rest ih =>
    obtain ⟨b, r⟩ := e
    rw [List.map_cons, insertBranch, insertBranch]
    split_ifs with same
    · rfl
    · rw [List.map_cons, ih]

/-- Full passes on a seeded source all have results. -/
theorem answered_of_full {p : Int → Probing ε α} (full : ∀ b, (p b).Full) (mode : Mode)
    (branches : List Int) (g : Twister) :
    ∀ pass ∈ passes p mode branches (.seeded g),
      ∃ result, pass.outcome = .ok result ∧ pass.derived = result.probes.map (·.index) := by
  induction branches generalizing g with
  | nil => simp [passes]
  | cons branch rest ih =>
    obtain ⟨fine, h, source⟩ := (Sequence.start mode).take_of_seeded mode.count g
    obtain ⟨probes, log, pass, indices⟩ := resolve_of_full (full branch) mode (.seeded g) fine
    rw [source] at pass
    intro other mem
    simp only [passes, pass] at mem
    rcases List.mem_cons.mp mem with rfl | mem
    · exact ⟨_, rfl, indices.symm⟩
    · exact ih h other mem

/-- Full passes on a seeded source all have results, and the results are kept in the order of the
branches: for a branch that the list names, the result of its last pass, whose calls to derive are
the indices of the result. -/
theorem resolveMany_of_full {p : Int → Probing ε α} (full : ∀ b, (p b).Full) (mode : Mode)
    (branches : List Int) (g : Twister) (sofar : List (Int × ScanResult α)) :
    ∃ results, (resolveMany p mode sofar branches (.seeded g)).outcome = .ok results ∧
      ∀ b, match Command.lastPlace? b branches with
        | none => results.lookup b = sofar.lookup b
        | some k => ∃ pass result, (passes p mode branches (.seeded g))[k]? = some pass ∧
            pass.outcome = .ok result ∧ results.lookup b = some result ∧
            pass.derived = result.probes.map (·.index) := by
  have each := answered_of_full full mode branches g
  obtain ⟨results, outcome, kept⟩ := resolveMany_of_answered sofar
    fun pass mem => ⟨_, (each pass mem).choose_spec.1⟩
  refine ⟨results, outcome, fun b => ?_⟩
  have here := kept b
  split at here
  · exact here
  · obtain ⟨pass, result, at_k, made, found⟩ := here
    obtain ⟨other, made', derived⟩ := each pass (List.mem_of_getElem? at_k)
    obtain rfl : result = other := Except.ok.inj (made.symm.trans made')
    exact ⟨pass, result, at_k, made, found, derived⟩

end Scan

end IndexScan
