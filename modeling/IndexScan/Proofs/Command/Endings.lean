import IndexScan.Command.Outcome
import IndexScan.Proofs.Report.Said

/-!
How runs end on a terminal. A run that hands nothing to the console, or only texts that are written
past it, ends on every terminal alike (`on_of_taken`); any other ends as on a terminal that takes
everything as long as the terminal takes each item, and breaks off at the first that it does not
take (`failure?_on_eq_none_iff`). So a run that is done may still end badly
(`exitCode_on_eq_success_iff`).
-/

namespace IndexScan.Command.Outcome

open Console

variable {o : Outcome} {t : Terminal} {said : Report.Said} {failure : Failure}

/-! ### Any outcome -/

/-- A run does not break off if the terminal takes all of it and nothing else stops it. -/
theorem failure?_on_eq_none_iff :
    (o.on t).failure? = none ↔ (∀ item ∈ o.items, t.Takes item) ∧ o.broken? = none := by
  rw [← Terminal.printAll_eq_none_iff]
  show ((t.printAll o.items).2.map _).or o.broken? = none ↔ _
  rw [Option.or_eq_none_iff, Option.map_eq_none_iff]

theorem exitCode_on_of_broken (broken : (o.on t).failure? = some failure) :
    (o.on t).exitCode = brokenCode := by
  show (if (o.on t).failure?.isSome then brokenCode else o.code) = _
  rw [broken]
  rfl

theorem exitCode_on_of_unbroken (unbroken : (o.on t).failure? = none) :
    (o.on t).exitCode = o.code := by
  show (if (o.on t).failure?.isSome then brokenCode else o.code) = _
  rw [unbroken]
  rfl

/-- A run is done if it is to end well and nothing but the terminal stops it. -/
structure Done (o : Outcome) : Prop where
  code : o.code = Report.successCode
  unbroken : o.broken? = none

instance (o : Outcome) : Decidable o.Done :=
  decidable_of_iff (o.code = Report.successCode ∧ o.broken? = none)
    ⟨fun done => ⟨done.1, done.2⟩, fun done => ⟨done.code, done.unbroken⟩⟩

/-- A run ends well if it is done and the terminal takes all that it hands over. -/
theorem exitCode_on_eq_success_iff : (o.on t).exitCode = Report.successCode ↔
    o.Done ∧ ∀ item ∈ o.items, t.Takes item := by
  cases broken : (o.on t).failure? with
  | some failure =>
    rw [exitCode_on_of_broken broken]
    refine iff_of_false (by decide) fun ⟨done, taken⟩ => ?_
    rw [failure?_on_eq_none_iff.mpr ⟨taken, done.unbroken⟩] at broken
    cases broken
  | none =>
    obtain ⟨taken, unbroken⟩ := failure?_on_eq_none_iff.mp broken
    rw [exitCode_on_of_unbroken broken]
    exact ⟨fun code => ⟨⟨code, unbroken⟩, taken⟩, fun done => done.1.code⟩

/-- A run that is done ends badly only where the terminal does not take something. -/
theorem Done.exitCode_on (done : o.Done) : (o.on t).exitCode = Report.successCode ∨
    ∃ fault, (o.on t).failure? = some (.report (.console fault)) := by
  cases broken : (o.on t).failure? with
  | none => exact .inl ((exitCode_on_of_unbroken broken).trans done.code)
  | some failure =>
    have refused : ((t.printAll o.items).2.map fun fault => Failure.report (.console fault)).or
      o.broken? = some failure := broken
    rw [done.unbroken, Option.or_none, Option.map_eq_some_iff] at refused
    obtain ⟨fault, -, rfl⟩ := refused
    exact .inr ⟨fault, rfl⟩

/-- What is logged does not count. -/
theorem Done.withLog (done : o.Done) (log : List LogRecord) :
    ({ o with log := log } : Outcome).Done :=
  ⟨done.code, done.unbroken⟩

theorem not_done_broken (failure : Failure) : ¬ (broken failure).Done := fun done =>
  absurd done.unbroken (by simp [broken])

/-- A terminal that has a size and every character takes harmless lines. -/
theorem takes_ofLines {code : Int} {lines : List String} (willing : t.Willing)
    (safe : ∀ line ∈ lines, Markup.Safe line.toList) :
    ∀ item ∈ (ofLines code lines).items, t.Takes item :=
  List.forall_mem_map.mpr fun line mem => willing.takes_marked (safe line mem)

theorem done_ofLines_iff {code : Int} {lines : List String} :
    (ofLines code lines).Done ↔ code = Report.successCode :=
  ⟨fun done => done.code, fun code => ⟨code, rfl⟩⟩

/-! ### Outcomes of one kind -/

theorem ended_on (code : Int) (text : String) (t : Terminal) :
    (ended code text).on t = ⟨code, text, none, []⟩ := by
  simp [on, ended, Terminal.printAll_plain]

/-- A run that reports breaks off with its report. -/
theorem failure?_ofReport (said : Report.Said) (t : Terminal) :
    ((ofReport said).on t).failure? =
      ((said.andThen Report.finish).failureOn? t).map Failure.report := by
  show ((t.printAll (said.andThen Report.finish).items).2.map _).or _ = _
  rw [Report.Said.failureOn?, Option.map_or, Option.map_map]
  rfl

end IndexScan.Command.Outcome
