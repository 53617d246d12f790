import IndexScan.Proofs.Settings.Layering
import IndexScan.Settings.Session
import Mathlib.Data.List.Induction

/-!
Settings in force over whole histories. Whatever was done to a session, the settings in force are
those that were last put in force by hand, or else those that were loaded when settings were first
asked for since the last reset; nothing but assignments has changed them since. Whoever asks is
given them, unless there are none and the settings file is nested too deep to load any
(`session_follows`).

A step that neither puts settings in force nor drops them keeps those that there are, but for what
it assigns (`act_kept`); if there are none, it loads them if it asks for them (`act_loaded`) and
leaves it at that if it does not, or if loading gives out (`act_idle`). `InForce` says what a
history makes of these three.
-/

namespace IndexScan.Session

open Directive

/-! ### Steps -/

/-- What can be done with a session. -/
inductive Step where
  /-- Something else stands in the place of the settings file, or nothing. -/
  | replaceFile (file : FileState)
  | setVariable (name : String) (value? : Option String)
  | load
  | get
  | configure (settings : Settings)
  /-- Values are assigned to the settings in force. -/
  | assign (values : Settings.Layer)
  | reset
  | save
  /-- The mode of the settings in force is asked for. -/
  | resolveMode
  deriving DecidableEq, Repr

/-- What a step gives. -/
inductive Answer where
  | done
  | loaded (settings : Settings)
  /-- The settings in force, and the number that they carry. -/
  | current (number : Nat) (settings : Settings)
  | unsaved (error : Settings.SaveError)
  | mode (resolved : Except DirectiveError Mode)
  /-- The settings file is nested too deep. -/
  | gaveOut (holder : Json.Holder)
  deriving DecidableEq, Repr

/-- What a step gives that needs settings to be loaded; where loading gives out, it does nothing. -/
def answer {α : Type} (s : Session) (result : Except Json.Holder α)
    (given : α → Answer × Session × List LogRecord) : Answer × Session × List LogRecord :=
  match result with
  | .ok a => given a
  | .error holder => (.gaveOut holder, s, [])

/-- Does a step: what it gives, the session behind it, and what is logged. -/
def act (s : Session) : Step → Answer × Session × List LogRecord
  | .replaceFile file => (.done, { s with file := file }, [])
  | .setVariable name value? => (.done, s.setVariable name value?, [])
  | .load => s.answer s.load fun (settings, log) => (.loaded settings, s, log)
  | .get => s.answer s.get fun ((number, settings), s, log) => (.current number settings, s, log)
  | .configure settings => (.done, s.configure settings, [])
  | .assign values => s.answer (s.change (·.overlay values)) fun (s, log) => (.done, s, log)
  | .reset => (.done, s.reset, [])
  | .save => s.answer s.save fun (error?, s, log) => (error?.elim .done .unsaved, s, log)
  | .resolveMode =>
    s.answer s.get fun ((_, settings), s, log) => (.mode settings.resolverMode, s, log)

/-- The session after a history. -/
def after (s : Session) (steps : List Step) : Session :=
  steps.foldl (fun s step => (s.act step).2.1) s

/-- Whether a step puts other settings in force, or drops those that are. -/
def Step.renews : Step → Bool
  | configure _ => true
  | reset => true
  | _ => false

/-- Whether a step asks for the settings in force. -/
def Step.asks : Step → Bool
  | get => true
  | assign _ => true
  | save => true
  | resolveMode => true
  | _ => false

/-- Settings with what a step assigns to them. -/
def Step.onto (step : Step) (settings : Settings) : Settings :=
  match step with
  | assign values => settings.overlay values
  | _ => settings

/-- Settings with what steps assign to them, one after the other. -/
def assigned (settings : Settings) (steps : List Step) : Settings :=
  steps.foldl (fun settings step => step.onto settings) settings

/-- A step of a session that neither puts settings in force by hand nor drops them, and that does not
ask for any or asks in vain. -/
def Passes (s : Session) (step : Step) : Prop :=
  step.renews = false ∧ (step.asks = true → ∃ holder, s.load = .error holder)

/-- Since the last reset of a history, or since its start, no settings were put in force by hand and
none were asked for but in vain. -/
inductive Idle (start : Session) : List Step → Prop where
  | nil : Idle start []
  | reset (steps : List Step) : Idle start (steps ++ [.reset])
  | snoc {steps : List Step} {step : Step} (idle : Idle start steps)
      (passes : (start.after steps).Passes step) : Idle start (steps ++ [step])

/-- The settings that a history leaves in force, and their number: those that were last put in force
by hand, if nothing was dropped since; else those that were loaded by the first step that asked for
any, and not in vain, since the last reset, or since the start. Either way with what was assigned
since. -/
inductive InForce (start : Session) : List Step → Nat → Settings → Prop where
  | configured {before since : List Step} {settings : Settings}
      (still : ∀ step ∈ since, step.renews = false) :
      InForce start (before ++ .configure settings :: since) (start.after before).issued
        (assigned settings since)
  | loaded {before since : List Step} {ask : Step} {settings : Settings} {log : List LogRecord}
      (idle : Idle start before) (asks : ask.asks = true)
      (found : (start.after before).load = .ok (settings, log))
      (still : ∀ step ∈ since, step.renews = false) :
      InForce start (before ++ ask :: since) (start.after before).issued
        (assigned settings (ask :: since))

/-! ### What a step does to the settings in force -/

theorem after_append (s : Session) (steps more : List Step) :
    s.after (steps ++ more) = (s.after steps).after more :=
  List.foldl_append

theorem after_snoc (s : Session) (steps : List Step) (step : Step) :
    s.after (steps ++ [step]) = ((s.after steps).act step).2.1 :=
  after_append s steps [step]

theorem assigned_snoc (settings : Settings) (steps : List Step) (step : Step) :
    assigned settings (steps ++ [step]) = step.onto (assigned settings steps) :=
  List.foldl_append

section

variable {s : Session} {step : Step} {number : Nat} {settings : Settings} {log : List LogRecord}
  {holder : Json.Holder}

theorem setVariable_inForce (s : Session) (name : String) (value? : Option String) :
    (s.setVariable name value?).inForce = s.inForce ∧
      (s.setVariable name value?).issued = s.issued := by
  unfold Session.setVariable
  split_ifs
  · exact ⟨rfl, rfl⟩
  · exact ⟨rfl, rfl⟩
  · exact ⟨rfl, rfl⟩

theorem get_of_current (current : s.inForce = some (number, settings)) :
    s.get = .ok ((number, settings), s, []) := by
  rw [Session.get, current]

theorem get_of_loaded (none : s.inForce = none) (loaded : s.load = .ok (settings, log)) :
    s.get = .ok ((s.issued, settings), s.configure settings, log) := by
  rw [Session.get, none]
  simp only [loaded]
  rfl

theorem get_of_gaveOut (none : s.inForce = none) (gaveOut : s.load = .error holder) :
    s.get = .error holder := by
  rw [Session.get, none]
  simp only [gaveOut]
  rfl

/-- Settings in force stay, with their number, but for what a step assigns to them. -/
theorem act_kept (current : s.inForce = some (number, settings)) (still : step.renews = false) :
    (s.act step).2.1.inForce = some (number, step.onto settings) ∧
      (s.act step).2.1.issued = s.issued := by
  have got := get_of_current current
  cases step with
  | replaceFile file => exact ⟨current, rfl⟩
  | setVariable name value? =>
    obtain ⟨same, issued⟩ := setVariable_inForce s name value?
    exact ⟨same.trans current, issued⟩
  | load =>
    simp only [act]
    cases s.load <;> exact ⟨current, rfl⟩
  | configure other => cases still
  | reset => cases still
  | get =>
    simp only [act, got]
    exact ⟨current, rfl⟩
  | assign values =>
    simp only [act, change, got]
    exact ⟨rfl, rfl⟩
  | save =>
    simp only [act, save, got]
    exact ⟨current, rfl⟩
  | resolveMode =>
    simp only [act, got]
    exact ⟨current, rfl⟩

/-- Where no settings are in force, a step that asks for them loads them, and then does its own. -/
theorem act_loaded (none : s.inForce = none) (asks : step.asks = true)
    (loaded : s.load = .ok (settings, log)) :
    (s.act step).2.1.inForce = some (s.issued, step.onto settings) ∧
      (s.act step).2.1.issued = s.issued + 1 := by
  have got := get_of_loaded none loaded
  cases step with
  | get =>
    simp only [act, got]
    exact ⟨rfl, rfl⟩
  | assign values =>
    simp only [act, change, got]
    exact ⟨rfl, rfl⟩
  | save =>
    simp only [act, save, got]
    exact ⟨rfl, rfl⟩
  | resolveMode =>
    simp only [act, got]
    exact ⟨rfl, rfl⟩
  | _ => cases asks

/-- Where none are in force and loading gives out, a step that asks for them does nothing. -/
theorem act_gaveOut (none : s.inForce = none) (asks : step.asks = true)
    (gaveOut : s.load = .error holder) : s.act step = (.gaveOut holder, s, []) := by
  have got := get_of_gaveOut none gaveOut
  cases step with
  | get => simp only [act, got, answer]
  | assign values =>
    simp only [act, change, got]
    rfl
  | save =>
    simp only [act, save, got]
    rfl
  | resolveMode => simp only [act, got, answer]
  | _ => cases asks

/-- Where no settings are in force, a step that neither puts any in force nor asks for them but in
vain leaves it at that. -/
theorem act_idle (none : s.inForce = none) (passes : s.Passes step) :
    (s.act step).2.1.inForce = Option.none ∧ (s.act step).2.1.issued = s.issued := by
  obtain ⟨still, vain⟩ := passes
  by_cases asks : step.asks = true
  · obtain ⟨holder, gaveOut⟩ := vain asks
    rw [act_gaveOut none asks gaveOut]
    exact ⟨none, rfl⟩
  · cases step with
    | replaceFile file => exact ⟨none, rfl⟩
    | setVariable name value? =>
      obtain ⟨same, issued⟩ := setVariable_inForce s name value?
      exact ⟨same.trans none, issued⟩
    | load =>
      simp only [act]
      cases s.load <;> exact ⟨none, rfl⟩
    | configure other => cases still
    | reset => cases still
    | _ => exact absurd rfl asks

/-- What a step does to the settings in force, and to the numbers given out. -/
inductive Effect (s : Session) (step : Step) (t : Session) : Prop where
  | kept {number : Nat} {settings : Settings} (still : step.renews = false)
      (current : s.inForce = some (number, settings))
      (now : t.inForce = some (number, step.onto settings)) (issued : t.issued = s.issued)
  | loaded {settings : Settings} {log : List LogRecord} (none : s.inForce = none)
      (asks : step.asks = true) (found : s.load = .ok (settings, log))
      (now : t.inForce = some (s.issued, step.onto settings)) (issued : t.issued = s.issued + 1)
  | idle (passes : s.Passes step) (none : s.inForce = none)
      (now : t.inForce = Option.none) (issued : t.issued = s.issued)
  | configured {settings : Settings} (is : step = .configure settings)
      (now : t.inForce = some (s.issued, settings)) (issued : t.issued = s.issued + 1)
  | dropped (is : step = .reset) (now : t.inForce = none) (issued : t.issued = s.issued)

theorem act_effect (s : Session) (step : Step) : Effect s step (s.act step).2.1 := by
  by_cases renews : step.renews = true
  · cases step with
    | configure settings => exact .configured rfl rfl rfl
    | reset => exact .dropped rfl rfl rfl
    | _ => cases renews
  · have still : step.renews = false := by simpa using renews
    rcases current : s.inForce with _ | ⟨number, settings⟩
    · by_cases passes : s.Passes step
      · obtain ⟨now, issued⟩ := act_idle current passes
        exact .idle passes current now issued
      · obtain ⟨asks, found⟩ : step.asks = true ∧ ¬ ∃ holder, s.load = .error holder := by
          simpa only [Passes, still, true_and, Classical.not_imp] using passes
        cases loaded : s.load with
        | error holder => exact absurd ⟨holder, loaded⟩ found
        | ok result =>
          obtain ⟨now, issued⟩ := act_loaded current asks loaded
          exact .loaded current asks loaded now issued
    · obtain ⟨now, issued⟩ := act_kept current still
      exact .kept still current now issued

/-! ### What a history does -/

theorem after_kept (current : s.inForce = some (number, settings)) {since : List Step}
    (still : ∀ step ∈ since, step.renews = false) :
    (s.after since).inForce = some (number, assigned settings since) ∧
      (s.after since).issued = s.issued := by
  induction since using List.reverseRecOn with
  | nil => exact ⟨current, rfl⟩
  | append_singleton since step ih =>
    obtain ⟨kept, issued⟩ := ih fun earlier mem => still earlier (by simp [mem])
    obtain ⟨kept', issued'⟩ := act_kept kept (still step (by simp))
    rw [after_snoc, assigned_snoc]
    exact ⟨kept', issued'.trans issued⟩

end

section

variable {start : Session} {steps : List Step} {number : Nat} {settings : Settings}

theorem Idle.inForce (idle : Idle start steps) (unset : start.inForce = none) :
    (start.after steps).inForce = none := by
  induction idle with
  | nil => exact unset
  | reset steps =>
    rw [after_snoc]
    rfl
  | snoc _ passes ih =>
    rw [after_snoc]
    exact (act_idle ih passes).1

/-- A step that renews nothing only adds what it assigns. -/
theorem InForce.snoc (inForce : InForce start steps number settings) {step : Step}
    (still : step.renews = false) :
    InForce start (steps ++ [step]) number (step.onto settings) := by
  have grown {since : List Step} (before : ∀ step ∈ since, step.renews = false) :
      ∀ other ∈ since ++ [step], other.renews = false := by
    intro other mem
    rcases List.mem_append.mp mem with earlier | last
    · exact before other earlier
    · rw [List.mem_singleton.mp last]
      exact still
  cases inForce with
  | @configured before since given kept =>
    rw [List.append_assoc, List.cons_append, ← assigned_snoc]
    exact .configured (grown kept)
  | @loaded before since ask settings log idle asks found kept =>
    rw [List.append_assoc, List.cons_append, ← assigned_snoc, List.cons_append]
    exact .loaded idle asks found (grown kept)

/-- What the history says is in force is so in the session behind it. -/
theorem InForce.inForce (inForce : InForce start steps number settings)
    (unset : start.inForce = none) : (start.after steps).inForce = some (number, settings) := by
  cases inForce with
  | @configured before since given still =>
    rw [after_append]
    exact (after_kept (s := ((start.after before).configure given)) rfl still).1
  | @loaded before since ask settings log idle asks found still =>
    rw [after_append]
    exact (after_kept (act_loaded (idle.inForce unset) asks found).1 still).1

/-- Behind every history either no settings are in force, and it is idle, or it says which are. -/
theorem after_cases (unset : start.inForce = none) (steps : List Step) :
    ((start.after steps).inForce = none ∧ Idle start steps) ∨
      ∃ number settings, (start.after steps).inForce = some (number, settings) ∧
        InForce start steps number settings := by
  induction steps using List.reverseRecOn with
  | nil => exact .inl ⟨unset, .nil⟩
  | append_singleton steps step ih =>
    have alone : ∀ step ∈ ([] : List Step), step.renews = false := by simp
    rw [after_snoc]
    cases act_effect (start.after steps) step with
    | kept still current now _ =>
      rcases ih with ⟨none, -⟩ | ⟨number, settings, before, inForce⟩
      · rw [current] at none
        cases none
      · rw [current] at before
        cases before
        exact .inr ⟨_, _, now, inForce.snoc still⟩
    | loaded none asks found now _ =>
      rcases ih with ⟨-, idle⟩ | ⟨number, settings, before, -⟩
      · exact .inr ⟨_, _, now, .loaded idle asks found alone⟩
      · rw [none] at before
        cases before
    | idle passes none now _ =>
      rcases ih with ⟨-, idle⟩ | ⟨number, settings, before, -⟩
      · exact .inl ⟨now, idle.snoc passes⟩
      · rw [none] at before
        cases before
    | @configured settings is now _ =>
      rw [is] at now ⊢
      exact .inr ⟨_, _, now, .configured alone⟩
    | dropped is now _ =>
      rw [is] at now ⊢
      exact .inl ⟨now, .reset steps⟩

/-- A history says which settings are in force behind it. -/
theorem inForce_iff (unset : start.inForce = none) :
    InForce start steps number settings ↔
      (start.after steps).inForce = some (number, settings) := by
  constructor
  · intro inForce
    exact inForce.inForce unset
  · intro current
    rcases after_cases unset steps with ⟨none, -⟩ | ⟨m, t, found, inForce⟩
    · rw [none] at current
      cases current
    · rw [found] at current
      cases current
      exact inForce

end

/-! ### Numbers -/

section

variable {m number : Nat} {s t : Session} {step : Step} {settings : Settings}

theorem Effect.issued_le (effect : Effect s step t) : s.issued ≤ t.issued := by
  cases effect with
  | kept _ _ _ issued => omega
  | loaded _ _ _ _ issued => omega
  | idle _ _ _ issued => omega
  | configured _ _ issued => omega
  | dropped _ _ issued => omega

/-- Behind a step the settings in force carry a number that was just given out, or the one that was
in force before. -/
theorem Effect.number_cases (effect : Effect s step t) (found : t.inForce = some (number, settings)) :
    (number = s.issued ∧ t.issued = s.issued + 1) ∨
      t.issued = s.issued ∧ ∃ before, s.inForce = some (number, before) := by
  cases effect with
  | kept _ current now issued =>
    rw [now] at found
    cases found
    exact .inr ⟨issued, _, current⟩
  | loaded _ _ _ now issued =>
    rw [now] at found
    cases found
    exact .inl ⟨rfl, issued⟩
  | idle _ _ now _ =>
    rw [now] at found
    cases found
  | configured _ now issued =>
    rw [now] at found
    cases found
    exact .inl ⟨rfl, issued⟩
  | dropped _ now _ =>
    rw [now] at found
    cases found

/-- No number below `m` is in force, nor will be, and the numbers in force have been given out. -/
structure From (m : Nat) (s : Session) : Prop where
  issued : m ≤ s.issued
  inForce : ∀ number settings, s.inForce = some (number, settings) →
    m ≤ number ∧ number < s.issued

theorem From.act (above : From m s) (step : Step) : From m (s.act step).2.1 := by
  have effect := act_effect s step
  refine ⟨above.issued.trans effect.issued_le, fun number settings found => ?_⟩
  rcases effect.number_cases found with ⟨new, issued⟩ | ⟨issued, before, current⟩
  · have least := above.issued
    omega
  · rw [issued]
    exact above.inForce number before current

theorem From.after (above : From m s) (steps : List Step) : From m (s.after steps) := by
  induction steps using List.reverseRecOn with
  | nil => exact above
  | append_singleton steps step ih =>
    rw [after_snoc]
    exact ih.act step

/-- Behind a step that renews, all numbers are new. -/
theorem from_of_renews (s : Session) (renews : step.renews = true) :
    From s.issued (s.act step).2.1 := by
  have effect := act_effect s step
  refine ⟨effect.issued_le, fun number settings found => ?_⟩
  rcases effect.number_cases found with ⟨new, issued⟩ | ⟨-, before, current⟩
  · omega
  · cases step with
    | configure given =>
      cases found
      exact ⟨Nat.le_refl _, Nat.lt_succ_self _⟩
    | reset => cases found
    | _ => cases renews

theorem issued_le_after (s : Session) (steps : List Step) : s.issued ≤ (s.after steps).issued := by
  induction steps using List.reverseRecOn with
  | nil => exact Nat.le_refl _
  | append_singleton steps step ih =>
    rw [after_snoc]
    exact ih.trans (act_effect _ step).issued_le

/-- Behind a history in which some step renews, all numbers are new. -/
theorem from_of_mem {steps : List Step} (mem : step ∈ steps) (renews : step.renews = true)
    (s : Session) : From s.issued (s.after steps) := by
  obtain ⟨before, since, rfl⟩ := List.append_of_mem mem
  have new := (from_of_renews (s.after before) renews).after since
  have all : s.after (before ++ step :: since) = (((s.after before).act step).2.1).after since :=
    after_append s before (step :: since)
  rw [all]
  exact ⟨(issued_le_after s before).trans new.issued, fun number settings found =>
    ⟨(issued_le_after s before).trans (new.inForce number settings found).1,
      (new.inForce number settings found).2⟩⟩

/-! ### Asking -/

/-- Asking gives the settings that are in force then. -/
theorem act_get_iff : (s.act .get).1 = .current number settings ↔
    (s.act .get).2.1.inForce = some (number, settings) := by
  rcases current : s.inForce with _ | ⟨n, given⟩
  · cases loaded : s.load with
    | error holder =>
      rw [act_gaveOut current rfl loaded]
      simp [current]
    | ok result =>
      simp only [act, get_of_loaded current loaded, answer, configure]
      simp
  · simp only [act, get_of_current current, answer, current]
    simp

/-- The number that is asked for next is the one that was asked for before exactly when no settings
were put in force or dropped in between. -/
theorem number_eq_iff {between : List Step} {n : Nat} {later : Settings} (fresh : From 0 s)
    (first : (s.act .get).1 = .current m settings)
    (second : ((s.after (.get :: between)).act .get).1 = .current n later) :
    n = m ↔ ∀ step ∈ between, step.renews = false := by
  have asked := act_get_iff.mp first
  have askedLater := act_get_iff.mp second
  have given := (fresh.act .get).inForce _ _ asked
  have along : s.after (.get :: between) = ((s.act .get).2.1).after between := rfl
  rw [along] at askedLater
  constructor
  · intro same step mem
    by_contra renews
    have renews : step.renews = true := by simpa using renews
    have new := (from_of_mem mem renews (s.act .get).2.1).act .get
    have least := (new.inForce _ _ askedLater).1
    omega
  · intro still
    have asksOnly : Step.get.renews = false := rfl
    have kept := (act_kept (after_kept asked still).1 asksOnly).1
    rw [askedLater] at kept
    exact congrArg Prod.fst (Option.some.inj kept)

/-- Asking is in vain exactly where no settings are in force and loading gives out. -/
theorem act_get_gaveOut_iff {holder : Json.Holder} : (s.act .get).1 = .gaveOut holder ↔
    s.inForce = none ∧ s.load = .error holder := by
  rcases current : s.inForce with _ | ⟨n, given⟩
  · cases loaded : s.load with
    | error other =>
      rw [act_gaveOut current rfl loaded]
      simp
    | ok result =>
      simp only [act, get_of_loaded current loaded, answer]
      simp
  · simp only [act, get_of_current current, answer]
    simp

/-- Whoever asks is given settings, unless it is in vain. -/
theorem act_get_cases (s : Session) : (∃ holder, (s.act .get).1 = .gaveOut holder) ∨
    ∃ number settings, (s.act .get).1 = .current number settings := by
  simp only [act]
  cases s.get with
  | error holder => exact .inl ⟨holder, rfl⟩
  | ok result => exact .inr ⟨_, _, rfl⟩

/-- Where settings are given, their mode is what is asked for. -/
theorem act_resolveMode (given : (s.act .get).1 = .current number settings) :
    (s.act .resolveMode).1 = .mode settings.resolverMode := by
  simp only [act] at given ⊢
  cases got : s.get with
  | error holder =>
    rw [got] at given
    cases given
  | ok result =>
    rw [got] at given
    cases given
    rfl

end

/-! ### Levels -/

section

variable {s t : Session} {current : Nat × Settings} {log : List LogRecord}

theorem get_levels (got : s.get = .ok (current, t, log)) : t.levels = s.levels := by
  rcases before : s.inForce with _ | ⟨number, settings⟩
  · cases loaded : s.load with
    | error holder =>
      rw [get_of_gaveOut before loaded] at got
      cases got
    | ok result =>
      rw [get_of_loaded before loaded] at got
      cases got
      rfl
  · rw [get_of_current before] at got
    cases got
    rfl

theorem act_levels (s : Session) (step : Step) : (s.act step).2.1.levels = s.levels := by
  cases step with
  | setVariable name value? =>
    simp only [act, Session.setVariable]
    split_ifs <;> rfl
  | load =>
    simp only [act]
    cases s.load <;> rfl
  | get =>
    simp only [act]
    cases got : s.get with
    | error holder => rfl
    | ok result => exact get_levels got
  | assign values =>
    simp only [act, change]
    cases got : s.get with
    | error holder => rfl
    | ok result =>
      obtain ⟨current, t, log⟩ := result
      have same : t.levels = s.levels := get_levels got
      exact same
  | save =>
    simp only [act, save]
    cases got : s.get with
    | error holder => rfl
    | ok result =>
      obtain ⟨current, t, log⟩ := result
      have same : t.levels = s.levels := get_levels got
      exact same
  | resolveMode =>
    simp only [act]
    cases got : s.get with
    | error holder => rfl
    | ok result => exact get_levels got
  | _ => rfl

theorem after_levels (s : Session) (steps : List Step) : (s.after steps).levels = s.levels := by
  induction steps using List.reverseRecOn with
  | nil => rfl
  | append_singleton steps step ih => rw [after_snoc, act_levels, ih]

end

/-! ### Histories -/

/-- Where loading gives out and no settings are in force, the history is idle. -/
theorem idle_iff {start : Session} (unset : start.inForce = none) (steps : List Step) :
    Idle start steps ↔ (start.after steps).inForce = none := by
  refine ⟨fun idle => idle.inForce unset, fun none => ?_⟩
  rcases after_cases unset steps with ⟨-, idle⟩ | ⟨number, settings, found, -⟩
  · exact idle
  · rw [none] at found
    cases found

/-- In every history of a session, whoever asks for the settings in force is given the ones that the
history says: those put in force by hand, or those loaded when they were first asked for, with what
was assigned since. Two that ask are given the same object, which the number tells, exactly when no
settings were put in force or dropped in between. And the mode of the settings in force is refused
exactly when it is no directive. Asking is in vain where the history leaves no settings in force and
the file is nested too deep for the levels that there are, and only there. -/
theorem session_follows (levels : Levels) (file : FileState) (environment : Environment)
    (steps : List Step) :
    let start := Session.start levels file environment
    (∀ holder, ((start.after steps).act .get).1 = .gaveOut holder ↔
      Idle start steps ∧ Settings.GivesOut levels (start.after steps).file holder) ∧
    ((∀ holder, ((start.after steps).act .get).1 ≠ .gaveOut holder) →
      ∃ number settings, ((start.after steps).act .get).1 = .current number settings ∧
        (∀ m t, InForce start (steps ++ [.get]) m t ↔ m = number ∧ t = settings) ∧
        (∀ before between, steps = before ++ .get :: between →
          ∀ m t, ((start.after before).act .get).1 = .current m t →
            (number = m ↔ ∀ step ∈ between, step.renews = false)) ∧
        ((∃ e, ((start.after steps).act .resolveMode).1 = .mode (.error e)) ↔
          ¬ IsDirective settings.mode)) := by
  intro start
  have unset : start.inForce = none := rfl
  refine ⟨fun holder => ?_, fun notVain => ?_⟩
  · have same : (start.after steps).levels = levels := after_levels start steps
    rw [act_get_gaveOut_iff, idle_iff unset, Session.load, same, Settings.loadWithin_eq_error_iff]
  · obtain ⟨number, settings, got⟩ :=
      (act_get_cases (start.after steps)).resolve_left fun ⟨holder, vain⟩ => notVain holder vain
    refine ⟨number, settings, got, fun m t => ?_, ?_, ?_⟩
    · rw [inForce_iff unset, after_snoc, act_get_iff.mp got, Option.some_inj, Prod.mk.injEq]
      exact and_congr eq_comm eq_comm
    · rintro before between rfl m t first
      have fresh : From 0 start := ⟨Nat.le_refl _, fun _ _ found => by cases found⟩
      rw [after_append] at got
      exact number_eq_iff (fresh.after before) first got
    · rw [act_resolveMode got, Settings.resolverMode, IsDirective]
      cases parse settings.mode with
      | ok mode => simp
      | error e => simp

/-- A session that starts without a file, and in which settings are asked for and changed, a variable
is set, and the settings are dropped. -/
def droppingSteps : List Step :=
  [.get, .assign ⟨some "last3", none⟩, .setVariable "KEYSCAN_SEED" (some "7"), .reset]

/-- Asked for again, settings are other ones there, loaded with the variable that was set, and what
was assigned to the ones before is gone with them. -/
theorem session_follows_across_reset :
    let start := Session.start (some 2) .absent ⟨none, none, "config"⟩
    (∀ holder, ((start.after droppingSteps).act .get).1 ≠ .gaveOut holder) ∧
      ((start.after droppingSteps).act .get).1 = .current 1 ⟨"first20", some 7⟩ ∧
      InForce start (droppingSteps ++ [.get]) 1 ⟨"first20", some 7⟩ ∧
      (start.act .get).1 = .current 0 ⟨"first20", none⟩ ∧
      ¬ ∀ step ∈ droppingSteps.tail, step.renews = false := by
  intro start
  have first : (start.act .get).1 = .current 0 ⟨"first20", none⟩ := rfl
  have got : ((start.after droppingSteps).act .get).1 = .current 1 ⟨"first20", some 7⟩ := by
    decide +kernel
  have given : ∀ holder, ((start.after droppingSteps).act .get).1 ≠ .gaveOut holder := by
    intro holder
    rw [got]
    exact nofun
  obtain ⟨number, settings, found, inForce, same, -⟩ :=
    (session_follows (some 2) .absent ⟨none, none, "config"⟩ droppingSteps).2 given
  rw [got] at found
  cases found
  have other := same [] droppingSteps.tail rfl 0 _ first
  exact ⟨given, got, (inForce _ _).mpr ⟨rfl, rfl⟩, first, mt other.mpr (by decide)⟩

/-- Where the file opens one array more than there are levels, asking is in vain and nothing comes
into force: what is asked for later is loaded from the file that stands there then. -/
theorem get_gives_out :
    let start := Session.start (some 950) (.ofText (List.replicate 951 '[')) ⟨none, none, "config"⟩
    (start.act .get).1 = .gaveOut .array ∧
      ((start.after [.get, .replaceFile .absent]).act .get).1 =
        .current 0 ⟨"first20", none⟩ := by
  intro start
  have vain : start.load = .error .array :=
    Settings.loadWithin_eq_error_iff.mpr (Settings.givesOut_brackets 950)
  have given : start.act .get = (.gaveOut .array, start, []) := act_gaveOut rfl rfl vain
  have repaired : start.after [.get, .replaceFile .absent] =
      Session.start (some 950) .absent ⟨none, none, "config"⟩ := by
    show ((start.act .get).2.1.act (.replaceFile .absent)).2.1 = _
    rw [given]
    rfl
  refine ⟨congrArg Prod.fst given, ?_⟩
  rw [repaired]
  rfl

end IndexScan.Session
