import IndexScan.Proofs.Command.Changing
import IndexScan.Proofs.Command.Machines
import IndexScan.Proofs.Console.Terminals
import IndexScan.Proofs.Settings.Seeds
import IndexScan.Proofs.Text.Casing
import Mathlib.Data.List.Induction

/-!
Histories of runs. Where the environment gives no settings, the stored ones behave as two cells:
each holds what it was last set to, or the default after a reset, whatever else was run in between
(`history_follows`). What a run does to the cells is what its order brings about, if it carries out
one, and nothing otherwise (`outcome_cases`); a history is one such step after the other.

An order is carried out first and confirmed then. So a run that ends well has carried out its order,
but one that has carried out its order ends badly where the confirmation cannot be printed
(`history_unconfirmed`). A settings file that is nested too deep gives no settings, and goes on to
give none until it is reset.
-/

namespace IndexScan.Command

/-! ### Orders -/

/-- What a run can be asked to do to the stored settings. -/
inductive Order where
  | set (key : Key) (value : String)
  | reset
  deriving DecidableEq, Repr

/-- The order that a task carries out. -/
def Task.order? : Task → Option Order
  | .config "set" (some key) (some value) => (Key.ofText? key).map fun key => .set key value
  | .config "reset" _ _ => some .reset
  | _ => none

/-- The order that arguments give. -/
def orderOf? (args : List String) : Option Order :=
  match Request.ofArguments args with
  | .run i => i.task.order?
  | _ => none

/-- Whether an order decides what a key has. -/
def Order.decides (key : Key) : Order → Bool
  | set other _ => other = key
  | reset => true

/-- A text that says that there is no seed: nothing, or the word for it in any casing. -/
def SaysNone (text : String) : Prop :=
  text = "" ∨ text.toList.map Char.toLower = "none".toList

/-- The value of a key is the one that a text gives. -/
def Key.Has (key : Key) (text : String) (s : Settings) : Prop :=
  match key with
  | mode => s.mode = text
  | seed => (SaysNone text ∧ s.seed = none) ∨
      (¬ SaysNone text ∧ ∃ n, Numeral.read text.toList = .ok n ∧ s.seed = some n)

/-- What the settings `s` have for a key after the last order that decides it, where there were the
settings `initial?` to begin with. -/
inductive Key.Follows (key : Key) (initial? : Option Settings) (s : Settings) :
    Option Order → Prop where
  | kept {initial : Settings} (given : initial? = some initial) (same : key.Agree s initial) :
    Follows key initial? s none
  | reset (same : key.Agree s Settings.default) : Follows key initial? s (some .reset)
  | set {text : String} (has : key.Has text s) : Follows key initial? s (some (.set key text))

theorem Key.text_of_ofText? {text : String} {key : Key} (found : Key.ofText? text = some key) :
    text = key.text := by
  have same := List.find?_some found
  exact (of_decide_eq_true same).symm

/-- An order to set comes from arguments for it. -/
theorem asks_of_set {args : List String} {key : Key} {value : String}
    (order : orderOf? args = some (.set key value)) :
    ∃ i, Request.ofArguments args = .run i ∧
      i.task = .config "set" (some key.text) (some value) := by
  unfold orderOf? at order
  split at order
  · next i asks =>
    refine ⟨i, asks, ?_⟩
    unfold Task.order? at order
    split at order
    · next text value task =>
      obtain ⟨key, found, same⟩ := Option.map_eq_some_iff.mp order
      cases same
      rw [task, Key.text_of_ofText? found]
    · cases order
    · cases order
  · cases order

/-- An order to reset comes from arguments for it. -/
theorem asks_of_reset {args : List String} (order : orderOf? args = some .reset) :
    ∃ i key? value?, Request.ofArguments args = .run i ∧
      i.task = .config "reset" key? value? := by
  unfold orderOf? at order
  split at order
  · next i asks =>
    unfold Task.order? at order
    split at order
    · obtain ⟨key, -, same⟩ := Option.map_eq_some_iff.mp order
      cases same
    · next key? value? task => exact ⟨i, key?, value?, asks, task⟩
    · cases order
  · cases order

/-! ### Changing a value -/

theorem saysNoSeed_iff (text : String) : saysNoSeed text = true ↔ SaysNone text := by
  have own : ∀ d ∈ "none".toList, Text.IsOwn d := by simp [Text.IsOwn]
  have none := Text.lower_eq_iff own text.toList
  have empty : Text.lower text.toList = "".toList ↔ text.toList.map Char.toLower = "".toList :=
    Text.lower_eq_iff (by simp) text.toList
  have spells (cs : List Char) (word : String) : String.ofList cs = word ↔ cs = word.toList := by
    rw [← String.toList_inj, String.toList_ofList]
  simp only [saysNoSeed, Bool.or_eq_true, decide_eq_true_eq, spells, none, empty, SaysNone]
  rw [or_comm, ← String.toList_inj]
  simp

/-- A word that takes a count holds no tag, and neither do the digits behind it. -/
theorem untagged_of_limit {word text : String} {n : UnhardenedIndex}
    (plain : Console.Markup.Untagged word.toList)
    (limit : text = word ∧ n.value = 1 ∨
      ∃ cs, text.toList = word.toList ++ cs ∧ Decimal.IsDigits cs ∧ Decimal.value cs = n.value) :
    Console.Markup.Untagged text.toList := by
  rcases limit with ⟨rfl, -⟩ | ⟨cs, begins, digits, -⟩
  · exact plain
  · rw [begins]
    refine plain.append fun c mem => ?_
    rintro rfl
    exact absurd (digits.2 _ mem) (by decide)

theorem untagged_of_isDirective {text : String} (directive : Directive.IsDirective text) :
    Console.Markup.Untagged text.toList := by
  obtain ⟨mode, parse⟩ := directive
  cases mode with
  | single =>
    rw [Directive.parse_eq_single_iff.mp parse]
    decide
  | first n => exact untagged_of_limit (by decide) (Directive.parse_eq_first_iff.mp parse)
  | random n => exact untagged_of_limit (by decide) (Directive.parse_eq_random_iff.mp parse)

theorem untagged_of_saysNone {text : String} (none : SaysNone text) :
    Console.Markup.Untagged text.toList := by
  rcases none with rfl | casing
  · simp [Console.Markup.Untagged]
  · rintro c mem rfl
    have lower : '[' ∈ text.toList.map Char.toLower := List.mem_map.mpr ⟨'[', mem, by decide⟩
    rw [casing] at lower
    exact absurd lower (by decide)

theorem untagged_of_numeral {text : String} {n : Int} (numeral : Numeral.read text.toList = .ok n) :
    Console.Markup.Untagged text.toList := by
  rintro c mem rfl
  rcases Numeral.spells_of_read numeral mem with blank | minus | plus | under | ⟨d, digit⟩
  · exact absurd blank (by decide)
  · exact absurd minus (by decide)
  · exact absurd plus (by decide)
  · exact absurd under (by decide)
  · exact absurd (Option.ne_none_iff_exists'.mpr ⟨d, digit⟩) (by decide)

variable {s t : Settings} {key : Key} {value : String}

/-- What all changes of a value have in common: the text gives the new value, holds no tag, and does
not give a seed that is too long. -/
theorem changed_has (change : changed s key value = .ok t) :
    key.Has value t ∧ Console.Markup.Untagged value.toList ∧
      ((∀ n, s.seed = some n → Decimal.fits n = true) →
        ∀ n, t.seed = some n → Decimal.fits n = true) := by
  cases key with
  | mode =>
    cases parse : Directive.parse value with
    | error e => simp [changed, parse] at change
    | ok mode =>
      simp only [changed, parse, Except.ok.injEq] at change
      subst change
      exact ⟨rfl, untagged_of_isDirective ⟨mode, parse⟩, id⟩
  | seed =>
    simp only [changed] at change
    by_cases none : SaysNone value
    · rw [if_pos ((saysNoSeed_iff value).mpr none)] at change
      cases change
      exact ⟨.inl ⟨none, rfl⟩, untagged_of_saysNone none, fun _ n seed => by cases seed⟩
    · rw [if_neg (mt (saysNoSeed_iff value).mp none)] at change
      cases numeral : Numeral.read value.toList with
      | error e => simp [numeral] at change
      | ok n =>
        rw [numeral] at change
        cases change
        refine ⟨.inr ⟨none, n, numeral, rfl⟩, untagged_of_numeral numeral, fun _ m same => ?_⟩
        cases same
        exact Numeral.fits_of_read numeral

/-- A change of a value is done, stores the changed settings and is confirmed, or it is not done and
leaves the file as it is. -/
theorem setValue_cases {file : FileState} (above : FileState) (e : Environment) (key : Key)
    (value : String)
    (short : ∀ n, s.seed = some n → Decimal.fits n = true) (free : file ≠ .directory) :
    (¬ (setValue e s file above key value).1.Done ∧ (setValue e s file above key value).2 = .kept) ∨
      ∃ t after, changed s key value = .ok t ∧ t.save file = (none, after) ∧ after ≠ .directory ∧
        setValue e s file above key value =
          (.ofLines Report.successCode (savedLines e.path key value), .written after) := by
  unfold setValue
  cases change : changed s key value with
  | error refused => exact .inl ⟨mt Outcome.done_ofLines_iff.mp (by decide), rfl⟩
  | ok t =>
    obtain ⟨-, -, kept⟩ := changed_has change
    have saved := Settings.save_of_fits (kept short) free
    cases above with
    | regular bytes => exact .inl ⟨Outcome.not_done_broken _, rfl⟩
    | _ =>
      simp only [saved]
      exact .inr ⟨t, _, rfl, saved, by simp [FileState.ofText], rfl⟩

/-! ### Confirmations -/

/-- Where no tag is in the path and in the value, a change is confirmed in harmless lines. -/
theorem safe_savedLines {path : String} (plain : Console.Markup.Untagged path.toList)
    (untagged : Console.Markup.Untagged value.toList) :
    ∀ line ∈ savedLines path key value, Console.Markup.Safe line.toList := by
  have words : Console.Markup.Untagged ("Set " ++ key.text ++ " = ").toList := by
    cases key <;> decide
  have told : Console.Markup.Untagged ("Set " ++ key.text ++ " = " ++ value).toList := by
    rw [String.toList_append]
    exact words.append untagged
  refine List.forall_mem_cons.mpr ⟨?_, List.forall_mem_singleton.mpr (.of_untagged ?_)⟩
  · have start : "[green]✓[/green] Set " = "[green]✓[/green] " ++ "Set " := by decide
    have line : "[green]✓[/green] Set " ++ key.text ++ " = " ++ value =
        "[green]✓[/green] " ++ ("Set " ++ key.text ++ " = " ++ value) := by
      simp only [start, String.append_assoc]
    rw [line]
    exact .confirmed (.of_untagged told)
  · rw [String.toList_append]
    exact Console.Markup.Untagged.append (by decide) plain

/-- Where no tag is in the path, a reset is confirmed in harmless lines. -/
theorem safe_removedLines {path : String} (plain : Console.Markup.Untagged path.toList) :
    ∀ line ∈ removedLines path, Console.Markup.Safe line.toList := by
  have told : Console.Markup.Safe "Config reset to defaults".toList := .of_untagged (by decide)
  have line : "[green]✓[/green] Config reset to defaults" =
      "[green]✓[/green] " ++ "Config reset to defaults" := by decide
  refine List.forall_mem_cons.mpr ⟨?_, List.forall_mem_singleton.mpr (.of_untagged ?_)⟩
  · rw [line]
    exact .confirmed told
  · rw [String.toList_append]
    exact Console.Markup.Untagged.append (by decide) plain

/-- So a willing terminal takes all that a reset hands over, whatever it finds. -/
theorem takes_reset {t : Console.Terminal} {path : String} {file : FileState} (willing : t.Willing)
    (plain : Console.Markup.Untagged path.toList) :
    ∀ item ∈ (reset path file).1.items, t.Takes item := by
  cases file with
  | absent =>
    exact Outcome.takes_ofLines willing (List.forall_mem_singleton.mpr (.of_untagged (by decide)))
  | directory => exact List.forall_mem_nil _
  | regular bytes => exact Outcome.takes_ofLines willing (safe_removedLines plain)

/-! ### Runs -/

theorem Key.Agree.refl (key : Key) (s : Settings) : key.Agree s s := by
  cases key <;> rfl

variable {m : Machine} {w : Workplace} {args : List String} {directory : String}

/-- The settings that can be loaded on a machine: none if their file is nested too deep. -/
def Machine.settings? (m : Machine) (w : Workplace) : Option Settings :=
  (Settings.loadWithin m.levels w.settingsFile w.environment).toOption.map Prod.fst

namespace Machine

theorem settings?_eq_some_iff : m.settings? w = some s ↔
    (∀ holder, ¬ Settings.GivesOut m.levels w.settingsFile holder) ∧ w.settings.1 = s := by
  rw [settings?, Option.map_eq_some_iff]
  constructor
  · rintro ⟨loaded, given, rfl⟩
    cases load : Settings.loadWithin m.levels w.settingsFile w.environment with
    | error holder =>
      rw [load] at given
      cases given
    | ok other =>
      rw [load] at given
      cases given
      obtain ⟨fits, rfl⟩ := Settings.loadWithin_eq_ok_iff.mp load
      exact ⟨fits, rfl⟩
  · rintro ⟨fits, rfl⟩
    exact ⟨w.settings, by rw [Settings.loadWithin_eq_ok_iff.mpr ⟨fits, rfl⟩]; rfl, rfl⟩

end Machine

/-- The workplaces in which no settings come from the environment, and in which settings can be
stored. -/
structure Workplace.Calm (directory : String) (w : Workplace) : Prop where
  bare : w.environment = Settings.bare directory
  free : w.settingsFile ≠ .directory

/-- There the settings in force are the stored ones. -/
theorem Workplace.Calm.settings_eq (calm : w.Calm directory) : w.settings.1 = w.stored := by
  rw [Workplace.settings, calm.bare]
  exact Settings.load_bare w.settingsFile directory

theorem configure_of_no_order {e : Environment} {settings : Settings × List LogRecord}
    {file above : FileState} {action : String} {key? value? : Option String}
    (none : (Task.config action key? value?).order? = none) :
    (configure e settings file above action key? value?).2 = .kept := by
  unfold configure
  dsimp only
  split
  · rfl
  · split
    · next key value given =>
      have found : Key.ofText? key = .none := by
        cases key? with
        | none => cases given
        | some text =>
          obtain rfl : text = key := Option.some.inj (Option.filter_eq_some_iff.mp given).1
          simpa [Task.order?] using none
      rw [found]
    · rfl
  · cases none
  · rfl

/-- A run that was given no order leaves the workplace as it is. -/
theorem run_of_no_order (none : orderOf? args = none) : (run w args).2 = w := by
  unfold orderOf? at none
  unfold run
  cases asks : Request.ofArguments args with
  | run i =>
    rw [asks] at none
    have kept : (perform w i.isJson i.task).2 = .kept := by
      cases task : i.task with
      | config action key? value? =>
        dsimp only at none
        rw [task] at none
        exact configure_of_no_order none
      | _ => rfl
    simp only [kept]
    rfl
  | _ => rfl

/-- On a machine as well: there it may give out instead, which leaves the workplace as it is, too. -/
theorem Machine.outcome_of_no_order (none : orderOf? args = none) : (m.outcome w args).2 = w := by
  cases asks : Request.ofArguments args with
  | run i =>
    cases deep : m.failure? w i.task with
    | some failure => rw [Machine.outcome_of_failure asks deep]
    | none =>
      rw [Machine.outcome_of_fits asks deep]
      exact run_of_no_order none
  | _ =>
    rw [Machine.outcome, asks]
    exact run_of_no_order none

/-- What an order brings about in a workplace that it is carried out in: `after` is what it leaves.
The key has the value of the order then, and the other key the value that it had. -/
inductive Order.Brings (m : Machine) (w after : Workplace) : Order → Prop where
  | set {key : Key} {value : String} {s t : Settings} (found : m.settings? w = some s)
    (left : m.settings? after = some t) (has : key.Has value t)
    (others : ∀ other, other ≠ key → other.Agree t s) : Brings m w after (.set key value)
  | reset (left : m.settings? after = some Settings.default) : Brings m w after .reset

/-- A run that was made. -/
structure Ran where
  args : List String
  outcome : Outcome

/-- The order that a run carried out: it is done, whether it could be confirmed or not. -/
def Ran.order? (r : Ran) : Option Order :=
  if r.outcome.Done then orderOf? r.args else none

/-- A run that carries out an order, leaves what the order brings about, and hands over nothing that a
willing terminal does not take unless there is a tag in the path of the settings file. -/
structure Machine.CarriesOut (m : Machine) (directory : String) (w : Workplace) (args : List String)
    (order : Order) : Prop where
  given : Ran.order? ⟨args, (m.outcome w args).1⟩ = some order
  calm : (m.outcome w args).2.Calm directory
  brings : order.Brings m w (m.outcome w args).2
  taken : m.terminal.Willing → Console.Markup.Untagged w.environment.path.toList →
    ∀ item ∈ (m.outcome w args).1.items, m.terminal.Takes item

namespace Machine

/-- A run that was told to set a value does so, or is not done and leaves the workplace as it is. -/
theorem outcome_of_set (calm : w.Calm directory)
    (order : orderOf? args = some (.set key value)) :
    (¬ (m.outcome w args).1.Done ∧ (m.outcome w args).2 = w) ∨
      m.CarriesOut directory w args (.set key value) := by
  obtain ⟨i, asks, task⟩ := asks_of_set order
  cases deep : m.failure? w i.task with
  | some failure =>
    rw [outcome_of_failure asks deep]
    exact .inl ⟨Outcome.not_done_broken failure, rfl⟩
  | none =>
    have ran := outcome_of_fits asks deep
    obtain ⟨finished, items, left⟩ := run_set (w := w) asks task
    have short : ∀ n, w.settings.1.seed = some n → Decimal.fits n = true :=
      fun _ => Settings.fits_load
    rcases setValue_cases (w.folder.entry [w.environment.directory]) w.environment key value short
      calm.free with ⟨failed, kept⟩ | ⟨t, after, change, saved, regular, eq⟩
    · refine .inl ⟨by rwa [ran, finished], ?_⟩
      rw [ran, left, kept]
      rfl
    · rw [eq] at finished items left
      have file : (m.outcome w args).2.settingsFile = after := by
        rw [ran, left, Workplace.settingsFile_written]
      have calm' : (m.outcome w args).2.Calm directory :=
        ⟨by rw [ran, left]; exact calm.bare, file ▸ regular⟩
      obtain ⟨has, untagged, -⟩ := changed_has change
      obtain ⟨valid, others⟩ := changed_eq_ok change (Settings.isDirective_load _ _)
      have known : (Key.ofText? key.text).isSome := by rw [key.ofText?_text]; rfl
      have fits : m.settingsFailure? w = none := by
        rw [task] at deep
        simpa only [failure?, known, if_true] using deep
      have stored : (m.outcome w args).2.settings.1 = t := by
        rw [calm'.settings_eq, Workplace.stored, file, Settings.stored_of_save valid saved]
      refine .inr ⟨?_, calm', .set (s := w.settings.1) ?_ ?_ has others, ?_⟩
      · rw [Ran.order?, if_pos (ran ▸ finished.mpr (Outcome.done_ofLines_iff.mpr rfl)), order]
      · exact settings?_eq_some_iff.mpr ⟨settingsFailure?_eq_none_iff.mp fits, rfl⟩
      · refine settings?_eq_some_iff.mpr ⟨?_, stored⟩
        rw [file]
        exact Settings.not_givesOut_of_save saved m.roomy
      · intro willing plain
        rw [ran, items]
        exact Outcome.takes_ofLines willing (safe_savedLines plain untagged)

end Machine

theorem stored_absent : Settings.stored .absent = Settings.default := rfl

/-- A run that was told to reset is a reset of the settings file, but for its log. -/
theorem run_reset (order : orderOf? args = some .reset) :
    ((run w args).1.Done ↔ (reset w.environment.path w.settingsFile).1.Done) ∧
      (run w args).1.items = (reset w.environment.path w.settingsFile).1.items ∧
      (run w args).2 = w.apply (reset w.environment.path w.settingsFile).2 := by
  obtain ⟨i, key?, value?, asks, task⟩ := asks_of_reset order
  simp only [run, asks, task]
  exact ⟨⟨fun done => done.withLog _, fun done => done.withLog _⟩, rfl, rfl⟩

/-- On a machine as well, for a reset reads nothing. -/
theorem Machine.outcome_of_reset_order (order : orderOf? args = some .reset) :
    m.outcome w args = Command.run w args := by
  obtain ⟨i, key?, value?, asks, task⟩ := asks_of_reset order
  exact Machine.outcome_of_fits asks (by rw [task]; rfl)

/-- A run that was told to reset does so and leaves the defaults. -/
theorem Machine.outcome_of_reset (calm : w.Calm directory) (order : orderOf? args = some .reset) :
    m.CarriesOut directory w args .reset := by
  have ran := Machine.outcome_of_reset_order (m := m) (w := w) order
  obtain ⟨finished, items, left⟩ := run_reset (w := w) order
  have bare : (m.outcome w args).2.environment = Settings.bare directory := by
    rw [ran, left]
    cases (reset w.environment.path w.settingsFile).2 <;> exact calm.bare
  have gone : (reset w.environment.path w.settingsFile).1.Done ∧
      (m.outcome w args).2.settingsFile = .absent := by
    rw [ran, left]
    cases file : w.settingsFile with
    | directory => exact absurd file calm.free
    | absent => exact ⟨Outcome.done_ofLines_iff.mpr rfl, file⟩
    | regular bytes =>
      exact ⟨Outcome.done_ofLines_iff.mpr rfl, Folder.entry_set _ (List.cons_ne_nil _ _) _⟩
  obtain ⟨done, absent⟩ := gone
  have calm' : (m.outcome w args).2.Calm directory := ⟨bare, by rw [absent]; decide⟩
  refine ⟨?_, calm', .reset (Machine.settings?_eq_some_iff.mpr ⟨?_, ?_⟩), ?_⟩
  · rw [Ran.order?, if_pos (ran ▸ finished.mpr done), order]
  · rw [absent]
    rintro holder ⟨bytes, _, regular, -⟩
    cases regular
  · rw [calm'.settings_eq, Workplace.stored, absent, stored_absent]
  · rw [ran, items]
    exact takes_reset

/-- A run carries out its order and leaves what that brings about, or it leaves the workplace as it
is. -/
theorem Machine.outcome_cases (m : Machine) (calm : w.Calm directory) (args : List String) :
    (Ran.order? ⟨args, (m.outcome w args).1⟩ = none ∧ (m.outcome w args).2 = w) ∨
      ∃ order, m.CarriesOut directory w args order := by
  cases order : orderOf? args with
  | none => exact .inl ⟨by simp [Ran.order?, order], Machine.outcome_of_no_order order⟩
  | some given =>
    cases given with
    | set key value =>
      rcases Machine.outcome_of_set (m := m) calm order with ⟨failed, same⟩ | carried
      · exact .inl ⟨if_neg failed, same⟩
      · exact .inr ⟨_, carried⟩
    | reset => exact .inr ⟨_, Machine.outcome_of_reset calm order⟩

/-! ### Histories -/

namespace Machine

/-- The runs of a history, each with its outcome. -/
def history (m : Machine) (w : Workplace) : List (List String) → List Ran
  | [] => []
  | args :: rest => ⟨args, (m.outcome w args).1⟩ :: m.history (m.run w args).2 rest

/-- The workplace after a history. -/
def after (m : Machine) (w : Workplace) (argss : List (List String)) : Workplace :=
  argss.foldl (fun w args => (m.run w args).2) w

theorem history_append (m : Machine) (w : Workplace) (argss : List (List String))
    (args : List String) :
    m.history w (argss ++ [args]) =
      m.history w argss ++ [⟨args, (m.outcome (m.after w argss) args).1⟩] := by
  induction argss generalizing w with
  | nil => rfl
  | cons first rest ih =>
    simp only [List.cons_append, history, ih]
    rfl

theorem after_append (m : Machine) (w : Workplace) (argss : List (List String))
    (args : List String) :
    m.after w (argss ++ [args]) = (m.outcome (m.after w argss) args).2 := by
  simp [after, run]

end Machine

/-- The last order that decides what a key has and that was carried out. -/
def lastOrder? (key : Key) (runs : List Ran) : Option Order :=
  (runs.filterMap Ran.order?).reverse.find? fun order => order.decides key

theorem lastOrder?_append (key : Key) (runs : List Ran) (r : Ran) :
    lastOrder? key (runs ++ [r]) =
      (r.order?.filter fun order => order.decides key).or (lastOrder? key runs) := by
  unfold lastOrder?
  cases carried : r.order? with
  | none => simp [List.filterMap_append, carried]
  | some order =>
    cases decides : order.decides key with
    | false => simp [List.filterMap_append, carried, Option.filter_some, decides]
    | true => simp [List.filterMap_append, carried, Option.filter_some, decides]

theorem Key.Has.of_agree {key : Key} {text : String} {s t : Settings} (has : key.Has text t)
    (same : key.Agree s t) : key.Has text s := by
  cases key with
  | mode => exact Eq.trans same has
  | seed =>
    have seed : s.seed = t.seed := same
    simpa only [Key.Has, seed] using has

/-- What holds after the last order goes on to hold after a run without one. -/
theorem Key.Follows.trans {key : Key} {initial? between? : Option Settings} {s : Settings}
    {before? last? : Option Order}
    (earlier : ∀ between, between? = some between → key.Follows initial? between before?)
    (later : key.Follows between? s last?) : key.Follows initial? s (last?.or before?) := by
  cases later with
  | reset same => exact .reset same
  | set has => exact .set has
  | kept given same =>
    cases earlier _ given with
    | kept given before => exact .kept given (same.trans before)
    | reset before => exact .reset (same.trans before)
    | set has => exact .set (has.of_agree same)

/-- What an order brings about is what each key has behind it. -/
theorem Order.Brings.follows {order : Order} {after : Workplace} (brings : order.Brings m w after)
    (key : Key) (left : m.settings? after = some s) :
    key.Follows (m.settings? w) s ((some order).filter fun order => order.decides key) := by
  cases brings with
  | @set other value before t found given has others =>
    obtain rfl := Option.some.inj (left.symm.trans given)
    by_cases same : other = key
    · subst same
      simpa [Option.filter_some, Order.decides] using Key.Follows.set has
    · simpa [Option.filter_some, Order.decides, same] using
        Key.Follows.kept found (others key (Ne.symm same))
  | reset given =>
    obtain rfl := Option.some.inj (left.symm.trans given)
    simpa [Option.filter_some, Order.decides] using
      Key.Follows.reset (Key.Agree.refl key Settings.default)

/-- Behind an order there are settings, however deep their file was. -/
theorem Order.Brings.settings?_ne_none {order : Order} {after : Workplace}
    (brings : order.Brings m w after) : m.settings? after ≠ none := by
  cases brings with
  | set _ left => simp [left]
  | reset left => simp [left]

/-- What a history has come to. There are settings unless there were none and nothing was ordered, and
each key has what the last order gives that decides it. A run that was confirmed has carried out its
order, and a run that has carried out one could not be confirmed at worst. -/
structure Machine.Along (m : Machine) (directory : String) (w after : Workplace) (runs : List Ran) :
    Prop where
  calm : after.Calm directory
  settings : m.settings? after = none ↔ m.settings? w = none ∧ runs.filterMap Ran.order? = []
  follows (key : Key) (s : Settings) (given : m.settings? after = some s) :
    key.Follows (m.settings? w) s (lastOrder? key runs)
  taken : m.terminal.Willing → Console.Markup.Untagged (Settings.bare directory).path.toList →
    ∀ r ∈ runs, ∀ order, r.order? = some order → ∀ item ∈ r.outcome.items, m.terminal.Takes item

namespace Machine

variable {initial : Workplace} {runs : List Ran}

/-- One run goes on with a history: it does to the cells what it was told, and nothing if it was told
nothing or did not do it. -/
theorem Along.snoc (along : m.Along directory initial w runs) (args : List String) :
    m.Along directory initial (m.outcome w args).2
      (runs ++ [⟨args, (m.outcome w args).1⟩]) := by
  rcases m.outcome_cases along.calm args with ⟨none, same⟩ | ⟨order, carried⟩
  · rw [same]
    refine ⟨along.calm, ?_, fun key s given => ?_, fun willing plain r mem order ordered => ?_⟩
    · simp [List.filterMap_append, none, along.settings]
    · rw [lastOrder?_append, none]
      exact along.follows key s given
    · rcases List.mem_append.mp mem with earlier | last
      · exact along.taken willing plain r earlier order ordered
      · rw [List.mem_singleton.mp last, none] at ordered
        cases ordered
  · refine ⟨carried.calm, ?_, fun key s given => ?_, fun willing plain r mem order ordered => ?_⟩
    · simp [List.filterMap_append, carried.given, carried.brings.settings?_ne_none]
    · rw [lastOrder?_append, carried.given]
      exact Key.Follows.trans (fun between found => along.follows key between found)
        (carried.brings.follows key given)
    · rcases List.mem_append.mp mem with earlier | last
      · exact along.taken willing plain r earlier order ordered
      · rw [List.mem_singleton.mp last]
        exact carried.taken willing (by rwa [along.calm.bare])

theorem along_after (m : Machine) (calm : w.Calm directory) (argss : List (List String)) :
    m.Along directory w (m.after w argss) (m.history w argss) := by
  induction argss using List.reverseRecOn with
  | nil =>
    refine ⟨calm, by simp [history, after], fun key s given => .kept given (Key.Agree.refl key s), ?_⟩
    exact fun _ _ => List.forall_mem_nil _
  | append_singleton argss args ih =>
    rw [after_append, history_append]
    exact ih.snoc args

end Machine

/-- Without settings in the environment, a history of runs leaves for each key what the last order
gives that decides it and was carried out: the text of the order if it set the key, the default if
it was a reset, and what there was to begin with if there is none. Settings can be loaded in the end
unless they could not be loaded to begin with and no order was carried out.

A run that ends well has carried out its order. One that has carried out its order ends well, too,
unless the console does not take what it is to print, as can be the case on a terminal that has no
size or lacks a character, and where there is a tag in the path of the settings file. -/
theorem history_follows (m : Machine) {directory : String} {w : Workplace}
    (bare : w.environment = Settings.bare directory) (free : w.settingsFile ≠ .directory)
    (argss : List (List String)) (key : Key) :
    let runs := m.history w argss
    let after := m.after w argss
    (m.settings? after = none ↔ m.settings? w = none ∧ runs.filterMap Ran.order? = []) ∧
      (∀ s, m.settings? after = some s → key.Follows (m.settings? w) s (lastOrder? key runs)) ∧
      (∀ r ∈ runs, (r.outcome.on m.terminal).exitCode = Report.successCode →
        r.order? = orderOf? r.args) ∧
      ∀ r ∈ runs, ∀ order, r.order? = some order →
        ((r.outcome.on m.terminal).exitCode = Report.successCode ∨
          ∃ fault, (r.outcome.on m.terminal).failure? = some (.report (.console fault))) ∧
        (m.terminal.Willing → Console.Markup.Untagged w.environment.path.toList →
          (r.outcome.on m.terminal).exitCode = Report.successCode) := by
  intro runs after
  have along := m.along_after ⟨bare, free⟩ argss
  have done {r : Ran} {order : Order} (ordered : r.order? = some order) : r.outcome.Done := by
    by_contra failed
    simp [Ran.order?, failed] at ordered
  refine ⟨along.settings, along.follows key, fun r _ well => ?_, fun r mem order ordered => ⟨?_, ?_⟩⟩
  · exact if_pos (Outcome.exitCode_on_eq_success_iff.mp well).1
  · exact (done ordered).exitCode_on
  · intro willing plain
    rw [bare] at plain
    exact Outcome.exitCode_on_eq_success_iff.mpr
      ⟨done ordered, along.taken willing plain r mem order ordered⟩

/-- A workplace with a settings file that cannot be read. -/
def brokenWorkplace : Workplace :=
  ⟨Folder.empty.put (Settings.bare "config").place (.ofText "scan".toList), Settings.bare "config",
    .scripted [] 0⟩

/-- Runs that set the seed, reset, set the mode, and fail to set it. -/
def mixedRuns : List (List String) :=
  [["config", "set", "scan.seed", " 5 "], ["config", "reset"],
    ["config", "set", "scan.mode", "random"], ["config", "set", "scan.mode", "last3"]]

/-- After these runs the mode is the one that was set behind the reset, and there is no seed. -/
theorem history_follows_mixed :
    let m := Machine.usual .ample
    brokenWorkplace.environment = Settings.bare "config" ∧
      brokenWorkplace.settingsFile ≠ .directory ∧
      ∃ s, m.settings? (m.after brokenWorkplace mixedRuns) = some s ∧ s.mode = "random" ∧
        s.seed = none := by
  intro m
  have file : brokenWorkplace.settingsFile = .ofText "scan".toList :=
    Folder.entry_put .empty (List.cons_ne_nil _ _) _
  have free : brokenWorkplace.settingsFile ≠ .directory := by simp [file, FileState.ofText]
  have bare : brokenWorkplace.environment = Settings.bare "config" := rfl
  obtain ⟨settings, mode, -⟩ := history_follows m bare free mixedRuns .mode
  obtain ⟨-, seed, -⟩ := history_follows m bare free mixedRuns .seed
  have carried : (m.history brokenWorkplace mixedRuns).filterMap Ran.order? =
      [.set .seed " 5 ", .reset, .set .mode "random"] := by decide +kernel
  obtain ⟨s, given⟩ := Option.ne_none_iff_exists'.mp (mt settings.mp (by simp [carried]))
  have mode := mode s given
  have seed := seed s given
  rw [lastOrder?, carried] at mode seed
  cases mode with
  | set isRandom =>
    cases seed with
    | reset isDefault => exact ⟨bare, free, s, given, isRandom, isDefault⟩

/-- A workplace without files, and the directory that the settings file would lie in. -/
def freshWorkplace (directory : String) : Workplace :=
  ⟨.empty, Settings.bare directory, .scripted [] 0⟩

/-- On a terminal without a size an order is carried out all the same: the run ends badly, and the
value is set. -/
theorem history_unconfirmed :
    let m := Machine.usual (.ofVariables none (some "²"))
    let w := freshWorkplace "config"
    let args := ["config", "set", "scan.mode", "first5"]
    (m.run w args).1.exitCode ≠ Report.successCode ∧
      m.settings? w = some ⟨"first20", none⟩ ∧
      m.settings? (m.after w [args]) = some ⟨"first5", none⟩ := by
  decide +kernel

end IndexScan.Command
