import IndexScan.Proofs.Directive.Grammar
import IndexScan.Proofs.Json.Levels
import IndexScan.Proofs.Text.Ascii
import IndexScan.Settings.Basic
import Mathlib.Data.List.Forall2

/-!
Layers of settings. Unless the settings file is nested too deep for the stack, loading gives
settings, whatever file and environment hold: each of the two values comes from the first layer that
has a usable one, and the other value plays no part in that (`load_layers`). Everything that a layer
holds and that is passed over is logged, once, and nothing else is. No stack is enough for every
file (`givesOut_brackets`).
-/

namespace IndexScan.Settings

open Directive

/-! ### What layers hold -/

/-- A file that can be read and holds the document `x`. -/
def Holds (file : FileState) (x : Json) : Prop :=
  ∃ bytes cs, file = .regular bytes ∧ Utf8.decode bytes = .ok cs ∧
    Json.read (some Decimal.limit) (Lines.unify cs) = .ok x

/-- A file whose document is an object with an object of settings, of which `x` is the member
`key`. -/
def Member (file : FileState) (key : String) (x : Json) : Prop :=
  ∃ document members, Holds file document ∧ document.get? "scan" = some (.obj members) ∧
    Json.lookup? key members = some x

/-- The member `x` of a file is usable as the mode `text`. -/
def ModeValue (x : Json) (text : String) : Prop :=
  x = .str text ∧ IsDirective text

/-- The member `x` of a file is usable as a seed: nothing, an integer, or the text of one. -/
def SeedValue (x : Json) (seed : Option Int) : Prop :=
  (x = .null ∧ seed = none) ∨ (∃ n, x = .int n ∧ seed = some n) ∨
    ∃ text n, x = .str text ∧ Numeral.read text.toList = .ok n ∧ seed = some n

/-- A variable of the environment is usable as the mode `text`. -/
def ModeVariable (given? : Option String) (text : String) : Prop :=
  given? = some text ∧ text ≠ "" ∧ IsDirective text

/-- A variable of the environment is usable as a seed. -/
def SeedVariable (given? : Option String) (seed : Option Int) : Prop :=
  ∃ text n, given? = some text ∧ text ≠ "" ∧ Numeral.read text.toList = .ok n ∧ seed = some n

/-- `value` comes from the first of two layers that gives one; `above` and `below` say what they
give, and `otherwise` stands in where neither gives any. -/
def IsFirst {α : Type} (above below : α → Prop) (otherwise value : α) : Prop :=
  above value ∨ ((∀ other, ¬ above other) ∧ below value) ∨
    ((∀ other, ¬ above other) ∧ (∀ other, ¬ below other) ∧ value = otherwise)

theorem isFirst_getD {α : Type} {above below : α → Prop} {above? below? : Option α}
    (gives : ∀ v, above? = some v ↔ above v) (givesBelow : ∀ v, below? = some v ↔ below v)
    (otherwise : α) : IsFirst above below otherwise (above?.getD (below?.getD otherwise)) := by
  cases above? with
  | some v => exact .inl ((gives v).mp rfl)
  | none =>
    have noneAbove : ∀ other, ¬ above other := fun other given => by
      cases (gives other).mpr given
    cases below? with
    | some v => exact .inr (.inl ⟨noneAbove, (givesBelow v).mp rfl⟩)
    | none =>
      refine .inr (.inr ⟨noneAbove, fun other given => ?_, rfl⟩)
      cases (givesBelow other).mpr given

/-! ### What is taken from a layer -/

theorem fileDocument_eq_ok_iff {file : FileState} {x : Json} :
    fileDocument file = .ok (some x) ↔ Holds file x := by
  constructor
  · intro document
    unfold fileDocument fileDocumentWithin at document
    split at document
    · cases document
    · cases document
    · next bytes =>
      split at document
      · cases document
      · next cs decoded =>
        split at document
        · cases document
        · next y read =>
          cases document
          exact ⟨bytes, cs, rfl, decoded, read⟩
  · rintro ⟨bytes, cs, rfl, decoded, read⟩
    rw [Json.read] at read
    simp only [fileDocument, fileDocumentWithin, decoded, read]

theorem fileDocument_eq_none_iff {file : FileState} :
    fileDocument file = .ok none ↔ file = .absent := by
  constructor
  · intro document
    unfold fileDocument fileDocumentWithin at document
    split at document
    · rfl
    · cases document
    · split at document
      · cases document
      · split at document <;> cases document
  · rintro rfl
    rfl

/-- The member `key` of the settings in a file, if there is one. -/
def member? (file : FileState) (key : String) : Option Json :=
  match fileDocument file with
  | .ok (some document) =>
    match document.get? "scan" with
    | some (.obj members) => Json.lookup? key members
    | _ => none
  | _ => none

theorem member?_eq_some_iff {file : FileState} {key : String} {x : Json} :
    member? file key = some x ↔ Member file key x := by
  constructor
  · intro found
    unfold member? at found
    split at found
    · next document holds =>
      split at found
      · next members object =>
        exact ⟨document, members, fileDocument_eq_ok_iff.mp holds, object, found⟩
      · cases found
    · cases found
  · rintro ⟨document, members, holds, object, found⟩
    simp only [member?, fileDocument_eq_ok_iff.mpr holds, object, found]

theorem fileMode_eq_ok_iff {path : String} {x : Json} {text : String} :
    fileMode path x = .ok text ↔ ModeValue x text := by
  constructor
  · intro read
    cases x with
    | str s =>
      rw [fileMode] at read
      cases parse : Directive.parse s with
      | ok mode =>
        rw [parse] at read
        cases read
        exact ⟨rfl, mode, parse⟩
      | error e => rw [parse] at read; cases read
    | _ => cases read
  · rintro ⟨rfl, mode, parse⟩
    simp only [fileMode, parse]

theorem fileSeed_eq_ok_iff {path : String} {x : Json} {seed : Option Int} :
    fileSeed path x = .ok seed ↔ SeedValue x seed := by
  constructor
  · intro read
    cases x with
    | null =>
      cases read
      exact .inl ⟨rfl, rfl⟩
    | int n =>
      cases read
      exact .inr (.inl ⟨n, rfl, rfl⟩)
    | str s =>
      rw [fileSeed] at read
      cases numeral : Numeral.read s.toList with
      | ok n =>
        rw [numeral] at read
        cases read
        exact .inr (.inr ⟨s, n, rfl, numeral, rfl⟩)
      | error e => rw [numeral] at read; cases read
    | _ => cases read
  · rintro (⟨rfl, rfl⟩ | ⟨n, rfl, rfl⟩ | ⟨text, n, rfl, numeral, rfl⟩)
    · rfl
    · rfl
    · simp only [fileSeed, numeral]

theorem accepted_eq_some_iff {α : Type} {read : Json → Except LogRecord α} {x? : Option Json}
    {value : α} : (accepted read x?).1 = some value ↔ ∃ x, x? = some x ∧ read x = .ok value := by
  cases x? with
  | none => simp [accepted]
  | some x => cases result : read x <;> simp [accepted, result]

theorem environmentMode_eq_some_iff {given? : Option String} {text : String} :
    (environmentMode given?).1 = some text ↔ ModeVariable given? text := by
  cases given? with
  | none => simp [environmentMode, ModeVariable]
  | some s =>
    by_cases empty : s = ""
    · subst empty
      have none : ¬ ModeVariable (some "") text := by
        rintro ⟨same, nonempty, -⟩
        cases same
        exact nonempty rfl
      simp [environmentMode, none]
    · cases parse : Directive.parse s with
      | ok mode =>
        have directive : IsDirective s := ⟨mode, parse⟩
        simp only [environmentMode, String.isEmpty_iff, empty, if_false, parse, ModeVariable,
          Option.some.injEq]
        exact ⟨fun same => same ▸ ⟨rfl, empty, directive⟩, fun usable => usable.1⟩
      | error e =>
        have none : ¬ ModeVariable (some s) text := by
          rintro ⟨same, _, mode, valid⟩
          cases same
          rw [parse] at valid
          cases valid
        simp [environmentMode, empty, parse, none]

theorem environmentSeed_eq_some_iff {given? : Option String} {seed : Option Int} :
    (environmentSeed given?).1 = some seed ↔ SeedVariable given? seed := by
  cases given? with
  | none => simp [environmentSeed, SeedVariable]
  | some s =>
    by_cases empty : s = ""
    · subst empty
      simp [environmentSeed, SeedVariable]
    · cases numeral : Numeral.read s.toList with
      | ok n =>
        simp only [environmentSeed, String.isEmpty_iff, empty, if_false, numeral,
          Option.some.injEq]
        constructor
        · rintro rfl
          exact ⟨s, n, rfl, empty, numeral, rfl⟩
        · rintro ⟨text, m, same, -, read, rfl⟩
          cases same
          rw [numeral] at read
          cases read
          rfl
      | error e =>
        have none : ¬ SeedVariable (some s) seed := by
          rintro ⟨text, m, same, -, read, -⟩
          cases same
          rw [numeral] at read
          cases read
        simp [environmentSeed, empty, numeral, none]

/-- The layer of a file takes its values from the two members, and logs what is wrong with them
unless the file is wrong as a whole. -/
theorem fileLayer_eq (path : String) (file : FileState) :
    fileLayer path file = (⟨(accepted (fileMode path) (member? file "mode")).1,
        (accepted (fileSeed path) (member? file "seed")).1⟩,
      match fileDocument file with
      | .error fault =>
        [warn ("Failed to load config from " ++ path ++ ": " ++ fault.message path)]
      | .ok _ => (accepted (fileMode path) (member? file "mode")).2 ++
          (accepted (fileSeed path) (member? file "seed")).2) := by
  cases document : fileDocument file with
  | error fault => simp [fileLayer, member?, document, accepted, Layer.empty]
  | ok x? =>
    cases x? with
    | none => simp [fileLayer, member?, document, accepted, Layer.empty]
    | some x =>
      cases scan? : x.get? "scan" with
      | none => simp [fileLayer, member?, document, documentLayer, scan?, accepted, Layer.empty]
      | some scan =>
        cases scan with
        | obj members => simp [fileLayer, member?, document, documentLayer, scan?]
        | _ => simp [fileLayer, member?, document, documentLayer, scan?, accepted, Layer.empty]

theorem accepted_fileMode_eq (path other : String) (x? : Option Json) :
    (accepted (fileMode path) x?).1 = (accepted (fileMode other) x?).1 :=
  Option.ext fun _ => by simp only [accepted_eq_some_iff, fileMode_eq_ok_iff]

theorem accepted_fileSeed_eq (path other : String) (x? : Option Json) :
    (accepted (fileSeed path) x?).1 = (accepted (fileSeed other) x?).1 :=
  Option.ext fun _ => by simp only [accepted_eq_some_iff, fileSeed_eq_ok_iff]

/-- The values of a layer do not depend on the path of its file, which is named in the log only. -/
theorem fileLayer_values (path other : String) (file : FileState) :
    (fileLayer path file).1 = (fileLayer other file).1 := by
  rw [fileLayer_eq, fileLayer_eq]
  simp only [accepted_fileMode_eq path other, accepted_fileSeed_eq path other]

theorem load_mode (file : FileState) (e : Environment) :
    (load file e).1.mode = (environmentMode e.mode?).1.getD
      ((accepted (fileMode e.path) (member? file "mode")).1.getD "first20") := by
  show (environmentMode e.mode?).1.getD ((fileLayer e.path file).1.mode?.getD default.mode) = _
  rw [fileLayer_eq]
  rfl

theorem load_seed (file : FileState) (e : Environment) :
    (load file e).1.seed = (environmentSeed e.seed?).1.getD
      ((accepted (fileSeed e.path) (member? file "seed")).1.getD none) := by
  show (environmentSeed e.seed?).1.getD ((fileLayer e.path file).1.seed?.getD default.seed) = _
  rw [fileLayer_eq]
  rfl

/-- The mode comes from the first layer that has a usable one. -/
theorem isFirst_mode (file : FileState) (e : Environment) :
    IsFirst (ModeVariable e.mode?) (fun text => ∃ x, Member file "mode" x ∧ ModeValue x text)
      "first20" (load file e).1.mode := by
  rw [load_mode]
  refine isFirst_getD (fun text => environmentMode_eq_some_iff) (fun text => ?_) _
  simp only [accepted_eq_some_iff, fileMode_eq_ok_iff, member?_eq_some_iff]

/-- The seed comes from the first layer that has a usable one. -/
theorem isFirst_seed (file : FileState) (e : Environment) :
    IsFirst (SeedVariable e.seed?) (fun seed => ∃ x, Member file "seed" x ∧ SeedValue x seed)
      none (load file e).1.seed := by
  rw [load_seed]
  refine isFirst_getD (fun seed => environmentSeed_eq_some_iff) (fun seed => ?_) _
  simp only [accepted_eq_some_iff, fileSeed_eq_ok_iff, member?_eq_some_iff]

/-- The mode in force is a directive, whatever file and environment hold. -/
theorem isDirective_load (file : FileState) (e : Environment) :
    IsDirective (load file e).1.mode := by
  rcases isFirst_mode file e with ⟨-, -, directive⟩ | ⟨-, x, -, -, directive⟩ | ⟨-, -, same⟩
  · exact directive
  · exact directive
  · rw [same]
    exact isDirective_default

theorem member?_congr {file file' : FileState} {key : String}
    (same : ∀ x, Member file' key x ↔ Member file key x) : member? file' key = member? file key :=
  Option.ext fun x => (member?_eq_some_iff.trans (same x)).trans member?_eq_some_iff.symm

/-! ### What is logged -/

/-- What a layer can hold and be passed over for. -/
inductive Item where
  /-- The file as a whole. -/
  | file
  | fileMode
  | fileSeed
  | modeVariable
  | seedVariable
  deriving DecidableEq, Repr

namespace Item

/-- The items in the order in which they are looked at. -/
def all : List Item := [file, fileMode, fileSeed, modeVariable, seedVariable]

/-- How the record of an item begins, where the settings file has the given path. -/
def opening (path : String) : Item → String
  | file => "Failed to load config from " ++ path ++ ": "
  | fileMode => "Invalid scan.mode="
  | fileSeed => "Invalid scan.seed="
  | modeVariable => "Invalid KEYSCAN_MODE="
  | seedVariable => "Invalid KEYSCAN_SEED="

/-- Whether an item is there and is not usable. -/
def Rejected (state : FileState) (e : Environment) : Item → Prop
  | file => state ≠ .absent ∧ ∀ x, ¬ Holds state x
  | fileMode => ∃ x, Member state "mode" x ∧ ∀ text, ¬ ModeValue x text
  | fileSeed => ∃ x, Member state "seed" x ∧ ∀ seed, ¬ SeedValue x seed
  | modeVariable => ∃ text, e.mode? = some text ∧ text ≠ "" ∧ ¬ IsDirective text
  | seedVariable => ∃ text, e.seed? = some text ∧ text ≠ "" ∧
      ∀ n, Numeral.read text.toList ≠ .ok n

/-- A record that tells of an item: a warning that begins with the words for it. -/
def Tells (path : String) (item : Item) (r : LogRecord) : Prop :=
  r.level = .warning ∧ r.channel = .configuration ∧
    (item.opening path).toList <+: r.message.toList

/-- What is logged about an item. -/
def log (state : FileState) (e : Environment) : Item → List LogRecord
  | file =>
    match fileDocument state with
    | .error fault =>
      [warn ("Failed to load config from " ++ e.path ++ ": " ++ fault.message e.path)]
    | .ok _ => []
  | fileMode => (accepted (Settings.fileMode e.path) (member? state "mode")).2
  | fileSeed => (accepted (Settings.fileSeed e.path) (member? state "seed")).2
  | modeVariable => (environmentMode e.mode?).2
  | seedVariable => (environmentSeed e.seed?).2

end Item

/-- The log of loading is that of the items, one after the other. -/
theorem load_log (state : FileState) (e : Environment) :
    (load state e).2 = Item.all.flatMap (Item.log state e) := by
  have fileLog : (fileLayer e.path state).2 =
      Item.log state e .file ++ (Item.log state e .fileMode ++ Item.log state e .fileSeed) := by
    rw [fileLayer_eq]
    cases document : fileDocument state with
    | error fault => simp [Item.log, member?, document, accepted]
    | ok x? => simp [Item.log, document]
  show (fileLayer e.path state).2 ++ ((environmentMode e.mode?).2 ++ (environmentSeed e.seed?).2) = _
  rw [fileLog]
  simp [Item.all, Item.log]

/-- A warning tells of an item if its words begin with those for the item. -/
theorem Item.tells_warn {path : String} {item : Item} (rest : String) :
    item.Tells path (warn (item.opening path ++ rest)) :=
  ⟨rfl, rfl, by simp [warn]⟩

/-- A member that is there and is not taken is logged. -/
theorem accepted_log {α : Type} {path : String} (read : Json → Except LogRecord α) {item : Item}
    (tells : ∀ x r, read x = .error r → item.Tells path r) (x? : Option Json) :
    ((∃ x, x? = some x ∧ ∀ value, read x ≠ .ok value) ∧
        ∃ r, (accepted read x?).2 = [r] ∧ item.Tells path r) ∨
      (¬ (∃ x, x? = some x ∧ ∀ value, read x ≠ .ok value) ∧ (accepted read x?).2 = []) := by
  cases x? with
  | none => exact .inr ⟨by simp, rfl⟩
  | some x =>
    cases result : read x with
    | ok value => exact .inr ⟨by simp [result], by simp [accepted, result]⟩
    | error r =>
      exact .inl ⟨⟨x, rfl, by simp [result]⟩, r, by simp [accepted, result], tells x r result⟩

theorem tells_of_fileMode (path : String) (x : Json) (r : LogRecord)
    (refused : fileMode path x = .error r) : Item.fileMode.Tells path r := by
  have words (why : String) : Item.fileMode.Tells path (warn ("Invalid scan.mode=" ++ shown x ++ " in "
      ++ path ++ " (" ++ why ++ "), ignoring")) := by
    simp only [String.append_assoc]
    exact Item.tells_warn _
  cases x with
  | str s =>
    rw [fileMode] at refused
    cases parse : Directive.parse s with
    | ok mode => rw [parse] at refused; cases refused
    | error e =>
      rw [parse] at refused
      cases refused
      exact words _
  | _ =>
    cases refused
    exact words _

theorem tells_of_fileSeed (path : String) (x : Json) (r : LogRecord)
    (refused : fileSeed path x = .error r) : Item.fileSeed.Tells path r := by
  have words : Item.fileSeed.Tells path
      (warn ("Invalid scan.seed=" ++ shown x ++ " in " ++ path ++ ", ignoring")) := by
    simp only [String.append_assoc]
    exact Item.tells_warn _
  cases x with
  | null => cases refused
  | int n => cases refused
  | str s =>
    rw [fileSeed] at refused
    cases numeral : Numeral.read s.toList with
    | ok n => rw [numeral] at refused; cases refused
    | error e =>
      rw [numeral] at refused
      cases refused
      exact words
  | _ =>
    cases refused
    exact words

theorem fileLog_cases (state : FileState) (e : Environment) :
    (Item.file.Rejected state e ∧ ∃ r, Item.file.log state e = [r] ∧ Item.file.Tells e.path r) ∨
      (¬ Item.file.Rejected state e ∧ Item.file.log state e = []) := by
  cases document : fileDocument state with
  | error fault =>
    have unread : Item.file.Rejected state e := by
      refine ⟨?_, fun x holds => ?_⟩
      · rintro rfl
        cases document
      · rw [fileDocument_eq_ok_iff.mpr holds] at document
        cases document
    refine .inl ⟨unread, _, by simp only [Item.log, document]; rfl, ?_⟩
    exact Item.tells_warn (fault.message e.path)
  | ok x? =>
    refine .inr ⟨?_, by simp only [Item.log, document]⟩
    rintro ⟨present, unread⟩
    cases x? with
    | none => exact present (fileDocument_eq_none_iff.mp document)
    | some x => exact unread x (fileDocument_eq_ok_iff.mp document)

theorem modeVariableLog_cases (state : FileState) (e : Environment) :
    (Item.modeVariable.Rejected state e ∧
      ∃ r, Item.modeVariable.log state e = [r] ∧ Item.modeVariable.Tells e.path r) ∨
      (¬ Item.modeVariable.Rejected state e ∧ Item.modeVariable.log state e = []) := by
  simp only [Item.Rejected, Item.log]
  cases e.mode? with
  | none => exact .inr ⟨by simp, rfl⟩
  | some s =>
    by_cases empty : s = ""
    · subst empty
      exact .inr ⟨by simp, rfl⟩
    · cases parse : Directive.parse s with
      | ok mode => simp [environmentMode, empty, parse, IsDirective]
      | error fault =>
        have rejected : ¬ IsDirective s := by simp [IsDirective, parse]
        have logged : (environmentMode (some s)).2 = [warn (Item.modeVariable.opening e.path ++
            (Quoted.text s ++ (" (" ++ (fault.message ++ "), ignoring"))))] := by
          simp only [environmentMode, String.isEmpty_iff, empty, if_false, parse,
            String.append_assoc]
          rfl
        exact .inl ⟨⟨s, rfl, empty, rejected⟩, _, logged, Item.tells_warn _⟩

theorem seedVariableLog_cases (state : FileState) (e : Environment) :
    (Item.seedVariable.Rejected state e ∧
      ∃ r, Item.seedVariable.log state e = [r] ∧ Item.seedVariable.Tells e.path r) ∨
      (¬ Item.seedVariable.Rejected state e ∧ Item.seedVariable.log state e = []) := by
  simp only [Item.Rejected, Item.log]
  cases e.seed? with
  | none => exact .inr ⟨by simp, rfl⟩
  | some s =>
    by_cases empty : s = ""
    · subst empty
      exact .inr ⟨by simp, rfl⟩
    · cases numeral : Numeral.read s.toList with
      | ok n => simp [environmentSeed, empty, numeral]
      | error fault =>
        have rejected : ∀ n, Numeral.read s.toList ≠ .ok n := by simp [numeral]
        have logged : (environmentSeed (some s)).2 =
            [warn (Item.seedVariable.opening e.path ++ (Quoted.text s ++ ", ignoring"))] := by
          simp only [environmentSeed, String.isEmpty_iff, empty, if_false, numeral,
            String.append_assoc]
          rfl
        exact .inl ⟨⟨s, rfl, empty, rejected⟩, _, logged, Item.tells_warn _⟩

/-- Each item is logged once if it is rejected, and not at all otherwise. -/
theorem log_cases (state : FileState) (e : Environment) (item : Item) :
    (item.Rejected state e ∧ ∃ r, item.log state e = [r] ∧ item.Tells e.path r) ∨
      (¬ item.Rejected state e ∧ item.log state e = []) := by
  cases item with
  | file => exact fileLog_cases state e
  | fileMode =>
    have logged := accepted_log _ (tells_of_fileMode e.path) (member? state "mode")
    simpa only [Item.Rejected, Item.log, ne_eq, fileMode_eq_ok_iff, member?_eq_some_iff] using logged
  | fileSeed =>
    have logged := accepted_log _ (tells_of_fileSeed e.path) (member? state "seed")
    simpa only [Item.Rejected, Item.log, ne_eq, fileSeed_eq_ok_iff, member?_eq_some_iff] using logged
  | modeVariable => exact modeVariableLog_cases state e
  | seedVariable => exact seedVariableLog_cases state e

/-- Behind items that are logged so, the whole log tells of the rejected ones in order. -/
theorem exists_rejected (state : FileState) (e : Environment) (items : List Item) :
    ∃ rejected : List Item, rejected.Sublist items ∧
      (∀ item ∈ items, item ∈ rejected ↔ item.Rejected state e) ∧
      List.Forall₂ (Item.Tells e.path) rejected (items.flatMap (Item.log state e)) := by
  classical
  refine ⟨items.filter fun item => decide (item.Rejected state e), List.filter_sublist,
    fun item mem => by simp [mem], ?_⟩
  induction items with
  | nil => exact .nil
  | cons item rest ih =>
    rw [List.flatMap_cons]
    rcases log_cases state e item with ⟨rejected, r, log, tells⟩ | ⟨usable, log⟩
    · rw [List.filter_cons_of_pos (by simpa using rejected), log]
      exact .cons tells ih
    · rw [List.filter_cons_of_neg (by simpa using usable), log]
      exact ih

/-! ### Loading on a stack -/

/-- A file that is nested too deep for so many levels: its text can be decoded, and the reader of
documents gives out on it. -/
def GivesOut (levels : Levels) (file : FileState) (holder : Json.Holder) : Prop :=
  ∃ bytes cs, file = .regular bytes ∧ Utf8.decode bytes = .ok cs ∧
    Json.readWithin (some Decimal.limit) levels (Lines.unify cs) = .error (.tooDeep holder)

theorem overflow?_eq_some_iff {levels : Levels} {file : FileState} {holder : Json.Holder} :
    overflow? levels file = some holder ↔ GivesOut levels file holder := by
  constructor
  · intro gives
    unfold overflow? fileDocumentWithin at gives
    cases file with
    | absent => cases gives
    | directory => cases gives
    | regular bytes =>
      simp only at gives
      cases decoded : Utf8.decode bytes with
      | error fault =>
        rw [decoded] at gives
        cases gives
      | ok cs =>
        rw [decoded] at gives
        simp only at gives
        cases read : Json.readWithin (some Decimal.limit) levels (Lines.unify cs) with
        | ok x =>
          rw [read] at gives
          cases gives
        | error refusal =>
          rw [read] at gives
          cases refusal with
          | tooDeep other =>
            cases gives
            exact ⟨bytes, cs, rfl, decoded, read⟩
          | _ => cases gives
  · rintro ⟨bytes, cs, rfl, decoded, read⟩
    simp only [overflow?, fileDocumentWithin, decoded, read]

/-- Where the number of levels is not bounded, no file is nested too deep. -/
theorem overflow?_none (file : FileState) : overflow? none file = none := by
  cases gives : overflow? none file with
  | none => rfl
  | some holder =>
    obtain ⟨bytes, cs, -, -, read⟩ := overflow?_eq_some_iff.mp gives
    exact absurd read (Json.read_not_tooDeep _ _ holder)

/-- No finite number of levels is enough for every file: brackets can always open one array more. -/
theorem givesOut_brackets (n : Nat) :
    GivesOut (some n) (.ofText (List.replicate (n + 1) '[')) .array := by
  have printed : IsPrinted (List.replicate (n + 1) '[') := by
    intro c mem
    rw [List.eq_of_mem_replicate mem]
    decide
  refine ⟨_, _, rfl, Utf8.decode_encode printed, ?_⟩
  rw [Lines.unify_of_isPrinted printed]
  have deep := Json.readWithin_brackets (some Decimal.limit) n []
  rwa [List.append_nil] at deep

theorem loadWithin_eq_ok_iff {levels : Levels} {file : FileState} {e : Environment}
    {loaded : Settings × List LogRecord} :
    loadWithin levels file e = .ok loaded ↔
      (∀ holder, ¬ GivesOut levels file holder) ∧ loaded = load file e := by
  simp only [← overflow?_eq_some_iff]
  unfold loadWithin
  cases gives : overflow? levels file with
  | none => simp [eq_comm]
  | some holder => simp

theorem loadWithin_eq_error_iff {levels : Levels} {file : FileState} {e : Environment}
    {holder : Json.Holder} :
    loadWithin levels file e = .error holder ↔ GivesOut levels file holder := by
  rw [← overflow?_eq_some_iff]
  unfold loadWithin
  cases overflow? levels file <;> simp

theorem loadWithin_of_fits {levels : Levels} {file : FileState} (e : Environment)
    (fits : ∀ holder, ¬ GivesOut levels file holder) :
    loadWithin levels file e = .ok ((load file e).1, (load file e).2) :=
  loadWithin_eq_ok_iff.mpr ⟨fits, Prod.mk.eta⟩

theorem load_of_loadWithin {levels : Levels} {file : FileState} {e : Environment} {s : Settings}
    {log : List LogRecord} (loaded : loadWithin levels file e = .ok (s, log)) :
    s = (load file e).1 ∧ log = (load file e).2 := by
  rw [← (loadWithin_eq_ok_iff.mp loaded).2]
  exact ⟨rfl, rfl⟩

/-! ### Loading -/

/-- Loading gives out exactly where the file is nested too deep for the levels that there are.
Everywhere else it layers its values. The mode comes from the first usable one of the variable, the
member of the file and the default, and so does the seed; neither depends on what is said of the
other. The mode is always a directive. The log holds one warning for each item that is there and not
usable, in the order of the items. -/
theorem load_layers (levels : Levels) (file : FileState) (e : Environment) :
    (∀ holder, loadWithin levels file e = .error holder ↔ GivesOut levels file holder) ∧
    ((∀ holder, ¬ GivesOut levels file holder) → ∃ s log, loadWithin levels file e = .ok (s, log) ∧
      IsFirst (ModeVariable e.mode?) (fun text => ∃ x, Member file "mode" x ∧ ModeValue x text)
          "first20" s.mode ∧
        IsFirst (SeedVariable e.seed?) (fun seed => ∃ x, Member file "seed" x ∧ SeedValue x seed)
          none s.seed ∧
        (∀ file' e' s' log', loadWithin levels file' e' = .ok (s', log') → e'.mode? = e.mode? →
          (∀ x, Member file' "mode" x ↔ Member file "mode" x) → s'.mode = s.mode) ∧
        (∀ file' e' s' log', loadWithin levels file' e' = .ok (s', log') → e'.seed? = e.seed? →
          (∀ x, Member file' "seed" x ↔ Member file "seed" x) → s'.seed = s.seed) ∧
        (∃ mode, s.resolverMode = .ok mode) ∧
        ∃ rejected : List Item, rejected.Sublist Item.all ∧
          (∀ item, item ∈ rejected ↔ item.Rejected file e) ∧
          List.Forall₂ (Item.Tells e.path) rejected log) := by
  refine ⟨fun holder => loadWithin_eq_error_iff, fun fits => ?_⟩
  refine ⟨(load file e).1, (load file e).2, loadWithin_of_fits e fits, isFirst_mode file e,
    isFirst_seed file e, fun file' e' s' log' loaded given member => ?_,
    fun file' e' s' log' loaded given member => ?_, isDirective_load file e, ?_⟩
  · obtain ⟨rfl, rfl⟩ := load_of_loadWithin loaded
    rw [load_mode, load_mode, given, member?_congr member, accepted_fileMode_eq e'.path e.path]
  · obtain ⟨rfl, rfl⟩ := load_of_loadWithin loaded
    rw [load_seed, load_seed, given, member?_congr member, accepted_fileSeed_eq e'.path e.path]
  · obtain ⟨rejected, shorter, mem, tells⟩ := exists_rejected file e Item.all
    refine ⟨rejected, shorter, fun item => mem item ?_, load_log file e ▸ tells⟩
    cases item <;> decide

/-- A file whose mode is no text and whose seed is the text of a number. -/
def mixedFile : FileState :=
  .ofText "\x7b\"scan\": \x7b\"mode\": true, \"seed\": \" 7 \"\x7d\x7d".toList

/-- With that file, two levels and a variable that is no directive the mode is the default; the seed
is the file's, and two warnings are logged. -/
theorem load_layers_of_mixed :
    ∃ log, loadWithin (some 2) mixedFile ⟨some "bad", none, "config"⟩ =
        .ok (⟨"first20", some 7⟩, log) ∧
      (∃ mode, (⟨"first20", some 7⟩ : Settings).resolverMode = .ok mode) ∧
      ∃ rejected : List Item, rejected.length = 2 ∧ Item.modeVariable ∈ rejected ∧
        List.Forall₂ (Item.Tells "config/config.json") rejected log := by
  have path : (⟨some "bad", none, "config"⟩ : Environment).path = "config/config.json" := by decide
  have settings : (load mixedFile ⟨some "bad", none, "config"⟩).1 = ⟨"first20", some 7⟩ := by
    decide +kernel
  have warnings : (load mixedFile ⟨some "bad", none, "config"⟩).2.length = 2 := by decide +kernel
  have fits : ∀ holder, ¬ GivesOut (some 2) mixedFile holder := by
    intro holder gives
    have none : overflow? (some 2) mixedFile = none := by decide +kernel
    rw [overflow?_eq_some_iff.mpr gives] at none
    cases none
  obtain ⟨s, log, loaded, -, -, -, -, usable, rejected, -, mem, tells⟩ :=
    (load_layers (some 2) mixedFile ⟨some "bad", none, "config"⟩).2 fits
  rw [path] at tells
  obtain ⟨same, logged⟩ := load_of_loadWithin loaded
  rw [settings] at same
  subst same
  have two : log.length = 2 := by rw [logged]; exact warnings
  refine ⟨log, loaded, usable, rejected, tells.length_eq.trans two, ?_, tells⟩
  refine (mem .modeVariable).mpr ⟨"bad", rfl, by decide, ?_⟩
  rintro ⟨directive, parse⟩
  have refused : Directive.parse "bad" = .error (.unrecognized "bad") := by decide
  rw [refused] at parse
  cases parse

/-- With brackets for one array more than there are levels, loading gives out instead of logging that
the file cannot be used. -/
theorem load_gives_out :
    loadWithin (some 950) (.ofText (List.replicate 951 '[')) ⟨none, none, "config"⟩ =
      .error .array :=
  loadWithin_eq_error_iff.mpr (givesOut_brackets 950)

end IndexScan.Settings
