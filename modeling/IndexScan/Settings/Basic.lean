import IndexScan.Datum.Display
import IndexScan.Directive
import IndexScan.File
import IndexScan.Json.Reader
import IndexScan.Json.Writer
import IndexScan.Log

/-!
Settings: the directive and the seed that commands fall back on. Each comes from the first layer
that has a usable value: the environment, the settings file, the defaults. What is unusable is
logged and passed over, and one setting never depends on the other. A settings file that is nested
too deep for the stack is not passed over: loading gives out on it.
-/

namespace IndexScan

/-- The settings. No seed means that random modes draw on the entropy of the system. -/
structure Settings where
  mode : String
  seed : Option Int
  deriving DecidableEq, Repr

/-- What settings depend on besides their file: the variables that hold settings, and the path of the
directory of the settings file, which lies in the home directory. -/
structure Environment where
  mode? : Option String
  seed? : Option String
  directory : String
  deriving DecidableEq, Repr

namespace Environment

/-- The place of the settings file: its directory and its name. -/
def place (e : Environment) : List String := [e.directory, "config.json"]

/-- The path of the settings file. -/
def path (e : Environment) : String := "/".intercalate e.place

end Environment

namespace Settings

/-- The settings that nobody has changed. -/
def default : Settings := ⟨"first20", none⟩

/-- The values that a layer has; a layer may have the value that there is no seed. -/
structure Layer where
  mode? : Option String
  seed? : Option (Option Int)
  deriving DecidableEq, Repr

/-- The layer without values. -/
def Layer.empty : Layer := ⟨none, none⟩

/-- The settings with the values of a layer in place of theirs. -/
def overlay (s : Settings) (l : Layer) : Settings :=
  ⟨l.mode?.getD s.mode, l.seed?.getD s.seed⟩

/-- A warning of this part of the program. -/
def warn (message : String) : LogRecord :=
  ⟨.warning, .configuration, message⟩

/-- The text that shows a member of the file. -/
def shown (x : Json) : String :=
  (((Datum.ofJson x).display?).map String.ofList).getD ""

/-- Why a text with unpaired surrogates is no directive. -/
def brokenDirectiveMessage (points : List Nat) : String :=
  let text (ps : List Nat) : String := String.ofList (Quoted.encodePoints ps)
  let word (kind : Mode.Kind) : List Nat := kind.word.toList.map Char.toNat
  let count? := if (word .first).isPrefixOf points then some (points.drop (word .first).length)
    else if (word .random).isPrefixOf points then some (points.drop (word .random).length)
    else none
  match count? with
  | some count =>
    DirectiveError.invalidIntegerMessage DirectiveError.invalidDigitReason (text count)
  | none => DirectiveError.unrecognizedMessage (text points)

/-- The mode that the file at `path` gives, or what is logged instead. -/
def fileMode (path : String) (x : Json) : Except LogRecord String :=
  let refusal (why : String) : Except LogRecord String :=
    .error (warn ("Invalid scan.mode=" ++ shown x ++ " in " ++ path ++ " (" ++ why
      ++ "), ignoring"))
  match x with
  | .str s =>
    match Directive.parse s with
    | .ok _ => .ok s
    | .error e => refusal e.message
  | .brokenText ps => refusal (brokenDirectiveMessage ps)
  | _ => refusal "not a string"

/-- The seed that the file at `path` gives: nothing, an integer, or the text of one. -/
def fileSeed (path : String) (x : Json) : Except LogRecord (Option Int) :=
  let refusal : Except LogRecord (Option Int) :=
    .error (warn ("Invalid scan.seed=" ++ shown x ++ " in " ++ path ++ ", ignoring"))
  match x with
  | .null => .ok none
  | .int n => .ok (some n)
  | .str s =>
    match Numeral.read s.toList with
    | .ok n => .ok (some n)
    | .error _ => refusal
  | _ => refusal

/-- The value of a member that may be absent, and what is logged about it. -/
def accepted {α : Type} (read : Json → Except LogRecord α) : Option Json →
    Option α × List LogRecord
  | none => (none, [])
  | some x =>
    match read x with
    | .ok value => (some value, [])
    | .error record => (none, [record])

/-- The layer of a document in the file at `path`, and what is logged about it. -/
def documentLayer (path : String) (x : Json) : Layer × List LogRecord :=
  match x.get? "scan" with
  | some (.obj scan) =>
    let (mode?, modeLog) := accepted (fileMode path) (Json.lookup? "mode" scan)
    let (seed?, seedLog) := accepted (fileSeed path) (Json.lookup? "seed" scan)
    (⟨mode?, seed?⟩, modeLog ++ seedLog)
  | _ => (.empty, [])

/-- Why a settings file cannot be read. -/
inductive FileFault where
  | isDirectory
  | encoding (fault : Utf8.Fault)
  | document (refusal : Json.Refusal)

/-- The wording of what is wrong with the file at `path`. -/
def FileFault.message (path : String) : FileFault → String
  | isDirectory => (FileError.isDirectory path).message
  | encoding fault => fault.message
  | document refusal => refusal.message

/-- The document in a settings file, read with so many levels; none if there is no file. -/
def fileDocumentWithin (levels : Levels) (file : FileState) : Except FileFault (Option Json) :=
  match file with
  | .absent => .ok none
  | .directory => .error .isDirectory
  | .regular bytes =>
    match Utf8.decode bytes with
    | .error fault => .error (.encoding fault)
    | .ok text =>
      match Json.readWithin (some Decimal.limit) levels (Lines.unify text) with
      | .error refusal => .error (.document refusal)
      | .ok x => .ok (some x)

/-- The document in a settings file, however deep; none if there is no file. -/
def fileDocument (file : FileState) : Except FileFault (Option Json) :=
  fileDocumentWithin none file

/-- The layer of the settings file at `path`, and what is logged about it. -/
def fileLayer (path : String) (file : FileState) : Layer × List LogRecord :=
  match fileDocument file with
  | .error fault =>
    (.empty, [warn ("Failed to load config from " ++ path ++ ": " ++ fault.message path)])
  | .ok none => (.empty, [])
  | .ok (some x) => documentLayer path x

/-- The mode that the environment gives; an empty text gives none. -/
def environmentMode : Option String → Option String × List LogRecord
  | none => (none, [])
  | some s =>
    if s.isEmpty then (none, [])
    else
      match Directive.parse s with
      | .ok _ => (some s, [])
      | .error e =>
        (none, [warn ("Invalid KEYSCAN_MODE=" ++ Quoted.text s ++ " (" ++ e.message
          ++ "), ignoring")])

/-- The seed that the environment gives; an empty text gives none. -/
def environmentSeed : Option String → Option (Option Int) × List LogRecord
  | none => (none, [])
  | some s =>
    if s.isEmpty then (none, [])
    else
      match Numeral.read s.toList with
      | .ok n => (some (some n), [])
      | .error _ => (none, [warn ("Invalid KEYSCAN_SEED=" ++ Quoted.text s ++ ", ignoring")])

/-- The layer of the environment, and what is logged about it. -/
def environmentLayer (e : Environment) : Layer × List LogRecord :=
  let (mode?, modeLog) := environmentMode e.mode?
  let (seed?, seedLog) := environmentSeed e.seed?
  (⟨mode?, seed?⟩, modeLog ++ seedLog)

/-- The settings that file and environment give, and what is logged about them. -/
def load (file : FileState) (e : Environment) : Settings × List LogRecord :=
  let (below, fileLog) := fileLayer e.path file
  let (above, environmentLog) := environmentLayer e
  ((default.overlay below).overlay above, fileLog ++ environmentLog)

/-- What the reader of a settings file is to enter where it has no level left, if it comes to that. -/
def overflow? (levels : Levels) (file : FileState) : Option Json.Holder :=
  match fileDocumentWithin levels file with
  | .error (.document (.tooDeep holder)) => some holder
  | _ => none

/-- The settings that file and environment give, if the reader of the file does not give out. Nothing
is logged before it does. -/
def loadWithin (levels : Levels) (file : FileState) (e : Environment) :
    Except Json.Holder (Settings × List LogRecord) :=
  match overflow? levels file with
  | some holder => .error holder
  | none => .ok (load file e)

/-- The settings as a document. -/
def document (s : Settings) : Json :=
  .obj [("scan", .obj [("mode", .str s.mode),
    ("seed", match s.seed with
      | none => .null
      | some n => .int n)])]

/-- Why settings were not saved. -/
inductive SaveError where
  | isDirectory
  /-- The seed is too long to be written. -/
  | tooLong
  deriving DecidableEq, Repr

/-- The wording of a save error for the file at `path`. -/
def SaveError.message (path : String) : SaveError → String
  | isDirectory => (FileError.isDirectory path).message
  | tooLong => Decimal.tooLongToWrite

/-- Saves settings: what the file is afterwards, and why saving broke off if it did. The text is
written piece by piece, so a seed that is too long leaves what came before it. -/
def save (s : Settings) (file : FileState) : Option SaveError × FileState :=
  match file with
  | .directory => (some .isDirectory, file)
  | _ =>
    let written := s.document.render
    (if written.complete then none else some .tooLong, .ofText written.text)

/-- The mode that the settings' directive denotes. -/
def resolverMode (s : Settings) : Except DirectiveError Mode :=
  Directive.parse s.mode

end Settings

end IndexScan
