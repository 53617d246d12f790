import IndexScan.File
import IndexScan.Profile.Basic
import IndexScan.Yaml.Value
import IndexScan.Yaml.Writer

/-!
Profile files: a profile as a document, written line by line and read back.
-/

namespace IndexScan.Profile

/-! ### Writing -/

/-- The line of a part that is a text. -/
def textLine (field : Field) (text : String) : List Char :=
  let label := (field.key ++ ": ").toList
  label ++ Yaml.Writer.scalar label.length text.toList ++ ['\n']

/-- The lines of the branches. -/
def branchLines (branches : List Int) : List Char :=
  let label := (Field.branches.key ++ ":").toList
  if branches.isEmpty then label ++ " []\n".toList
  else label ++ '\n' :: branches.flatMap fun b => '-' :: ' ' :: Decimal.ofInt b ++ ['\n']

/-- The document of a profile. A description is written if there is one. -/
def document (p : Profile) : List Char :=
  textLine .name p.name ++ textLine .mode p.mode ++ branchLines p.branches
    ++ (p.description?.map (textLine .description)).getD []

/-! ### Reading -/

/-- Why no profile can be read. -/
inductive LoadError where
  | file (e : FileError)
  | encoding (fault : Utf8.Fault)
  | document (e : Yaml.Error)
  /-- The document is no mapping. -/
  | notMapping
  | invalid (problems : List Problem)
  deriving Repr

/-- The wording of a load error for the file at `path`. -/
def LoadError.message (path : String) : LoadError → String
  | file e => e.message
  | encoding fault => fault.message
  | document e => e.message path
  | notMapping => "Scan profile YAML must parse to an object"
  | invalid problems => Problem.message problems

/-- The profile that a document describes, read with the levels of `room`. -/
def ofDocument (room : Yaml.Room) (cs : List Char) : Except LoadError Profile := do
  match ← (Yaml.readWithin room cs).mapError .document with
  | .map entries => (ofEntries entries).mapError .invalid
  | _ => throw .notMapping

/-- A fault as a reader meets it that takes a text piece by piece: what the end of the text cuts off
is a piece of its own. -/
def pieceFault (fault : Utf8.Fault) : Utf8.Fault :=
  match fault.reason with
  | .unexpectedEnd => { fault with start := 0, stop := fault.stop - fault.start }
  | _ => fault

/-- The profile in the file at `path`, read with the levels of `room`. -/
def loadWithin (room : Yaml.Room) (path : String) (file : FileState) : Except LoadError Profile := do
  let bytes ← (file.bytes? path).mapError .file
  let cs ← (Utf8.decode bytes).mapError fun fault => .encoding (pieceFault fault)
  ofDocument room (Lines.unify cs)

/-- The profile in the file at `path`, however deep. -/
def load (path : String) (file : FileState) : Except LoadError Profile :=
  loadWithin .ample path file

end IndexScan.Profile
