import IndexScan.Command.Run

/-!
The program: carries out one command in the working directory. Answers go to the standard output, log
records and the message of a failure to the standard error.
-/

namespace IndexScan.Program

open IndexScan.Command

/-- What stands at a path of the file system. -/
def look (path : String) : IO FileState := do
  try
    return .regular (← IO.FS.readBinFile path).toList
  catch
    | .noFileOrDirectory .. => return .absent
    | _ => return .directory

/-- What the variables of the environment say about settings. -/
def readEnvironment : IO Environment := do
  let home := (← IO.getEnv "HOME").getD ""
  return ⟨← IO.getEnv "KEYSCAN_MODE", ← IO.getEnv "KEYSCAN_SEED", home ++ "/.config/keyscan"⟩

/-- Looks at the settings file and at the profile that the arguments name. -/
def lookAround (e : Environment) (args : List String) : IO Folder := do
  let folder := Folder.empty.put e.place (← look e.path)
  match Request.ofArguments args with
  | .run ⟨_, _, _, .scan path _ _⟩ =>
    let path := Path.ofText path
    return { folder with outside := [(path, ← look path.text)] }
  | _ => return folder

/-- Makes the settings file what a run says that it is. -/
def store (e : Environment) (before after : FileState) : IO Unit := do
  if before ≠ after then
    match after with
    | .absent => IO.FS.removeFile e.path
    | .directory => return
    | .regular bytes =>
      IO.FS.createDirAll e.directory
      IO.FS.writeBinFile e.path ⟨bytes.toArray⟩

/-- Runs the program with its arguments. -/
def run (args : List String) : IO UInt32 := do
  let environment ← readEnvironment
  let seed := (← IO.getRandomBytes 32).foldl (fun n b => 256 * n + b.toNat) 0
  let w : Workplace := ⟨← lookAround environment args, environment, .seeded (.ofSeed seed)⟩
  let machine := Machine.usual (.ofVariables (← IO.getEnv "COLUMNS") (← IO.getEnv "LINES"))
  let (ending, after) := machine.run w args
  store environment w.settingsFile after.settingsFile
  IO.print ending.printed
  for record in ending.log do
    IO.eprintln (record.level.name ++ " " ++ record.message)
  if let some failure := ending.failure? then
    IO.eprintln failure.message
  return ending.exitCode.toNat.toUInt32

end IndexScan.Program

/-- The entry point of the program. -/
def main (args : List String) : IO UInt32 :=
  IndexScan.Program.run args
