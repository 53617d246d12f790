import IndexScan.Settings.Basic

/-!
Sessions: a settings file, an environment, and the settings in force. The settings in force are
loaded when they are first asked for and stay until they are replaced or dropped; changes to file
and environment in between do not show in them. Where loading gives out, none come into force.
-/

namespace IndexScan

/-- A session on a stack with so many levels. Settings in force carry a number, and no two settings
carry the same. -/
structure Session where
  levels : Levels
  file : FileState
  environment : Environment
  inForce : Option (Nat × Settings)
  issued : Nat

namespace Session

/-- A session with no settings in force. -/
def start (levels : Levels) (file : FileState) (environment : Environment) : Session :=
  ⟨levels, file, environment, none, 0⟩

/-- Puts settings in force under a new number. -/
def configure (s : Session) (settings : Settings) : Session :=
  { s with inForce := some (s.issued, settings), issued := s.issued + 1 }

/-- Drops the settings in force. -/
def reset (s : Session) : Session :=
  { s with inForce := none }

/-- Loads settings without putting them in force. -/
def load (s : Session) : Except Json.Holder (Settings × List LogRecord) :=
  Settings.loadWithin s.levels s.file s.environment

/-- The settings in force and their number, loaded now if there are none. -/
def get (s : Session) : Except Json.Holder ((Nat × Settings) × Session × List LogRecord) :=
  match s.inForce with
  | some current => .ok (current, s, [])
  | none => do
    let (settings, log) ← s.load
    return ((s.issued, settings), s.configure settings, log)

/-- Changes the settings in force, which keep their number. -/
def change (s : Session) (f : Settings → Settings) :
    Except Json.Holder (Session × List LogRecord) := do
  let ((number, settings), s, log) ← s.get
  return ({ s with inForce := some (number, f settings) }, log)

/-- Saves the settings in force. -/
def save (s : Session) :
    Except Json.Holder (Option Settings.SaveError × Session × List LogRecord) := do
  let ((_, settings), s, log) ← s.get
  let (error?, file) := settings.save s.file
  return (error?, { s with file := file }, log)

/-- Changes a variable of the environment. -/
def setVariable (s : Session) (name : String) (value? : Option String) : Session :=
  if name = "KEYSCAN_MODE" then
    { s with environment := { s.environment with mode? := value? } }
  else if name = "KEYSCAN_SEED" then
    { s with environment := { s.environment with seed? := value? } }
  else s

end Session

end IndexScan
