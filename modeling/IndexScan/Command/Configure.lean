import IndexScan.Command.Outcome
import IndexScan.Console.Markup
import IndexScan.Text.Lowercase

/-!
Settings at the command line: showing them, changing one of them, and dropping the settings file. A
change is made to the settings in force, environment included, and all of them are saved.
-/

namespace IndexScan.Command

/-- The keys of settings. -/
inductive Key where
  | mode
  | seed
  deriving DecidableEq, Repr

/-- The text of a key. -/
def Key.text : Key → String
  | mode => "scan.mode"
  | seed => "scan.seed"

/-- The keys in alphabetical order. -/
def Key.all : List Key := [mode, seed]

/-- The key with a text. -/
def Key.ofText? (text : String) : Option Key :=
  Key.all.find? fun k => k.text = text

/-- Why a value is not taken for a key. -/
inductive ValueError where
  | directive (error : DirectiveError)
  | noInteger (text : String)
  deriving DecidableEq, Repr

/-- The line that tells of a value that is not taken. -/
def ValueError.line : ValueError → String
  | directive error => "[red]Invalid resolver mode:[/red] " ++ Report.literal error.message
  | noInteger text => "[red]Invalid integer value:[/red] " ++ Report.literal text

/-- Whether a text says that there is no seed. -/
def saysNoSeed (text : String) : Bool :=
  let word := String.ofList (Text.lower text.toList)
  word = "none" || word = ""

/-- The settings with the value of a key changed. -/
def changed (settings : Settings) (key : Key) (value : String) : Except ValueError Settings :=
  match key with
  | .mode =>
    match Directive.parse value with
    | .ok _ => .ok { settings with mode := value }
    | .error e => .error (.directive e)
  | .seed =>
    if saysNoSeed value then .ok { settings with seed := none }
    else
      match Numeral.read value.toList with
      | .ok seed => .ok { settings with seed := some seed }
      | .error _ => .error (.noInteger value)

/-- The lines that name the keys. -/
def keyLines : List String :=
  ["", "Available keys:"] ++ Key.all.map fun k => "  " ++ k.text

/-- The lines that show settings whose file stands, or would stand, at `path`. -/
def settingsLines (path : String) (settings : Settings) (file : FileState) : List String :=
  let seed := match settings.seed with
    | some seed => Decimal.text seed
    | none => "[dim](OS entropy)[/dim]"
  ["", "[bold]Keyscan Configuration[/bold]", String.ofList (List.replicate 40 '─'), "",
   "[bold cyan]Scan[/bold cyan] (defaults for indexes / scan)",
   "  mode = " ++ settings.mode,
   "  seed = " ++ seed,
   "",
   if file.isPresent then "Config file: " ++ path
   else "Config file: [dim]not created yet[/dim] (" ++ path ++ ")",
   ""]

/-- What becomes of the settings file: it stays, it goes, or it is written, which makes its
directory. -/
inductive FileChange where
  | kept
  | removed
  | written (state : FileState)
  deriving DecidableEq, Repr

/-- The lines that confirm that the value of a key was changed and saved. -/
def savedLines (path : String) (key : Key) (value : String) : List String :=
  ["[green]✓[/green] Set " ++ key.text ++ " = " ++ value, "  Saved to " ++ path]

/-- The lines that confirm that the settings file was dropped. -/
def removedLines (path : String) : List String :=
  ["[green]✓[/green] Config reset to defaults", "  Removed " ++ path]

/-- Changes the value of a key and saves the settings, unless a file stands where the directory of the
settings file should be. The change is confirmed when it is made. -/
def setValue (e : Environment) (settings : Settings) (file above : FileState) (key : Key)
    (value : String) : Outcome × FileChange :=
  match changed settings key value with
  | .error error => (.ofLines Report.invalidCode [error.line], .kept)
  | .ok settings =>
    match above with
    | .regular _ => (.broken (.file (.exists e.directory)), .kept)
    | _ =>
      match settings.save file with
      | (some error, file) => (.broken (.save e.path error), .written file)
      | (none, file) => (.ofLines Report.successCode (savedLines e.path key value), .written file)

/-- Drops the settings file at `path`, and confirms it when that is done. -/
def reset (path : String) (file : FileState) : Outcome × FileChange :=
  match file with
  | .absent =>
    (.ofLines Report.successCode ["Config already at defaults (no config file exists)"], .kept)
  | .directory => (.broken (.file (.isDirectory path)), .kept)
  | .regular _ => (.ofLines Report.successCode (removedLines path), .removed)

/-- Shows or changes settings. The settings in force are loaded where they are needed. -/
def configure (e : Environment) (settings : Settings × List LogRecord) (file above : FileState)
    (action : String) (key? value? : Option String) : Outcome × FileChange :=
  let refuse (lines : List String) : Outcome × FileChange :=
    (.ofLines Report.invalidCode lines, .kept)
  match action with
  | "show" =>
    let shown := Outcome.ofLines Report.successCode (settingsLines e.path settings.1 file)
    (shown.logging settings.2, .kept)
  | "set" =>
    match key?.filter (· ≠ ""), value? with
    | some key, some value =>
      match Key.ofText? key with
      | none => refuse (("[red]Unknown key:[/red] " ++ Report.literal key) :: keyLines)
      | some key =>
        let (outcome, change) := setValue e settings.1 file above key value
        (outcome.logging settings.2, change)
    | _, _ => refuse ("[red]Usage:[/red] keyscan config set <key> <value>" :: keyLines)
  | "reset" => reset e.path file
  | _ =>
    refuse ["[red]Unknown action:[/red] " ++ Report.literal action,
      "Valid actions: show, set, reset"]

end IndexScan.Command
