import IndexScan.Text.Numeral

/-!
Command lines: what a list of arguments asks for. Options for the whole program stand in front of the
command; the options of a command stand anywhere behind it, up to two dashes alone.
-/

namespace IndexScan.Command

/-- What a command is asked to do. -/
inductive Task where
  /-- Describe the mode that a directive denotes. -/
  | parse (directive : String)
  /-- List the first indices of a mode. -/
  | indexes (directive? : Option String) (seed? : Option Int) (limit : Nat)
  /-- List the first indices that each branch of a profile probes. -/
  | scan (path : String) (seed? : Option Int) (limit : Nat)
  /-- Show or change settings. -/
  | config (action : String) (key? value? : Option String)
  deriving DecidableEq, Repr

/-- A task, and how the program tells of it. -/
structure Invocation where
  isJson : Bool
  isVerbose : Bool
  isDebug : Bool
  task : Task
  deriving DecidableEq, Repr

/-- What a list of arguments asks for. -/
inductive Request where
  | version
  | help
  | run (invocation : Invocation)
  /-- The arguments ask for nothing that there is. -/
  | misuse
  deriving DecidableEq, Repr

/-- An option: its name, its letter if it has one, and whether a value belongs to it. -/
structure Switch where
  name : String
  letter? : Option Char
  takesValue : Bool
  deriving DecidableEq, Repr

/-- An option as given, with its value. -/
abbrev Given := Switch × String

/-- What stands in one argument: options, and whether the next argument is the value of the last. -/
structure Cluster where
  given : List Given
  usesNext : Bool

/-- The options of an argument whose letters are `cs`; `next?` is the argument behind it. -/
def readLetters (switches : List Switch) (next? : Option String) : List Char → Option Cluster
  | [] => some ⟨[], false⟩
  | c :: rest => do
    let switch ← switches.find? fun s => s.letter? = some c
    if !switch.takesValue then
      let cluster ← readLetters switches next? rest
      return ⟨(switch, "") :: cluster.given, cluster.usesNext⟩
    else if !rest.isEmpty then return ⟨[(switch, String.ofList rest)], false⟩
    else
      let value ← next?
      return ⟨[(switch, value)], true⟩

/-- The option of an argument that is the whole name of one, possibly with a value behind an equals
sign. -/
def readName (switch : Switch) (value? next? : Option String) : Option Cluster :=
  match switch.takesValue, value? with
  | true, some value => some ⟨[(switch, value)], false⟩
  | true, none => next?.map fun value => ⟨[(switch, value)], true⟩
  | false, some _ => none
  | false, none => some ⟨[(switch, "")], false⟩

/-- The options of the argument `arg`. -/
def readCluster (switches : List Switch) (arg : String) (next? : Option String) :
    Option Cluster :=
  let cs := arg.toList
  let name := cs.takeWhile fun c => c ≠ '='
  let value? := if name.length < cs.length then some (String.ofList (cs.drop (name.length + 1)))
    else none
  match switches.find? fun s => s.name.toList = name with
  | some switch => readName switch value? next?
  | none => if cs.take 2 = ['-', '-'] then none else readLetters switches next? (cs.drop 1)

/-- Whether an argument holds options. -/
def isOption (arg : String) : Bool :=
  arg.toList.head? == some '-' && arg ≠ "-"

/-- The options among arguments, and the arguments that are none. Options end at two dashes alone;
they also end at the first argument that is none, unless they are `mixed`. -/
def readOptions (switches : List Switch) (mixed : Bool) :
    List String → Option (List Given × List String)
  | [] => some ([], [])
  | arg :: rest =>
    if arg = "--" then some ([], rest)
    else if isOption arg then
      match readCluster switches arg rest.head?, rest with
      | none, _ => none
      | some ⟨given, true⟩, _ :: rest =>
        (readOptions switches mixed rest).map fun (more, others) => (given ++ more, others)
      | some ⟨given, _⟩, rest =>
        (readOptions switches mixed rest).map fun (more, others) => (given ++ more, others)
    else if mixed then
      (readOptions switches mixed rest).map fun (given, others) => (given, arg :: others)
    else some ([], arg :: rest)

/-! ### The options there are -/

/-- Asks for help. -/
def helpSwitch : Switch := ⟨"--help", none, false⟩

/-- Asks for the version. -/
def versionSwitch : Switch := ⟨"--version", none, false⟩

/-- Asks for an answer that a program can read. -/
def jsonSwitch : Switch := ⟨"--json", none, false⟩

/-- Asks for log records of level info and above. -/
def verboseSwitch : Switch := ⟨"--verbose", some 'v', false⟩

/-- Asks for all log records. -/
def debugSwitch : Switch := ⟨"--debug", none, false⟩

/-- Gives the seed of random modes. -/
def seedSwitch : Switch := ⟨"--seed", none, true⟩

/-- Gives the largest number of indices to list. -/
def limitSwitch : Switch := ⟨"--limit", some 'n', true⟩

/-- The options for the whole program. -/
def globalSwitches : List Switch :=
  [jsonSwitch, versionSwitch, verboseSwitch, debugSwitch, helpSwitch]

/-- The options of commands that list indices. -/
def listingSwitches : List Switch :=
  [seedSwitch, limitSwitch, helpSwitch]

/-- Whether an option is given. -/
def isGiven (switch : Switch) (given : List Given) : Bool :=
  given.any fun g => g.1 = switch

/-- The value of an option, the last one if it is given more than once. -/
def valueOf? (switch : Switch) (given : List Given) : Option String :=
  (given.reverse.find? fun g => g.1 = switch).map (·.2)

/-! ### The commands there are -/

/-- The most indices that are listed unless a limit is given. -/
def defaultLimit : Nat := 1000

/-- The integer that the value of an option denotes; an error if it denotes none. -/
def integerOf (text? : Option String) : Except Unit (Option Int) :=
  match text? with
  | none => .ok none
  | some text =>
    match Numeral.readAscii text.toList with
    | .ok n => .ok (some n)
    | .error _ => .error ()

/-- The seed and the limit that the options of a listing give. -/
def listing (given : List Given) : Except Unit (Option Int × Nat) := do
  let seed? ← integerOf (valueOf? seedSwitch given)
  match ← integerOf (valueOf? limitSwitch given) with
  | none => return (seed?, defaultLimit)
  | some (.ofNat limit) => return (seed?, limit)
  | some (.negSucc _) => throw ()

/-- What a reading of a command's arguments asks for. -/
inductive Reading where
  | task (task : Task)
  | help
  | misuse

/-- Reads the arguments of a command: its options, and then its task from the options given and the
other arguments. -/
def readTask (switches : List Switch) (args : List String)
    (task : List Given → List String → Except Unit Task) : Reading :=
  match readOptions switches true args with
  | none => .misuse
  | some (given, others) =>
    if isGiven helpSwitch given then .help
    else
      match task given others with
      | .ok task => .task task
      | .error () => .misuse

/-- Reads the command `name` with its arguments, if there is such a command. -/
def readCommand? (name : String) (args : List String) : Option Reading :=
  match name with
  | "parse" => readTask [helpSwitch] args fun _ others =>
    match others with
    | [directive] => .ok (.parse directive)
    | _ => .error ()
  | "indexes" => readTask listingSwitches args fun given others => do
    let (seed?, limit) ← listing given
    match others with
    | [] => return .indexes none seed? limit
    | [directive] => return .indexes (some directive) seed? limit
    | _ => throw ()
  | "scan" => readTask listingSwitches args fun given others => do
    let (seed?, limit) ← listing given
    match others with
    | [path] => return .scan path seed? limit
    | _ => throw ()
  | "config" => readTask [helpSwitch] args fun _ others =>
    match others with
    | [action] => .ok (.config action none none)
    | [action, key] => .ok (.config action (some key) none)
    | [action, key, value] => .ok (.config action (some key) (some value))
    | _ => .error ()
  | _ => none

/-- What options for the whole program ask for by themselves: of the version and help, the one that is
asked for first. -/
def Request.ofGiven? (given : List Given) : Option Request :=
  (given.find? fun g => g.1 = versionSwitch ∨ g.1 = helpSwitch).map fun g =>
    if g.1 = versionSwitch then .version else .help

/-- What a list of arguments asks for. The version and help come before any command. Behind two dashes
alone an option in the place of a command is still read as one, but no command follows it. -/
def Request.ofArguments (args : List String) : Request :=
  match readOptions globalSwitches false args with
  | none => .misuse
  | some (given, others) =>
    match Request.ofGiven? given, others with
    | some request, _ => request
    | none, [] => .misuse
    | none, name :: args =>
      match readCommand? name args with
      | some .misuse => .misuse
      | some .help => .help
      | some (.task task) =>
        .run ⟨isGiven jsonSwitch given, isGiven verboseSwitch given, isGiven debugSwitch given,
          task⟩
      | none =>
        match readOptions globalSwitches false (name :: args) with
        | none => .misuse
        | some (given, _) => (Request.ofGiven? given).getD .misuse

end IndexScan.Command
