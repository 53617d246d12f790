import IndexScan.Console.Terminal
import IndexScan.Datum.Basic
import IndexScan.Directive.Fault
import IndexScan.Json.Writer
import IndexScan.Text.Lowercase

/-!
Reports: what a command has to say, for a reader or for a program. For a reader every message is
printed as it comes; for a program everything is collected into one document, which is printed at
the end. Both kinds keep the exit code, which the last error sets. What a report hands to the
console does not depend on the terminal; what is printed of it does, and unless another terminal is
named it is one that takes everything.
-/

namespace IndexScan

/-- A report under way. -/
structure Report where
  isJson : Bool
  data : List (String × Json)
  exitCode : Int

namespace Report

/-- Why a report breaks off. -/
inductive Failure where
  | console (fault : Console.Terminal.Fault)
  /-- The member that should collect messages holds something else, of the given type. -/
  | noList (typeName : String)
  /-- An integer of the document is too long to be written. -/
  | tooLong
  deriving DecidableEq, Repr

/-- The wording of a failure. -/
def Failure.message : Failure → String
  | console fault => fault.message
  | noList typeName => "'" ++ typeName ++ "' object has no attribute 'append'"
  | tooLong => Decimal.tooLongToWrite

/-- What a call leaves: the report, what it handed to the console, and why it breaks off after that if
it does. -/
structure Said where
  report : Report
  items : List Console.Item
  broken? : Option Failure

namespace Said

/-- What is printed on a terminal. -/
def printedOn (t : Console.Terminal) (said : Said) : String :=
  (t.printAll said.items).1

/-- Why the call breaks off on a terminal, if it does. -/
def failureOn? (t : Console.Terminal) (said : Said) : Option Failure :=
  ((t.printAll said.items).2.map .console).or said.broken?

/-- What is printed on a terminal that takes everything. -/
def printed (said : Said) : String := said.printedOn .ample

/-- Why the call breaks off even on a terminal that takes everything, if it does. -/
def failure? (said : Said) : Option Failure := said.failureOn? .ample

end Said

/-- The exit code of success. -/
def successCode : Int := 0

/-- The exit code of a bad directive, profile or setting. -/
def invalidCode : Int := 1

/-- The exit code of a file that is missing or cannot be read. -/
def unreadableCode : Int := 3

/-- A report with nothing said. -/
def start (isJson : Bool) : Report :=
  ⟨isJson, [("status", .str "success"), ("errors", .arr []), ("warnings", .arr [])], successCode⟩

/-- Nothing is printed. -/
def silent (r : Report) : Said := ⟨r, [], none⟩

/-- Goes on with a report, unless it broke off. -/
def Said.andThen (said : Said) (next : Report → Said) : Said :=
  match said.failure? with
  | some _ => said
  | none =>
    let later := next said.report
    { later with items := said.items ++ later.items }

/-- Prints lines of marked-up text. -/
def printing (r : Report) (lines : List String) : Said :=
  ⟨r, lines.map .marked, none⟩

/-- Marked-up text that shows `message` as it is. -/
def literal (message : String) : String :=
  String.ofList (Console.Markup.escape message.toList)

/-- The report with a member of its document set. -/
def setData (r : Report) (key : String) (value : Json) : Report :=
  { r with data := Json.insert key value r.data }

/-- The report with an item added to the messages under `key`. -/
def collect (r : Report) (key : String) (item : Json) : Said :=
  match Json.lookup? key r.data with
  | some (.arr items) => (r.setData key (.arr (items ++ [item]))).silent
  | other => ⟨r, [], some (.noList (Datum.ofJson (other.getD .null)).typeName)⟩

/-- A message with what goes with it, as an item of the document. -/
def messageItem (message : String) (category? suggestion? : Option String) : Json :=
  let member (key : String) (value? : Option String) : List (String × Json) :=
    match value? with
    | some value => if value.isEmpty then [] else [(key, .str value)]
    | none => []
  .obj ([("message", .str message)] ++ member "category" category?
    ++ member "suggestion" suggestion?)

/-- The line that shows a suggestion. -/
def suggestionLines : Option String → List String
  | some suggestion => if suggestion.isEmpty then [] else ["  [dim]→ " ++ suggestion ++ "[/dim]"]
  | none => []

/-- Says that something succeeded. -/
def success (r : Report) (message : String) (data : List (String × Json)) : Said :=
  if r.isJson then (data.foldl (fun r d => r.setData d.1 d.2) r).silent
  else r.printing ["[green]✓[/green] " ++ message]

/-- Says that something failed. -/
def error (r : Report) (message : String) (category? suggestion? : Option String)
    (exitCode : Int) : Said :=
  let r := { r with exitCode := exitCode }.setData "status" (.str "error")
  if r.isJson then r.collect "errors" (messageItem message category? suggestion?)
  else r.printing (("[red]✗[/red] " ++ literal message) :: suggestionLines suggestion?)

/-- Says that something is odd. -/
def warning (r : Report) (message : String) (category? suggestion? : Option String) : Said :=
  if r.isJson then r.collect "warnings" (messageItem message category? suggestion?)
  else r.printing (("[yellow]⚠[/yellow] " ++ literal message) :: suggestionLines suggestion?)

/-- Says lines to a reader only. -/
def texts (r : Report) (lines : List String) : Said :=
  if r.isJson then r.silent else r.printing lines

/-- Says something to a reader only. -/
def text (r : Report) (message : String) : Said :=
  r.texts [message]

/-- The key under which a program finds a table: the one given, or its title in lower case with
underscores for spaces. -/
def tableKey (title : String) (key? : Option String) : String :=
  match key? with
  | some key => if key.isEmpty then ofTitle else key
  | none => ofTitle
where
  /-- The key that a title gives. -/
  ofTitle : String :=
    String.ofList ((Text.lower title.toList).map fun c => if c = ' ' then '_' else c)

/-- Shows a table; a program gets each row as an object. -/
def table (r : Report) (title : String) (columns : List String) (rows : List (List String))
    (key? : Option String) : Said :=
  if r.isJson then
    let objects := rows.map fun row =>
      Json.obj (Json.ofPairs (columns.zip (row.map Json.str)))
    (r.setData (tableKey title key?) (.arr objects)).silent
  else ⟨r, [.table ⟨title, columns, rows⟩], none⟩

/-- Ends the report; a program gets its document now. -/
def finish (r : Report) : Said :=
  if r.isJson then
    let r := r.setData "exit_code" (.int r.exitCode)
    let written := (Json.obj r.data).render
    if written.complete then ⟨r, [.plain (String.ofList (written.text ++ ['\n']))], none⟩
    else ⟨r, [], some .tooLong⟩
  else r.silent

/-- Says that a directive is faulty, with the advice that goes with its category. -/
def directiveFault (r : Report) (category : DirectiveError.Category) (message : String) : Said :=
  r.error message (some category.label) category.suggestion? invalidCode

end Report

end IndexScan
