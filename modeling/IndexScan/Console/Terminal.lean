import IndexScan.Console.Basic
import IndexScan.Text.Numeral
import IndexScan.Text.Quoted

/-!
Terminals: what is handed to the console, and what comes of it on a terminal. A terminal may have no
size, may lack characters, and may be one that tables are drawn for in ASCII characters. It prints
item by item, up to the first that it does not take.
-/

namespace IndexScan.Console

/-- What is handed to the console at a time. -/
inductive Item where
  /-- A line of marked-up text. -/
  | marked (line : String)
  | table (table : Table)
  /-- A text that is written past the console, as it is. -/
  | plain (text : String)

/-- What the console depends on. -/
structure Terminal where
  /-- Why there is no size, if there is none. -/
  sizeless? : Option String
  /-- What the evaluation of the parameters of a tag complains of. -/
  complaint? : List Char → Option String
  /-- Why a text cannot be encoded, if it cannot. -/
  unencodable? : String → Option String
  /-- Whether the encoding is one that has box characters. -/
  hasBoxes : Bool

namespace Terminal

/-- A terminal that takes everything. -/
def ample : Terminal := ⟨none, fun _ => none, fun _ => none, true⟩

/-- Why an item is not printed. -/
inductive Fault where
  | markup (fault : Markup.Fault)
  | parameters (message : String)
  | sizeless (message : String)
  | unencodable (message : String)
  deriving DecidableEq, Repr

/-- The wording of a fault. -/
def Fault.message : Fault → String
  | markup fault => fault.message
  | parameters message => message
  | sizeless message => message
  | unencodable message => message

/-- Evaluates the parameters of tags. -/
def evaluate (t : Terminal) (markup : String) : Except Fault Unit :=
  match Markup.complaint? t.complaint? [] (Markup.pieces 0 0 0 [] markup.toList) with
  | some message => .error (.parameters message)
  | none => .ok ()

/-- Reads marked-up text. -/
def readMarkup (t : Terminal) (markup : String) : Except Fault Unit := do
  t.evaluate markup
  let _ ← (Markup.render markup.toList).mapError .markup

/-- Asks for the size. -/
def measure (t : Terminal) : Except Fault Unit :=
  match t.sizeless? with
  | some message => .error (.sizeless message)
  | none => .ok ()

/-- Encodes a text. -/
def encode (t : Terminal) (text : String) : Except Fault String :=
  match t.unencodable? text with
  | some message => .error (.unencodable message)
  | none => .ok text

/-- The box that tables are drawn with. -/
def box (t : Terminal) : Box := if t.hasBoxes then .heavy else .ascii

/-- What printing an item writes. The tags of a line are read before the size is asked for, those of a
table after it. -/
def print (t : Terminal) : Item → Except Fault String
  | .marked line => do
    t.evaluate line
    let text ← (Console.print line).mapError .markup
    t.measure
    t.encode text
  | .table table => do
    t.measure
    table.texts.forM t.readMarkup
    let text ← (Console.printTable t.box table).mapError .markup
    t.encode text
  | .plain text => .ok text

/-- What printing items writes, up to the first that is not printed, and why that is not. -/
def printAll (t : Terminal) : List Item → String × Option Fault
  | [] => ("", none)
  | item :: rest =>
    match t.print item with
    | .error fault => ("", some fault)
    | .ok text =>
      let (later, fault?) := t.printAll rest
      (text ++ later, fault?)

/-! ### The variables that give the size -/

/-- What is wrong with the value of a variable that should give a number of cells. One that does not
consist of digits is passed over, but there are digits that are no decimal digits. -/
def sizeFault? (value : String) : Option String :=
  if value.toList.isEmpty ∨ !value.toList.all Text.isDigitLike then none
  else
    match Numeral.read value.toList with
    | .ok _ => none
    | .error .malformed =>
      some ("invalid literal for int() with base 10: " ++ Quoted.text value)
    | .error (.tooLong digits) => some (Decimal.tooLongToRead digits)

/-- The terminal whose numbers of columns and lines are given by variables, and which takes everything
if these are in order. -/
def ofVariables (columns? lines? : Option String) : Terminal :=
  { ample with sizeless? := (columns?.bind sizeFault?).or (lines?.bind sizeFault?) }

end Terminal

end IndexScan.Console
