import IndexScan.Datum.Display
import IndexScan.Text.Utf8

/-!
Problems: what is wrong with data that should be a profile, where, and how a message tells of it.
-/

namespace IndexScan.Profile

/-- The parts of a profile, in their order. -/
inductive Field where
  | name
  | mode
  | branches
  | description
  deriving DecidableEq, Repr

/-- The key of a part. -/
def Field.key : Field → String
  | name => "name"
  | mode => "mode"
  | branches => "branches"
  | description => "description"

/-- The places where a problem can lie. -/
inductive Place where
  /-- The data as a whole. -/
  | whole
  | field (field : Field)
  | item (field : Field) (index : Nat)
  deriving DecidableEq, Repr

/-- The text of a place. -/
def Place.text : Place → String
  | whole => ""
  | field f => f.key
  | item f index => f.key ++ "." ++ Decimal.text index

/-- What can be wrong. -/
inductive Cause where
  | missing
  | notMapping
  | notText
  /-- The text holds what no text may hold. -/
  | badText
  | notList
  | notInteger
  | fraction
  | notFinite
  | badNumeral
  | longNumeral
  /-- The value breaks a rule of profiles, in the words given. -/
  | refused (reason : String)
  deriving DecidableEq, Repr

/-- The word for a cause. -/
def Cause.code : Cause → String
  | missing => "missing"
  | notMapping => "model_type"
  | notText => "string_type"
  | badText => "string_unicode"
  | notList => "list_type"
  | notInteger => "int_type"
  | fraction => "int_from_float"
  | notFinite => "finite_number"
  | badNumeral => "int_parsing"
  | longNumeral => "int_parsing_size"
  | refused _ => "value_error"

/-- The wording of a cause. -/
def Cause.message : Cause → String
  | missing => "Field required"
  | notMapping => "Input should be a valid dictionary or instance of ScanProfile"
  | notText => "Input should be a valid string"
  | badText => "Input should be a valid string, unable to parse raw data as a unicode string"
  | notList => "Input should be a valid list"
  | notInteger => "Input should be a valid integer"
  | fraction => "Input should be a valid integer, got a number with a fractional part"
  | notFinite => "Input should be a finite number"
  | badNumeral => "Input should be a valid integer, unable to parse string as an integer"
  | longNumeral => "Unable to parse input string as an integer, exceeded maximum size"
  | refused reason => "Value error, " ++ reason

/-- A problem: where it lies, what it is, and what was found there. -/
structure Problem where
  place : Place
  cause : Cause
  found : Datum
  deriving Repr

namespace Problem

/-- The longest text of a value that is shown in full, in bytes. -/
def shownLength : Nat := 50

/-- The longest start of `cs` that has at most `room` bytes. -/
def fitting (room : Nat) : List Char → List Char
  | [] => []
  | c :: rest =>
    let size := (Utf8.encodeChar c).length
    if size ≤ room then c :: fitting (room - size) rest else []

/-- A text with its middle left out if it is long. -/
def shorten (cs : List Char) : List Char :=
  if (Utf8.encode cs).length ≤ shownLength then cs
  else
    let before := fitting (shownLength / 2) cs
    let behind := (fitting (shownLength / 2 - 1) cs.reverse).reverse
    before ++ "...".toList ++ behind

/-- The text that shows what was found. -/
def shown (d : Datum) : String :=
  match d.display? with
  | some cs => String.ofList (shorten cs)
  | none => "<unprintable " ++ d.typeName ++ " object>"

/-- Where causes are explained. -/
def explanations : String := "https://errors.pydantic.dev/2.14/v/"

/-- The lines that tell of a problem. -/
def text (p : Problem) : String :=
  p.place.text ++ "\n  " ++ p.cause.message ++ " [type=" ++ p.cause.code ++ ", input_value="
    ++ shown p.found ++ ", input_type=" ++ p.found.typeName
    ++ "]\n    For further information visit " ++ explanations ++ p.cause.code

/-- The message that tells of all problems. -/
def message (problems : List Problem) : String :=
  let count := Decimal.text problems.length
  let noun := if problems.length = 1 then " validation error" else " validation errors"
  "\n".intercalate ((count ++ noun ++ " for ScanProfile") :: problems.map text)

end Problem

end IndexScan.Profile
