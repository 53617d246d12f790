import IndexScan.Mode
import IndexScan.Text.Numeral
import IndexScan.Text.Quoted

/-!
Directives: the short texts that denote resolver modes. `while` stands alone; `first` and `random`
may carry a count of ASCII digits, and without one they count one index. The count must be an
unhardened index.
-/

namespace IndexScan

/-- Why a text is no directive. -/
inductive DirectiveError where
  /-- The count holds something that is no ASCII digit; `cause` says why it is no numeral either,
  if it is none. -/
  | invalidDigit (count : String) (cause : Option Numeral.Refusal)
  /-- The count needs more than 32 bits. -/
  | tooLarge (count : String)
  /-- The count is a hardened index. -/
  | hardened (value : Nat)
  /-- The text begins with no directive word. -/
  | unrecognized (name : String)
  deriving DecidableEq, Repr

namespace DirectiveError

/-- The classes of errors that reports tell apart; `other` is the class of what fits no other. -/
inductive Category where
  | invalidInteger
  | hardenedIndex
  | unrecognizedMode
  | other
  deriving DecidableEq, Repr

/-- The name of a category in reports. -/
def Category.label : Category → String
  | .invalidInteger => "invalid_integer"
  | .hardenedIndex => "hardened_index"
  | .unrecognizedMode => "unrecognized_mode"
  | .other => "resolver_mode"

/-- The advice that goes with a category. -/
def Category.suggestion? : Category → Option String
  | .invalidInteger => some "Use an unsigned decimal count, e.g. first20"
  | .hardenedIndex => some "Counts must be below 2147483648 (2^31)"
  | .unrecognizedMode => some "Valid directives: while, first, first<N>, random, random<N>"
  | .other => none

/-- What is wrong with a count that holds something other than digits. -/
def invalidDigitReason : String := "invalid digit found in string"

/-- What is wrong with a count that needs more than 32 bits. -/
def tooLargeReason : String := "number too large to fit in target type"

/-- What is said of an unusable count, whose text is given. -/
def invalidIntegerMessage (reason shown : String) : String :=
  "Unable to parse resolver mode directive: " ++ reason ++ " (" ++ shown ++ ")"

/-- What is said of an unknown word, whose text is given. -/
def unrecognizedMessage (shown : String) : String :=
  "Unrecognized resolver mode name " ++ shown

/-- The category of an error. -/
def category : DirectiveError → Category
  | invalidDigit .. => .invalidInteger
  | tooLarge _ => .invalidInteger
  | hardened _ => .hardenedIndex
  | unrecognized _ => .unrecognizedMode

/-- The wording of an error. -/
def message : DirectiveError → String
  | invalidDigit count _ => invalidIntegerMessage invalidDigitReason (Quoted.text count)
  | tooLarge count => invalidIntegerMessage tooLargeReason (Quoted.text count)
  | hardened value => hardenedMessage (Decimal.text value)
  | unrecognized name => unrecognizedMessage (Quoted.text name)

end DirectiveError

namespace Directive

/-- What follows `word` at the start of `cs`. -/
def after? (word : List Char) (cs : List Char) : Option (List Char) :=
  match word, cs with
  | [], cs => some cs
  | w :: word, c :: cs => if w = c then after? word cs else none
  | _ :: _, [] => none

/-- Reads a count of one or more characters. Ten digits hold every number of 32 bits, so a longer
count, leading zeros apart, is too large whatever its digits are. -/
def readCount (cs : List Char) : Except DirectiveError UnhardenedIndex :=
  if cs.all Char.isDigit then
    let significant := cs.dropWhile (· == '0')
    if 10 < significant.length ∨ maxWord < Decimal.value significant then
      .error (.tooLarge (String.ofList cs))
    else if h : Decimal.value significant < hardenedBoundary then
      .ok ⟨Decimal.value significant, h⟩
    else .error (.hardened (Decimal.value significant))
  else
    let cause := match Numeral.read cs with
      | .ok _ => none
      | .error refusal => some refusal
    .error (.invalidDigit (String.ofList cs) cause)

/-- The limit that the text after a directive word denotes; no text denotes one. -/
def readLimit (cs : List Char) : Except DirectiveError UnhardenedIndex :=
  if cs.isEmpty then .ok .one else readCount cs

/-- The mode that a directive denotes. -/
def parse (directive : String) : Except DirectiveError Mode :=
  let cs := directive.toList
  match after? (Mode.Kind.word .first).toList cs with
  | some rest => (readLimit rest).map .first
  | none =>
    match after? (Mode.Kind.word .random).toList cs with
    | some rest => (readLimit rest).map .random
    | none =>
      if directive = Mode.Kind.word .single then .ok .single
      else .error (.unrecognized directive)

end Directive

end IndexScan
