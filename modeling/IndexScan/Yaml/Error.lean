import IndexScan.Datum.Calendar
import IndexScan.Text.Decimal
import IndexScan.Text.Quoted
import IndexScan.Yaml.Token.Basic

/-!
Why a text is no profile document: it is not well-formed, its parts do not fit together, or a part
of it denotes no value.
-/

namespace IndexScan.Yaml

/-- The kinds of node, as messages name them. -/
inductive NodeKind where
  | scalar
  | sequence
  | mapping
  deriving DecidableEq, Repr

/-- The name of a kind of node. -/
def NodeKind.name : NodeKind → String
  | scalar => "scalar"
  | sequence => "sequence"
  | mapping => "mapping"

/-- The stages at which a text can be refused. -/
inductive Stage where
  /-- A token is malformed. -/
  | token
  /-- The tokens do not fit together. -/
  | structural
  /-- An anchor, an alias or a document is out of place. -/
  | reference
  /-- A node denotes no value. -/
  | value
  deriving DecidableEq, Repr

/-- What was being read when a text was refused. -/
inductive Context where
  | directive
  | directiveParsing
  | tag
  | tagParsing
  | anchor
  | reference
  | nextToken
  | simpleKey
  | blockScalar
  | quotedScalar
  | doubleQuotedScalar
  | node
  | blockNode
  | flowNode
  | blockCollection
  | blockMapping
  | flowSequence
  | flowMapping
  | singleDocument
  | duplicateAnchor (name : String)
  | mappingValue
  | orderedMap
  | pairs
  deriving DecidableEq, Repr

/-- The wording of a context. -/
def Context.text : Context → String
  | directive => "while scanning a directive"
  | directiveParsing => "while parsing a directive"
  | tag => "while scanning a tag"
  | tagParsing => "while parsing a tag"
  | anchor => "while scanning an anchor"
  | reference => "while scanning an alias"
  | nextToken => "while scanning for the next token"
  | simpleKey => "while scanning a simple key"
  | blockScalar => "while scanning a block scalar"
  | quotedScalar => "while scanning a quoted scalar"
  | doubleQuotedScalar => "while scanning a double-quoted scalar"
  | node => "while parsing a node"
  | blockNode => "while parsing a block node"
  | flowNode => "while parsing a flow node"
  | blockCollection => "while parsing a block collection"
  | blockMapping => "while parsing a block mapping"
  | flowSequence => "while parsing a flow sequence"
  | flowMapping => "while parsing a flow mapping"
  | singleDocument => "expected a single document in the stream"
  | duplicateAnchor name => "found duplicate anchor " ++ Quoted.text name ++ "; first occurrence"
  | mappingValue => "while constructing a mapping"
  | orderedMap => "while constructing an ordered map"
  | pairs => "while constructing pairs"

/-- What is wrong with a text. -/
inductive Flaw where
  | noTokenStart (found : Char)
  | sequenceNotAllowed
  | keyNotAllowed
  | valueNotAllowed
  | noColon
  | expectedName (found : Char)
  | expectedDigit (found : Char)
  | expectedDigitOrDot (found : Char)
  | expectedDigitOrSpace (found : Char)
  | expectedSpace (found : Char)
  | expectedLineEnd (found : Char)
  | expectedBang (found : Char)
  | expectedAngle (found : Char)
  | expectedUri (found : Char)
  | badUriEscape (found : Char)
  | badUriBytes (message : String)
  | zeroIndentation
  | expectedIndicators (found : Char)
  | badHexEscape (length : Nat) (found : Char)
  | unknownEscape (found : Char)
  | endOfStream
  | documentSeparator
  | expectedDocumentStart (found : String)
  | duplicateVersion
  | wrongVersion
  | duplicateHandle (handle : String)
  | undefinedHandle (handle : String)
  | expectedContent (found : String)
  | expectedBlockEnd (found : String)
  | expectedSequenceEnd (found : String)
  | expectedMappingEnd (found : String)
  | anotherDocument
  | undefinedAlias (name : String)
  | secondOccurrence
  | unknownTag (tag : String)
  | expectedNode (expected found : NodeKind)
  | unhashableKey
  | mergedNode (found : NodeKind)
  | mergedValue (found : NodeKind)
  | expectedSequence (found : NodeKind)
  | expectedSingleMapping (found : NodeKind)
  | itemCount (found : Nat)
  | notAscii (message : String)
  | badBase64 (message : String)
  deriving DecidableEq, Repr

/-- The text that shows a character. -/
def shownChar (c : Char) : String := Quoted.text (String.singleton c)

/-- The wording of a flaw. -/
def Flaw.text : Flaw → String
  | noTokenStart c => "found character " ++ shownChar c ++ " that cannot start any token"
  | sequenceNotAllowed => "sequence entries are not allowed here"
  | keyNotAllowed => "mapping keys are not allowed here"
  | valueNotAllowed => "mapping values are not allowed here"
  | noColon => "could not find expected ':'"
  | expectedName c => "expected alphabetic or numeric character, but found " ++ shownChar c
  | expectedDigit c => "expected a digit, but found " ++ shownChar c
  | expectedDigitOrDot c => "expected a digit or '.', but found " ++ shownChar c
  | expectedDigitOrSpace c => "expected a digit or ' ', but found " ++ shownChar c
  | expectedSpace c => "expected ' ', but found " ++ shownChar c
  | expectedLineEnd c => "expected a comment or a line break, but found " ++ shownChar c
  | expectedBang c => "expected '!', but found " ++ shownChar c
  | expectedAngle c => "expected '>', but found " ++ shownChar c
  | expectedUri c => "expected URI, but found " ++ shownChar c
  | badUriEscape c =>
    "expected URI escape sequence of 2 hexadecimal numbers, but found " ++ shownChar c
  | badUriBytes message => message
  | zeroIndentation => "expected indentation indicator in the range 1-9, but found 0"
  | expectedIndicators c =>
    "expected chomping or indentation indicators, but found " ++ shownChar c
  | badHexEscape length c =>
    "expected escape sequence of " ++ Decimal.text length ++ " hexadecimal numbers, but found "
      ++ shownChar c
  | unknownEscape c => "found unknown escape character " ++ shownChar c
  | endOfStream => "found unexpected end of stream"
  | documentSeparator => "found unexpected document separator"
  | expectedDocumentStart found =>
    "expected '<document start>', but found " ++ Quoted.text found
  | duplicateVersion => "found duplicate YAML directive"
  | wrongVersion => "found incompatible YAML document (version 1.* is required)"
  | duplicateHandle handle => "duplicate tag handle " ++ Quoted.text handle
  | undefinedHandle handle => "found undefined tag handle " ++ Quoted.text handle
  | expectedContent found => "expected the node content, but found " ++ Quoted.text found
  | expectedBlockEnd found => "expected <block end>, but found " ++ Quoted.text found
  | expectedSequenceEnd found => "expected ',' or ']', but got " ++ Quoted.text found
  | expectedMappingEnd found => "expected ',' or '\x7d', but got " ++ Quoted.text found
  | anotherDocument => "but found another document"
  | undefinedAlias name => "found undefined alias " ++ Quoted.text name
  | secondOccurrence => "second occurrence"
  | unknownTag tag => "could not determine a constructor for the tag " ++ Quoted.text tag
  | expectedNode expected found =>
    "expected a " ++ expected.name ++ " node, but found " ++ found.name
  | unhashableKey => "found unhashable key"
  | mergedNode found => "expected a mapping for merging, but found " ++ found.name
  | mergedValue found =>
    "expected a mapping or list of mappings for merging, but found " ++ found.name
  | expectedSequence found => "expected a sequence, but found " ++ found.name
  | expectedSingleMapping found => "expected a mapping of length 1, but found " ++ found.name
  | itemCount found => "expected a single mapping item, but found " ++ Decimal.text found ++ " items"
  | notAscii message => "failed to convert base64 data into ascii: " ++ message
  | badBase64 message => "failed to decode base64 data: " ++ message

/-- A scalar whose text denotes no value of the type that its tag asks for. -/
inductive BadScalar where
  | noTruthValue (text : Points)
  | emptyNumber
  | noInteger (base : Nat) (text : Points)
  | longInteger (digits : Nat)
  | noFloat (text : Points)
  | hugeFloat
  | noTime
  /-- The node that should give a time is a mapping that stands for a scalar. -/
  | timeOfMapping
  | time (refusal : Date.Refusal)
  | codePoint
  | hugeCodePoint
  deriving DecidableEq, Repr

/-- The wording of the refusal of numbers that denote no time. -/
def refusedTime : Date.Refusal → String
  | .year year => "year " ++ Decimal.text year ++ " is out of range"
  | .month => "month must be in 1..12"
  | .day => "day is out of range for month"
  | .hour => "hour must be in 0..23"
  | .minute => "minute must be in 0..59"
  | .second => "second must be in 0..59"
  | .offset minutes =>
    "offset must be a timedelta strictly between -timedelta(hours=24) and timedelta(hours=24), "
      ++ "not " ++ Timestamp.offsetText minutes ++ "."

/-- How much of a text that is no integer is shown. -/
def shownNumeralLength : Nat := 200

/-- The wording of a bad scalar. -/
def BadScalar.text : BadScalar → String
  | noTruthValue text => String.ofList (Quoted.encodePoints text)
  | emptyNumber => "string index out of range"
  | noInteger base text =>
    "invalid literal for int() with base " ++ Decimal.text base ++ ": "
      ++ String.ofList ((Quoted.encodePoints text).take shownNumeralLength)
  | longInteger digits => Decimal.tooLongToRead digits
  | noFloat text =>
    "could not convert string to float: " ++ String.ofList (Quoted.encodePoints text)
  | hugeFloat => "int too large to convert to float"
  | noTime => "'NoneType' object has no attribute 'groupdict'"
  | timeOfMapping => "expected string or bytes-like object, got 'list'"
  | time refusal => refusedTime refusal
  | codePoint => "chr() arg not in range(0x110000)"
  | hugeCodePoint => "Python int too large to convert to C int"

/-- Whether a bad scalar counts as a fault of the document; the others break off whatever reads it. -/
def BadScalar.isFaultOfDocument : BadScalar → Bool
  | noInteger .. | longInteger _ | noFloat _ | time _ | codePoint => true
  | _ => false

/-- Why a text denotes no value. -/
inductive Error where
  /-- A character that no text may hold, at a position in characters. -/
  | unprintable (character : Char) (position : Nat)
  | marked (stage : Stage) (context : Option (Context × Option Mark)) (flaw : Flaw) (mark : Mark)
  | scalar (bad : BadScalar)
  /-- The reader is to enter what it has no level left for. -/
  | tooDeep
  deriving DecidableEq, Repr

/-- The wording of the failure of a reader that has no level left. -/
def tooDeepText : String := "maximum recursion depth exceeded"

/-- The text of a place in the file `name`. -/
def Mark.text (name : String) (m : Mark) : String :=
  "  in \"" ++ name ++ "\", line " ++ Decimal.text (m.line + 1 : Nat) ++ ", column "
    ++ Decimal.text (m.column + 1 : Nat)

/-- The wording of an error in the file `name`; the place of the context is left out where it is
that of the flaw. -/
def Error.message (name : String) : Error → String
  | unprintable c position =>
    "unacceptable character #x" ++ String.ofList (Decimal.hex 4 c.toNat)
      ++ ": special characters are not allowed\n  in \"" ++ name ++ "\", position "
      ++ Decimal.text position
  | marked _ context flaw mark =>
    let before := match context with
      | none => []
      | some (context, none) => [context.text]
      | some (context, some place) =>
        context.text :: (if place = mark then [] else [place.text name])
    "\n".intercalate (before ++ [flaw.text, mark.text name])
  | scalar bad => bad.text
  | tooDeep => tooDeepText

end IndexScan.Yaml
