import IndexScan.Datum.Basic
import IndexScan.Number.Reader
import IndexScan.Text.Base64
import IndexScan.Text.Lowercase
import IndexScan.Text.Pieces
import IndexScan.Yaml.Error
import IndexScan.Yaml.Tag

/-!
The values of scalars: what a text denotes when it is asked to be of a given type.
-/

namespace IndexScan.Yaml.Scalar

/-- Whether a code point is an unpaired surrogate. -/
def isSurrogate (n : Nat) : Bool := 0xD800 ≤ n && n < 0xE000

/-- The characters of a text; an unpaired surrogate becomes one that no number holds. -/
def chars (ps : Points) : List Char := ps.map Char.ofNat

/-- The text as a value. -/
def text (ps : Points) : Datum :=
  if ps.any isSurrogate then .brokenText ps else .str (String.ofList (chars ps))

/-- The lower case of a text. -/
def lower (ps : Points) : Points :=
  if ps.any isSurrogate then ps else (Text.lower (chars ps)).map Char.toNat

/-- What follows `word` in a text that begins with it. -/
def after? (word : String) (ps : Points) : Option Points :=
  let w := word.toList.map Char.toNat
  if w.isPrefixOf ps then some (ps.drop w.length) else none

/-- A text without underscores. -/
def withoutUnderscores (ps : Points) : Points :=
  ps.filter fun n => n ≠ '_'.toNat

/-- The sign of a number, and what follows it. -/
def splitSign (ps : Points) : Except BadScalar (Bool × Points) :=
  match ps with
  | [] => .error .emptyNumber
  | n :: rest =>
    if n = '-'.toNat then .ok (true, rest)
    else if n = '+'.toNat then .ok (false, rest)
    else .ok (false, ps)

/-- The parts of a number in base sixty. -/
def parts (ps : Points) : List Points :=
  Text.pieces ':'.toNat ps

/-! ### Truth values and numbers -/

/-- The truth value that a word denotes, whatever its case. -/
def truth (ps : Points) : Except BadScalar Bool :=
  let word := lower ps
  let isOneOf (words : List String) : Bool := words.any fun w => w.toList.map Char.toNat = word
  if isOneOf ["yes", "true", "on"] then .ok true
  else if isOneOf ["no", "false", "off"] then .ok false
  else .error (.noTruthValue word)

/-- The integer that digits in base `base` denote. -/
def integerInBase (base : Nat) (ps : Points) : Except BadScalar Int :=
  let reading := if base = 10 then Numeral.read (chars ps) else Numeral.readInBase base (chars ps)
  match reading with
  | .ok n => .ok n
  | .error .malformed => .error (.noInteger base ps)
  | .error (.tooLong digits) => .error (.longInteger digits)

/-- The integer that a text denotes: in base two behind `0b`, sixteen behind `0x`, eight behind
another zero, sixty with colons, and ten otherwise. Underscores do not count. -/
def integer (ps : Points) : Except BadScalar Int := do
  let (negative, body) ← splitSign (withoutUnderscores ps)
  let n ← magnitude body
  return if negative then -n else n
where
  /-- The integer that a text without a sign denotes. -/
  magnitude (body : Points) : Except BadScalar Int := do
    if body = ['0'.toNat] then return 0
    if let some rest := after? "0b" body then return ← integerInBase 2 rest
    if let some rest := after? "0x" body then return ← integerInBase 16 rest
    match body with
    | [] => throw .emptyNumber
    | first :: _ =>
      if first = '0'.toNat then integerInBase 8 body
      else if body.contains ':'.toNat then
        let digits ← (parts body).mapM (integerInBase 10)
        return digits.foldl (fun n d => 60 * n + d) 0
      else integerInBase 10 body

/-- The floating-point number that decimal digits denote. -/
def decimalFloat (ps : Points) : Except BadScalar Binary64 :=
  match Binary64.read? (chars ps) with
  | some x => .ok x
  | none => .error (.noFloat ps)

/-- The sum of digits in base sixty, the last digit first; `base` is the weight of the first. -/
def sexagesimal (sum : Binary64) (base : Int) : List Binary64 → Except BadScalar Binary64
  | [] => .ok sum
  | d :: rest =>
    match Binary64.ofInt base with
    | .infinite _ => .error .hugeFloat
    | weight => sexagesimal (sum.add (d.mul weight)) (base * 60) rest

/-- The floating-point number that a text denotes: in base sixty with colons, and in base ten
otherwise. Underscores and case do not count. -/
def float (ps : Points) : Except BadScalar Binary64 := do
  let (negative, body) ← splitSign (lower (withoutUnderscores ps))
  let x ← magnitude body
  return if negative then x.neg else x
where
  /-- The number that a text without a sign denotes. -/
  magnitude (body : Points) : Except BadScalar Binary64 := do
    if chars body = ".inf".toList then return .infinite false
    if chars body = ".nan".toList then return .nan
    if body.contains ':'.toNat then
      let digits ← (parts body).mapM decimalFloat
      sexagesimal (.zero false) 1 digits.reverse
    else decimalFloat body

/-! ### Bytes -/

/-- What is said of a text with characters beyond ASCII, the first of them at `position`. -/
def notAsciiMessage (ps : Points) (position : Nat) : String :=
  let run := (ps.drop position).takeWhile fun n => 0x80 ≤ n
  let place :=
    if run.length = 1 then
      "character '" ++ String.ofList (run.flatMap Quoted.hexEscape) ++ "' in position "
        ++ Decimal.text position
    else
      "characters in position " ++ Decimal.text position ++ "-"
        ++ Decimal.text (position + run.length - 1 : Nat)
  "'ascii' codec can't encode " ++ place ++ ": ordinal not in range(128)"

/-- The bytes that a text holds. -/
def bytes (ps : Points) : Except Flaw (List UInt8) :=
  match ps.findIdx? fun n => 0x80 ≤ n with
  | some position => .error (.notAscii (notAsciiMessage ps position))
  | none => (Base64.decode (chars ps)).mapError fun refusal => .badBase64 refusal.message

/-! ### Times -/

/-- The microseconds that the digits behind a decimal point denote; digits past the sixth do not
count. -/
def microseconds (ds : List Char) : Nat :=
  let ds := ds.take 6
  Decimal.value (ds ++ List.replicate (6 - ds.length) '0')

/-- The offset in minutes that a written zone denotes. -/
def offset (zone : Option (Bool × List Char × List Char)) : Except BadScalar Int :=
  match zone with
  | none => .ok 0
  | some (negative, hours, minutes) =>
    let size : Int := Decimal.value hours * 60 + Decimal.value minutes
    let minutes := if negative then -size else size
    if size < 24 * 60 then .ok minutes else .error (.time (.offset minutes))

/-- The day or time that a text denotes. -/
def time (ps : Points) : Except BadScalar Datum := do
  match writtenTime? (chars (withoutFinalBreak ps)) with
  | none => throw .noTime
  | some t =>
    let year := Decimal.value t.year
    let month := Decimal.value t.month
    let day := Decimal.value t.day
    match t.clock with
    | none => return .date (← (Date.of? year month day).mapError .time)
    | some (hour, minute, second, fraction) =>
      let offset? ← match t.zone with
        | none => pure none
        | some zone => some <$> offset zone
      let stamp := Timestamp.of? year month day (Decimal.value hour) (Decimal.value minute)
        (Decimal.value second) (microseconds fraction) offset?
      return .timestamp (← stamp.mapError .time)

end IndexScan.Yaml.Scalar
