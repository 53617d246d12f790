import IndexScan.Json.Basic
import IndexScan.Levels
import IndexScan.Text.Decimal
import IndexScan.Text.Numeral

/-!
Reading a document from text. The grammar is the usual one, with three additions: the numbers
`NaN`, `Infinity` and `-Infinity`. A refusal names its cause and its place; an integer with more
digits than the reader allows is refused without a place. The reader calls itself for the values in
arrays and objects, and gives out where these are nested deeper than it has levels.
-/

namespace IndexScan.Json

/-- What a text lacks to be a document. -/
inductive Cause where
  | byteOrderMark
  | value
  | propertyName
  | colon
  | comma
  | extraData
  | unterminated
  | controlCharacter
  | badEscape
  | badUnicodeEscape
  deriving DecidableEq, Repr

/-- The wording of a cause. -/
def Cause.text : Cause → String
  | byteOrderMark => "Unexpected UTF-8 BOM (decode using utf-8-sig)"
  | value => "Expecting value"
  | propertyName => "Expecting property name enclosed in double quotes"
  | colon => "Expecting ':' delimiter"
  | comma => "Expecting ',' delimiter"
  | extraData => "Extra data"
  | unterminated => "Unterminated string starting at"
  | controlCharacter => "Invalid control character at"
  | badEscape => "Invalid \\escape"
  | badUnicodeEscape => "Invalid \\uXXXX escape"

/-- The kinds of values that hold others. -/
inductive Holder where
  | array
  | object
  deriving DecidableEq, Repr

/-- The name of a kind of values. -/
def Holder.name : Holder → String
  | array => "array"
  | object => "object"

/-- The wording of the failure of a reader that is to enter a value where it has no level left. -/
def Holder.tooDeep (h : Holder) : String :=
  "maximum recursion depth exceeded while decoding a JSON " ++ h.name ++ " from a unicode string"

/-- Why reading stopped; a place is the number of characters that were left. -/
inductive Stop where
  | at (cause : Cause) (left : Nat)
  | tooLong (digits : Nat)
  | tooDeep (holder : Holder)
  deriving DecidableEq, Repr

/-- A refusal, with the place in lines, columns and characters. -/
inductive Refusal where
  | misplaced (cause : Cause) (line column position : Nat)
  | tooLong (digits : Nat)
  | tooDeep (holder : Holder)
  deriving DecidableEq, Repr

/-- The wording of a refusal. -/
def Refusal.message : Refusal → String
  | misplaced cause line column position =>
    cause.text ++ ": line " ++ Decimal.text line ++ " column " ++ Decimal.text column
      ++ " (char " ++ Decimal.text position ++ ")"
  | tooLong digits => Decimal.tooLongToRead digits
  | tooDeep holder => holder.tooDeep

/-- What a step of reading gives: a result and the text after it. -/
abbrev Reading (α : Type) := Except Stop (α × List Char)

/-- Stops in front of `rest`. -/
def stop {α : Type} (cause : Cause) (rest : List Char) : Except Stop α :=
  .error (.at cause rest.length)

/-- Blanks between the parts of a document. -/
def isGap (c : Char) : Bool :=
  c == ' ' || c == '\n' || c == '\r' || c == '\t'

/-- The text after the blanks at its start. -/
def skipGap (cs : List Char) : List Char :=
  cs.dropWhile isGap

/-- The value of a hexadecimal digit. -/
def hexDigit? (c : Char) : Option Nat :=
  if '0' ≤ c ∧ c ≤ '9' then some (c.toNat - 48)
  else if 'a' ≤ c ∧ c ≤ 'f' then some (c.toNat - 87)
  else if 'A' ≤ c ∧ c ≤ 'F' then some (c.toNat - 55)
  else none

/-- The number with four hexadecimal digits. -/
def hex4? (a b c d : Char) : Option Nat := do
  let a ← hexDigit? a
  let b ← hexDigit? b
  let c ← hexDigit? c
  let d ← hexDigit? d
  return ((a * 16 + b) * 16 + c) * 16 + d

/-- The character that a one-letter escape stands for. -/
def shortEscape? (c : Char) : Option Char :=
  match c with
  | '"' => some '"'
  | '\\' => some '\\'
  | '/' => some '/'
  | 'b' => some '\x08'
  | 'f' => some '\x0c'
  | 'n' => some '\n'
  | 'r' => some '\r'
  | 't' => some '\t'
  | _ => none

/-- The code points of a text up to its closing quote; `left` is the number of characters from the
opening quote on. An escape of four digits must be followed by something. -/
def points (left : Nat) : List Char → Reading (List Nat)
  | [] => .error (.at .unterminated left)
  | ['\\'] => .error (.at .unterminated left)
  | '"' :: rest => .ok ([], rest)
  | '\\' :: 'u' :: a :: b :: c :: d :: next :: rest =>
    match hex4? a b c d with
    | some n => (points left (next :: rest)).map fun (ns, after) => (n :: ns, after)
    | none => stop .badUnicodeEscape ('u' :: a :: b :: c :: d :: next :: rest)
  | '\\' :: e :: rest =>
    if e = 'u' then stop .badUnicodeEscape (e :: rest)
    else
      match shortEscape? e with
      | some c => (points left rest).map fun (ns, after) => (c.toNat :: ns, after)
      | none => stop .badEscape ('\\' :: e :: rest)
  | c :: rest =>
    if c.toNat < 0x20 then stop .controlCharacter (c :: rest)
    else (points left rest).map fun (ns, after) => (c.toNat :: ns, after)

/-- Code points with each high surrogate and the low one after it joined. -/
def joinSurrogates : List Nat → List Nat
  | h :: l :: rest =>
    if 0xD800 ≤ h ∧ h < 0xDC00 ∧ 0xDC00 ≤ l ∧ l < 0xE000 then
      (0x10000 + (h - 0xD800) * 0x400 + (l - 0xDC00)) :: joinSurrogates rest
    else h :: joinSurrogates (l :: rest)
  | ns => ns

/-- The text after an opening quote. -/
def text (rest : List Char) : Reading Json :=
  (points (rest.length + 1) rest).map fun (ns, after) => (ofPoints (joinSurrogates ns), after)

/-- The digits at the start of a text, and what follows. -/
def digitRun (cs : List Char) : List Char × List Char :=
  (cs.takeWhile Char.isDigit, cs.dropWhile Char.isDigit)

/-- The digits after a point, with the text after them; none if the point has no digit. -/
def fraction (cs : List Char) : List Char × List Char :=
  match cs with
  | '.' :: rest =>
    let (ds, after) := digitRun rest
    if ds.isEmpty then ([], cs) else (ds, after)
  | _ => ([], cs)

/-- The exponent at the start of a text: whether it is negative, and its digits. -/
def exponent? (cs : List Char) : Option (Bool × List Char × List Char) :=
  match cs with
  | e :: rest =>
    if e = 'e' ∨ e = 'E' then
      let (negative, rest) := Numeral.splitSign rest
      let (ds, after) := digitRun rest
      if ds.isEmpty then none else some (negative, ds, after)
    else none
  | [] => none

/-- The number at the start of `cs`, behind its sign. -/
def number (limit : Option Nat) (negative : Bool) (whole after : List Char) : Reading Json :=
  let (part, rest) := fraction after
  let float (exponent : Int) (rest : List Char) : Reading Json :=
    let ds := whole ++ part
    .ok (.float (Binary64.ofDecimal negative (Decimal.value ds) ds.length
      (exponent - part.length)), rest)
  match exponent? rest with
  | some (down, ds, rest) =>
    let size : Int := Decimal.value ds
    float (if down then -size else size) rest
  | none =>
    if !part.isEmpty then float 0 rest
    else if limit.any (· < whole.length) then .error (.tooLong whole.length)
    else
      let n : Int := Decimal.value whole
      .ok (.int (if negative then -n else n), rest)

/-- The number whose digits begin at `cs`; `start` is where its sign stands. -/
def signed (limit : Option Nat) (start : List Char) (negative : Bool) (cs : List Char) :
    Reading Json :=
  match cs with
  | '0' :: rest => number limit negative ['0'] rest
  | c :: rest =>
    if c.isDigit then
      let (ds, after) := digitRun rest
      number limit negative (c :: ds) after
    else stop .value start
  | [] => stop .value start

/-- The name of a member and the colon after it. -/
def memberName (cs : List Char) : Except Stop (String × List Char) :=
  match cs with
  | '"' :: rest => do
    let (ns, rest) ← points (rest.length + 1) rest
    match skipGap rest with
    | ':' :: rest => return (String.ofList ((joinSurrogates ns).map Char.ofNat), rest)
    | rest => stop .colon rest
  | _ => stop .propertyName cs

mutual

/-- The value at the start of a text. Every call takes one of `fuel`. -/
def value (limit : Option Nat) (levels : Levels) : Nat → List Char → Except Stop (Json × List Char)
  | 0, cs => stop .value cs
  | fuel + 1, cs =>
    match cs with
    | 'n' :: 'u' :: 'l' :: 'l' :: rest => .ok (.null, rest)
    | 't' :: 'r' :: 'u' :: 'e' :: rest => .ok (.bool true, rest)
    | 'f' :: 'a' :: 'l' :: 's' :: 'e' :: rest => .ok (.bool false, rest)
    | 'N' :: 'a' :: 'N' :: rest => .ok (.float .nan, rest)
    | 'I' :: 'n' :: 'f' :: 'i' :: 'n' :: 'i' :: 't' :: 'y' :: rest =>
      .ok (.float (.infinite false), rest)
    | '-' :: 'I' :: 'n' :: 'f' :: 'i' :: 'n' :: 'i' :: 't' :: 'y' :: rest =>
      .ok (.float (.infinite true), rest)
    | '"' :: rest => text rest
    | '[' :: rest =>
      match levels.inner? with
      | none => .error (.tooDeep .array)
      | some inner =>
        match skipGap rest with
        | ']' :: rest => .ok (.arr [], rest)
        | rest => (items limit inner fuel rest).map fun (xs, after) => (.arr xs, after)
    | '\x7b' :: rest =>
      match levels.inner? with
      | none => .error (.tooDeep .object)
      | some inner =>
        match skipGap rest with
        | '\x7d' :: rest => .ok (.obj [], rest)
        | rest =>
          (members limit inner fuel rest).map fun (ms, after) => (.obj (ofPairs ms), after)
    | '-' :: rest => signed limit cs true rest
    | _ => signed limit cs false cs

/-- The items of an array up to its closing bracket. -/
def items (limit : Option Nat) (levels : Levels) :
    Nat → List Char → Except Stop (List Json × List Char)
  | 0, cs => stop .value cs
  | fuel + 1, cs => do
    let (x, rest) ← value limit levels fuel cs
    match skipGap rest with
    | ']' :: rest => return ([x], rest)
    | ',' :: rest =>
      let (xs, after) ← items limit levels fuel (skipGap rest)
      return (x :: xs, after)
    | rest => stop .comma rest

/-- The members of an object up to its closing brace. -/
def members (limit : Option Nat) (levels : Levels) :
    Nat → List Char → Except Stop (List (String × Json) × List Char)
  | 0, cs => stop .value cs
  | fuel + 1, cs => do
    let (key, rest) ← memberName cs
    let (x, rest) ← value limit levels fuel (skipGap rest)
    match skipGap rest with
    | '\x7d' :: rest => return ([(key, x)], rest)
    | ',' :: rest =>
      let (xs, after) ← members limit levels fuel (skipGap rest)
      return ((key, x) :: xs, after)
    | rest => stop .comma rest

end

/-- The document that `cs` is, blanks around it apart. -/
def document (limit : Option Nat) (levels : Levels) (cs : List Char) : Except Stop Json := do
  if cs.head? = some (Char.ofNat 0xFEFF) then stop .byteOrderMark cs
  let (x, rest) ← value limit levels (2 * cs.length + 1) (skipGap cs)
  let rest := skipGap rest
  if rest.isEmpty then return x else stop .extraData rest

/-- A stop in the text `cs` with its place worked out. -/
def Stop.refusal (cs : List Char) : Stop → Refusal
  | .tooLong digits => .tooLong digits
  | .tooDeep holder => .tooDeep holder
  | .at cause left =>
    let position := cs.length - left
    let before := cs.take position
    let column := (before.reverse.takeWhile (· != '\n')).length + 1
    .misplaced cause (before.count '\n' + 1) column position

/-- Reads a document with so many levels; integers may have `limit` digits. -/
def readWithin (limit : Option Nat) (levels : Levels) (cs : List Char) : Except Refusal Json :=
  (document limit levels cs).mapError (Stop.refusal cs)

/-- Reads a document, however deep; integers may have `limit` digits. -/
def read (limit : Option Nat) (cs : List Char) : Except Refusal Json :=
  readWithin limit none cs

end IndexScan.Json
