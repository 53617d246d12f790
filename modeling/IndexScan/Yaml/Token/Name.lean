import IndexScan.Text.Numeral
import IndexScan.Text.Utf8
import IndexScan.Yaml.Error
import IndexScan.Yaml.Token.Basic

/-!
Reading the tokens that hold names: anchors, aliases, tags and directives.
-/

namespace IndexScan.Yaml

/-- The result of reading from a cursor. -/
abbrev Scanned (α : Type) := Except Error (α × Cursor)

/-- Refuses a malformed token. -/
def malformed {α : Type} (context : Context) (start : Mark) (flaw : Flaw) (c : Cursor) :
    Except Error α :=
  .error (.marked .token (some (context, some start)) flaw c.mark)

/-- Whether `c` may follow the name of an anchor or an alias. -/
def endsAnchor (c : Char) : Bool :=
  isBlankOrEnd c || ['?', ':', ',', ']', '\x7d', '%', '@', '\x60'].contains c

/-- Reads an anchor or an alias. -/
def scanAnchor (isAlias : Bool) (c : Cursor) : Except Error (Token × Cursor) :=
  let start := c.mark
  let context : Context := if isAlias then .reference else .anchor
  let (name, c) := c.next.span isNameChar
  if name.isEmpty ∨ !endsAnchor c.peek then
    malformed context start (.expectedName c.peek) c
  else
    let name := String.ofList name
    .ok (⟨if isAlias then .reference name else .anchor name, start, c.mark⟩, c)

/-- The value of a hexadecimal digit. -/
def hexValue? (c : Char) : Option Nat :=
  if '0' ≤ c ∧ c ≤ '9' then some (c.toNat - 48)
  else if 'a' ≤ c ∧ c ≤ 'f' then some (c.toNat - 87)
  else if 'A' ≤ c ∧ c ≤ 'F' then some (c.toNat - 55)
  else none

/-- The number with `n` hexadecimal digits ahead, or the first character that is none. -/
def hexAhead (c : Cursor) (n : Nat) : Except Char Nat :=
  (List.range n).foldlM (fun value k =>
    match hexValue? (c.peekAt k) with
    | some d => .ok (value * 16 + d)
    | none => .error (c.peekAt k)) 0

/-- Reads the bytes that escapes in a tag stand for, `fuel` of them at most. -/
def scanUriBytes (context : Context) (start : Mark) : Nat → Cursor →
    Except Error (List UInt8 × Cursor)
  | 0, c => .ok ([], c)
  | fuel + 1, c =>
    if c.peek = '%' then
      let c := c.next
      match hexAhead c 2 with
      | .error found => malformed context start (.badUriEscape found) c
      | .ok value => do
        let (bytes, c) ← scanUriBytes context start fuel (c.forward 2)
        return (UInt8.ofNat value :: bytes, c)
    else .ok ([], c)

/-- Whether `c` may stand in a tag. -/
def isUriChar (c : Char) : Bool :=
  c.isAlphanum || "-;/?:@&=+$,_.!~*'()[]".toList.contains c

/-- Reads the parts of a tag, `fuel` of them at most. -/
def scanUriParts (context : Context) (start : Mark) : Nat → Cursor →
    Except Error (List Char × Cursor)
  | 0, c => .ok ([], c)
  | fuel + 1, c => do
    let (plain, c) := c.span isUriChar
    if c.peek = '%' then
      let place := c.mark
      let (bytes, c) ← scanUriBytes context start c.rest.length c
      match Utf8.decode bytes with
      | .error fault =>
        .error (.marked .token (some (context, some start)) (.badUriBytes fault.message) place)
      | .ok cs =>
        let (rest, c) ← scanUriParts context start fuel c
        return (plain ++ cs ++ rest, c)
    else return (plain, c)

/-- Reads the suffix of a tag, or the expansion of a tag handle. -/
def scanUri (isDirective : Bool) (start : Mark) (c : Cursor) : Except Error (String × Cursor) := do
  let context : Context := if isDirective then .directive else .tag
  let found := c.peek
  let isEmpty := !(isUriChar found || found = '%')
  if isEmpty then
    malformed (if isDirective then .directiveParsing else .tagParsing) start (.expectedUri found) c
  else
    let (cs, c) ← scanUriParts context start (c.rest.length + 1) c
    return (String.ofList cs, c)

/-- Reads a tag handle: an exclamation mark, or a name between two. -/
def scanHandle (isDirective : Bool) (start : Mark) (c : Cursor) :
    Except Error (String × Cursor) :=
  let context : Context := if isDirective then .directive else .tag
  if c.peek ≠ '!' then malformed context start (.expectedBang c.peek) c
  else if c.peekAt 1 = ' ' then .ok ("!", c.next)
  else
    let (name, c) := c.next.span isNameChar
    if c.peek ≠ '!' then malformed context start (.expectedBang c.peek) c
    else .ok (String.ofList ('!' :: name ++ ['!']), c.next)

/-- Whether an exclamation mark stands ahead behind the one that begins the tag. -/
def hasHandle (c : Cursor) : Bool :=
  ((c.rest.drop 1).takeWhile fun ch => !isSpaceOrEnd ch).contains '!'

/-- Reads what a tag says. -/
def scanTagText (start : Mark) (c : Cursor) : Except Error (TagText × Cursor) :=
  let ch := c.peekAt 1
  if ch = '<' then do
    let (suffix, c) ← scanUri false start (c.forward 2)
    if c.peek ≠ '>' then malformed .tagParsing start (.expectedAngle c.peek) c
    else return (⟨none, suffix⟩, c.next)
  else if isBlankOrEnd ch then .ok (⟨none, "!"⟩, c.next)
  else if hasHandle c then do
    let (handle, c) ← scanHandle false start c
    let (suffix, c) ← scanUri false start c
    return (⟨some handle, suffix⟩, c)
  else do
    let (suffix, c) ← scanUri false start c.next
    return (⟨some "!", suffix⟩, c)

/-- Reads a tag. -/
def scanTag (c : Cursor) : Except Error (Token × Cursor) := do
  let start := c.mark
  let (text, c) ← scanTagText start c
  if isSpaceOrEnd c.peek then return (⟨.tag text, start, c.mark⟩, c)
  else malformed .tag start (.expectedSpace c.peek) c

/-- Reads a number of a version. -/
def scanVersionNumber (start : Mark) (c : Cursor) : Except Error (Nat × Cursor) :=
  let (digits, after) := c.span Char.isDigit
  if digits.isEmpty then malformed .directive start (.expectedDigit c.peek) c
  else if Decimal.limit < digits.length then .error (.scalar (.longInteger digits.length))
  else .ok (Decimal.value digits, after)

/-- Reads what a directive says behind its name. -/
def scanInstruction (start : Mark) (name : List Char) (c : Cursor) :
    Except Error (Instruction × Cursor) :=
  if name = "YAML".toList then do
    let (major, c) ← scanVersionNumber start (c.skip (· == ' '))
    if c.peek ≠ '.' then malformed .directive start (.expectedDigitOrDot c.peek) c
    else
      let (minor, c) ← scanVersionNumber start c.next
      if isSpaceOrEnd c.peek then return (.version major minor, c)
      else malformed .directive start (.expectedDigitOrSpace c.peek) c
  else if name = "TAG".toList then do
    let (handle, c) ← scanHandle true start (c.skip (· == ' '))
    if c.peek ≠ ' ' then malformed .directive start (.expectedSpace c.peek) c
    else
      let (expansion, c) ← scanUri true start (c.skip (· == ' '))
      if isSpaceOrEnd c.peek then return (.handle handle expansion, c)
      else malformed .directive start (.expectedSpace c.peek) c
  else .ok (.other, c.skip fun ch => !isBreakOrEnd ch)

/-- Behind the spaces, the comment and the line break that may end a line. -/
def scanLineEnd (context : Context) (start : Mark) (c : Cursor) : Except Error Cursor :=
  let c := (c.skip (· == ' ')).skipComment
  if isBreakOrEnd c.peek then .ok c.lineBreak.2
  else malformed context start (.expectedLineEnd c.peek) c

/-- Reads a directive. -/
def scanDirective (c : Cursor) : Except Error (Token × Cursor) := do
  let start := c.mark
  let (name, c) := c.next.span isNameChar
  if name.isEmpty ∨ !isSpaceOrEnd c.peek then
    malformed .directive start (.expectedName c.peek) c
  else
    let (instruction, c) ← scanInstruction start name c
    let stop := c.mark
    let c ← scanLineEnd .directive start c
    return (⟨.directive instruction, start, stop⟩, c)

end IndexScan.Yaml
