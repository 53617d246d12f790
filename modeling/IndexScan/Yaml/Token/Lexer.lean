import IndexScan.Yaml.Token.Scalar

/-!
From text to tokens, on demand. Indentation opens and closes block collections. A scalar, an alias
or a flow collection may turn out to be a key, which shows only at the colon behind it; so a token
that may be a key, or begin one, is given out only when that is settled.
-/

namespace IndexScan.Yaml

/-- A token that may turn out to be a key: its number, whether it must be one, and where it
begins. -/
structure KeyCandidate where
  number : Nat
  isRequired : Bool
  index : Nat
  mark : Mark
  deriving Repr

/-- The state of reading tokens: the text ahead, the tokens waiting, how many have been given out,
whether the end has been reached, how many flow collections are open, the indentations of the open
block collections, whether a key may begin here, and the candidate of each flow level. -/
structure Lexer where
  cursor : Cursor
  waiting : List Token
  given : Nat
  ended : Bool
  flowLevel : Int
  indent : Int
  indents : List Int
  keyAllowed : Bool
  candidates : List (Int × KeyCandidate)

namespace Lexer

/-- Before the first token of a text. -/
def ofText (cs : List Char) : Lexer :=
  ⟨.ofText cs, [], 0, false, 0, -1, [], true, []⟩

/-- Whether a flow collection is open. -/
def inFlow (l : Lexer) : Bool := l.flowLevel != 0

/-- The most characters between the start of a key and its colon. -/
def keyReach : Nat := 1024

/-- Adds a token behind those that wait. -/
def push (l : Lexer) (t : Token) : Lexer :=
  { l with waiting := l.waiting ++ [t] }

/-- Adds a token without extent at the cursor. -/
def pushHere (l : Lexer) (kind : TokenKind) : Lexer :=
  l.push ⟨kind, l.cursor.mark, l.cursor.mark⟩

/-- Adds a token that consists of the next `n` characters. -/
def pushChars (l : Lexer) (kind : TokenKind) (n : Nat) : Lexer :=
  let after := l.cursor.forward n
  { l.push ⟨kind, l.cursor.mark, after.mark⟩ with cursor := after }

/-- Refuses what stands at the cursor. -/
def refuse {α : Type} (l : Lexer) (context : Option (Context × Option Mark)) (flaw : Flaw) :
    Except Error α :=
  .error (.marked .token context flaw l.cursor.mark)

/-- Refuses a candidate that must be a key and cannot be one any more. -/
def dropCandidate (l : Lexer) (k : KeyCandidate) : Except Error Unit :=
  if k.isRequired then l.refuse (some (.simpleKey, some k.mark)) .noColon else .ok ()

/-- Drops the candidates that are on another line than the cursor or too far from it. -/
def dropStale (l : Lexer) : Except Error Lexer := do
  let stale (k : KeyCandidate) : Bool :=
    k.mark.line != l.cursor.line || k.index + keyReach < l.cursor.index
  for (_, k) in l.candidates do
    if stale k then l.dropCandidate k
  return { l with candidates := l.candidates.filter fun c => !stale c.2 }

/-- The candidate of the open flow level. -/
def candidate? (l : Lexer) : Option KeyCandidate :=
  (l.candidates.find? fun c => c.1 = l.flowLevel).map (·.2)

/-- Without the candidate of the open flow level. -/
def removeCandidate (l : Lexer) : Except Error Lexer := do
  if let some k := l.candidate? then l.dropCandidate k
  return { l with candidates := l.candidates.filter fun c => c.1 ≠ l.flowLevel }

/-- Notes that the next token may turn out to be a key. -/
def noteCandidate (l : Lexer) : Except Error Lexer :=
  if l.keyAllowed then do
    let l ← l.removeCandidate
    let k : KeyCandidate := ⟨l.given + l.waiting.length, !l.inFlow && l.indent == l.cursor.column,
      l.cursor.index, l.cursor.mark⟩
    return { l with candidates := l.candidates ++ [(l.flowLevel, k)] }
  else .ok l

/-- Closes the block collections that are indented more than `column`, innermost first. -/
def closeBlocks (column : Int) : List Int → Lexer → Lexer
  | [], l => l
  | outer :: outers, l =>
    if !l.inFlow ∧ column < l.indent then
      closeBlocks column outers { l.pushHere .blockEnd with indent := outer, indents := outers }
    else l

/-- Closes the block collections that are indented more than `column`. -/
def unwind (l : Lexer) (column : Int) : Lexer :=
  closeBlocks column l.indents l

/-- Opens a block collection at `column` if it is indented more than the open one. -/
def indentTo (l : Lexer) (column : Nat) : Option Lexer :=
  if l.indent < column then
    some { l with indents := l.indent :: l.indents, indent := column }
  else none

/-- Behind blanks, comments and line breaks; a line break outside of flow collections lets a key
begin. `fuel` lines at most. -/
def skipGap : Nat → Lexer → Lexer
  | 0, l => l
  | fuel + 1, l =>
    let c := (l.cursor.skip (· == ' ')).skipComment
    if isBreak c.peek then
      skipGap fuel { l with cursor := c.lineBreak.2, keyAllowed := l.keyAllowed || !l.inFlow }
    else { l with cursor := c }

/-- At the next token; a byte order mark in front of the text is passed over. -/
def toNextToken (l : Lexer) : Lexer :=
  let l := if l.cursor.index = 0 ∧ l.cursor.peek.toNat = 0xFEFF then
      { l with cursor := l.cursor.next } else l
  skipGap (l.cursor.rest.length + 1) l

/-- Reads the end of the text. -/
def fetchEnd (l : Lexer) : Except Error Lexer := do
  let l ← (l.unwind (-1)).removeCandidate
  return { l.pushHere .streamEnd with keyAllowed := false, candidates := [], ended := true }

/-- Reads a directive. -/
def fetchDirective (l : Lexer) : Except Error Lexer := do
  let l ← (l.unwind (-1)).removeCandidate
  let (token, c) ← scanDirective l.cursor
  return { l.push token with keyAllowed := false, cursor := c }

/-- Reads a line that begins or ends a document. -/
def fetchSeparator (l : Lexer) (kind : TokenKind) : Except Error Lexer := do
  let l ← (l.unwind (-1)).removeCandidate
  return { l with keyAllowed := false }.pushChars kind 3

/-- Reads the start of a flow collection. -/
def fetchFlowStart (l : Lexer) (kind : TokenKind) : Except Error Lexer := do
  let l ← l.noteCandidate
  return { l with flowLevel := l.flowLevel + 1, keyAllowed := true }.pushChars kind 1

/-- Reads the end of a flow collection. -/
def fetchFlowEnd (l : Lexer) (kind : TokenKind) : Except Error Lexer := do
  let l ← l.removeCandidate
  return { l with flowLevel := l.flowLevel - 1, keyAllowed := false }.pushChars kind 1

/-- Reads a comma. -/
def fetchFlowEntry (l : Lexer) : Except Error Lexer := do
  let l ← { l with keyAllowed := true }.removeCandidate
  return l.pushChars .flowEntry 1

/-- Reads the indicator of a block entry or of a key, which opens a collection unless one is open
at its column. -/
def fetchBlockIndicator (l : Lexer) (kind start : TokenKind) (flaw : Flaw)
    (keyAllowed : Bool) : Except Error Lexer := do
  let l ← if l.inFlow then pure l
    else if !l.keyAllowed then l.refuse none flaw
    else pure (((l.indentTo l.cursor.column).map fun l => l.pushHere start).getD l)
  let l ← { l with keyAllowed := keyAllowed }.removeCandidate
  return l.pushChars kind 1

/-- Puts a token in front of the waiting token with the given number. -/
def insertAt (l : Lexer) (number : Nat) (t : Token) : Lexer :=
  { l with waiting := l.waiting.insertIdx (number - l.given) t }

/-- Reads a colon: the candidate, if there is one, turns out to be a key. -/
def fetchValue (l : Lexer) : Except Error Lexer := do
  match l.candidate? with
  | some k =>
    let l := { l with candidates := l.candidates.filter fun c => c.1 ≠ l.flowLevel }
    let l := l.insertAt k.number ⟨.key, k.mark, k.mark⟩
    let l := if l.inFlow then l
      else ((l.indentTo k.mark.column).map fun l =>
        l.insertAt k.number ⟨.blockMappingStart, k.mark, k.mark⟩).getD l
    return { l with keyAllowed := false }.pushChars .value 1
  | none =>
    fetchBlockIndicator l .value .blockMappingStart .valueNotAllowed (!l.inFlow)

/-- Reads a token that may turn out to be a key. -/
def fetchKeyLike (l : Lexer) (scan : Cursor → Except Error (Token × Cursor)) :
    Except Error Lexer := do
  let l ← l.noteCandidate
  let (token, c) ← scan l.cursor
  return { l.push token with keyAllowed := false, cursor := c }

/-- Reads a block scalar. -/
def fetchBlock (l : Lexer) (folded : Bool) : Except Error Lexer := do
  let l ← { l with keyAllowed := true }.removeCandidate
  let (token, c) ← scanBlock folded l.indent l.cursor
  return { l.push token with cursor := c }

/-- Reads a plain scalar. -/
def fetchPlain (l : Lexer) : Except Error Lexer := do
  let l ← l.noteCandidate
  let (token, broken, c) := scanPlain l.inFlow l.indent l.cursor
  return { l.push token with keyAllowed := broken, cursor := c }

/-- Whether a plain scalar can begin at the cursor. -/
def atPlain (l : Lexer) : Bool :=
  let ch := l.cursor.peek
  let indicators := "-?:,[]\x7b\x7d#&*!|>'\"%@\x60".toList
  (!isBlankOrEnd ch && !indicators.contains ch) ||
    (!isBlankOrEnd (l.cursor.peekAt 1) && (ch == '-' || (!l.inFlow && (ch == '?' || ch == ':'))))

/-- Reads the token at the cursor, with the tokens that indentation puts in front of it. -/
def fetch (l : Lexer) : Except Error Lexer := do
  let l ← l.toNextToken.dropStale
  let l := l.unwind l.cursor.column
  let c := l.cursor
  let ch := c.peek
  let apart := isBlankOrEnd (c.peekAt 1)
  if c.rest.isEmpty then l.fetchEnd
  else if ch = '%' ∧ c.column = 0 then l.fetchDirective
  else if c.column = 0 ∧ c.atSeparator ∧ ch = '-' then l.fetchSeparator .documentStart
  else if c.column = 0 ∧ c.atSeparator then l.fetchSeparator .documentEnd
  else if ch = '[' then l.fetchFlowStart .flowSequenceStart
  else if ch = '\x7b' then l.fetchFlowStart .flowMappingStart
  else if ch = ']' then l.fetchFlowEnd .flowSequenceEnd
  else if ch = '\x7d' then l.fetchFlowEnd .flowMappingEnd
  else if ch = ',' then l.fetchFlowEntry
  else if ch = '-' ∧ apart then
    l.fetchBlockIndicator .blockEntry .blockSequenceStart .sequenceNotAllowed true
  else if ch = '?' ∧ (l.inFlow ∨ apart) then
    l.fetchBlockIndicator .key .blockMappingStart .keyNotAllowed (!l.inFlow)
  else if ch = ':' ∧ (l.inFlow ∨ apart) then l.fetchValue
  else if ch = '*' then l.fetchKeyLike (scanAnchor true)
  else if ch = '&' then l.fetchKeyLike (scanAnchor false)
  else if ch = '!' then l.fetchKeyLike scanTag
  else if ch = '|' ∧ !l.inFlow then l.fetchBlock false
  else if ch = '>' ∧ !l.inFlow then l.fetchBlock true
  else if ch = '\'' then l.fetchKeyLike (scanQuoted false)
  else if ch = '"' then l.fetchKeyLike (scanQuoted true)
  else if l.atPlain then l.fetchPlain
  else l.refuse (some (.nextToken, none)) (.noTokenStart ch)

/-- The smallest number of a candidate. -/
def nearestCandidate? (l : Lexer) : Option Nat :=
  l.candidates.foldl (fun least c => some (min c.2.number (least.getD c.2.number))) none

/-- Reads tokens until it is settled what the first waiting one is, `fuel` at most. -/
def settle : Nat → Lexer → Except Error Lexer
  | 0, l => .ok l
  | fuel + 1, l =>
    if l.ended then .ok l
    else if l.waiting.isEmpty then do
      settle fuel (← l.fetch)
    else do
      let l ← l.dropStale
      if l.nearestCandidate? = some l.given then settle fuel (← l.fetch) else return l

/-- The next token, which stays where it is. -/
def peek (l : Lexer) : Except Error (Token × Lexer) := do
  let l ← settle (2 * l.cursor.rest.length + 4) l
  return (l.waiting.headD default, l)

/-- Without the next token. -/
def drop (l : Lexer) : Lexer :=
  { l with waiting := l.waiting.tail, given := l.given + 1 }

end Lexer

end IndexScan.Yaml
