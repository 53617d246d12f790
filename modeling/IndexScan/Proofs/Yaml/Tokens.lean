import IndexScan.Proofs.Yaml.Escapes
import IndexScan.Proofs.Yaml.Plain
import IndexScan.Yaml.Token.Lexer

/-!
The tokens of flat documents, line by line: a line that begins with a key (`gives_key`), the scalar
behind the key (`gives_scalar`), an entry of a list (`gives_entry`) and the end (`gives_end`). A
lexer is known from what it gives out (`Gives`), not from its state: between lines it may or may not
have passed the line end (`AtLine`).
-/

namespace IndexScan.Yaml.Lexer

variable {l l' : Lexer} {c : Cursor} {rest tail cs : List Char} {kinds : List TokenKind}

/-! ### What a lexer gives out -/

/-- The next tokens are of the given kinds. Looking at a token again changes nothing. -/
def Gives : Lexer → List TokenKind → Prop
  | _, [] => True
  | l, kind :: kinds => ∃ t l', l.peek = .ok (t, l') ∧ l'.peek = .ok (t, l') ∧ t.kind = kind ∧
      Gives l'.drop kinds

/-- What the first waiting token is cannot change any more. -/
def IsSettled (l : Lexer) : Prop :=
  l.ended = true ∨ (l.waiting ≠ [] ∧ l.candidates = [])

theorem dropStale_of_none (none : l.candidates = []) : l.dropStale = .ok l := by
  cases l
  cases none
  rfl

theorem settle_of_isSettled (settled : IsSettled l) (fuel : Nat) : settle fuel l = .ok l := by
  cases fuel with
  | zero => rfl
  | succ fuel =>
    rw [settle]
    rcases settled with ended | ⟨waiting, none⟩
    · rw [if_pos ended]
    · have full : ¬ l.waiting.isEmpty = true := by rwa [List.isEmpty_iff]
      have away : l.nearestCandidate? = Option.none := by rw [nearestCandidate?, none]; rfl
      split_ifs with ended
      · rfl
      · rw [dropStale_of_none none]
        simp [bind, Except.bind, away, pure, Except.pure]

theorem peek_of_isSettled (settled : IsSettled l) : l.peek = .ok (l.waiting.headD default, l) := by
  rw [peek, settle_of_isSettled settled]
  rfl

/-- A lexer gives out what it gives out once it has settled. -/
theorem Gives.of_settle (settles : ∀ fuel, settle (fuel + 4) l = .ok l') (settled : IsSettled l')
    (gives : Gives l' kinds) : Gives l kinds := by
  have same : l.peek = l'.peek := by
    rw [peek_of_isSettled settled, peek, settles]
    rfl
  cases kinds with
  | nil => trivial
  | cons kind kinds =>
    obtain ⟨t, l'', first, again, rest⟩ := gives
    exact ⟨t, l'', same.trans first, again, rest⟩

/-- Tokens that wait are given out one by one. -/
theorem Gives.of_waiting {ts : List Token} (waiting : l.waiting = ts) (none : l.candidates = [])
    (gives : Gives { l with waiting := [], given := l.given + ts.length } kinds) :
    Gives l (ts.map Token.kind ++ kinds) := by
  induction ts generalizing l with
  | nil =>
    cases l
    cases waiting
    exact gives
  | cons t ts ih =>
    have settled : IsSettled l := .inr ⟨by rw [waiting]; simp, none⟩
    have peek := peek_of_isSettled settled
    rw [waiting] at peek
    refine ⟨t, l, peek, peek, rfl, ih (by rw [drop, waiting]; rfl) none ?_⟩
    rw [List.length_cons, Nat.add_comm ts.length, ← Nat.add_assoc] at gives
    exact gives

/-! ### Gaps -/

theorem skipGap_stop (stays : NoGap l.cursor.rest) (fuel : Nat) : skipGap (fuel + 1) l = l := by
  have still : (l.cursor.skip (· == ' ')).skipComment = l.cursor ∧ isBreak l.cursor.peek = false := by
    cases here : l.cursor.rest with
    | nil =>
      rw [Cursor.skip_of_end here, Cursor.skipComment, Cursor.peek_of_end here]
      exact ⟨rfl, isBreak_endMark⟩
    | cons ch rest =>
      obtain ⟨space, sharp, inside, -⟩ := stays ch rest here
      rw [Cursor.skip_stop here (by simpa using space), Cursor.skipComment, Cursor.peek_of_rest here,
        if_neg sharp]
      exact ⟨rfl, inside⟩
  rw [skipGap, still.1, if_neg (by rw [still.2]; decide)]

/-- No byte order mark is passed over in front of other text. -/
theorem toNextToken_of_unmarked (unmarked : l.cursor.peek.toNat ≠ 0xFEFF) :
    l.toNextToken = skipGap (l.cursor.rest.length + 1) l := by
  rw [toNextToken, if_neg fun marked => unmarked marked.2]

/-- Where no gap is ahead, the lexer is at the next token. -/
theorem toNextToken_stop (stays : NoGap l.cursor.rest) : l.toNextToken = l := by
  rw [toNextToken_of_unmarked, skipGap_stop stays]
  cases here : l.cursor.rest with
  | nil =>
    rw [Cursor.peek_of_end here]
    decide
  | cons ch rest =>
    rw [Cursor.peek_of_rest here]
    exact (stays ch rest here).2.2.2

/-- A space in front of a token is passed over. -/
theorem toNextToken_space {ch : Char} (here : l.cursor.rest = ' ' :: ch :: rest)
    (stays : NoGap (ch :: rest)) : l.toNextToken = { l with cursor := l.cursor.next } := by
  obtain ⟨space, sharp, inside, -⟩ := stays ch rest rfl
  have behind : l.cursor.next.rest = ch :: rest := by rw [Cursor.next_rest, here]; rfl
  have skipped : l.cursor.skip (· == ' ') = l.cursor.next :=
    Cursor.skip_append (show l.cursor.rest = [' '] ++ ch :: rest from here) (by simp)
      (by simpa using space)
  have peek := Cursor.peek_of_rest behind
  have still : l.cursor.next.skipComment = l.cursor.next := by
    rw [Cursor.skipComment, peek, if_neg sharp]
  rw [toNextToken_of_unmarked (by rw [Cursor.peek_of_rest here]; decide), skipGap, skipped, still,
    if_neg (by rw [peek, inside]; decide)]

/-- The end of a line is passed over, and a key may begin behind it. -/
theorem toNextToken_feed (here : l.cursor.rest = '\n' :: rest) (stays : NoGap rest)
    (block : l.flowLevel = 0) :
    l.toNextToken = { l with
      cursor := ⟨rest, l.cursor.index + 1, l.cursor.line + 1, 0⟩, keyAllowed := true } := by
  have still : (l.cursor.skip (· == ' ')).skipComment = l.cursor := by
    rw [Cursor.skip_stop here (by decide), Cursor.skipComment, Cursor.peek_of_rest here,
      if_neg (by decide)]
  have allowed : (l.keyAllowed || !l.inFlow) = true := by simp [inFlow, block]
  have feed : isBreak l.cursor.peek = true := by rw [Cursor.peek_of_rest here]; decide
  rw [toNextToken_of_unmarked (by rw [Cursor.peek_of_rest here]; decide), skipGap, still,
    if_pos feed, Cursor.lineBreak_of_feed here, allowed, here]
  exact skipGap_stop stays rest.length

/-! ### One token -/

theorem closeBlocks_of_le {column : Int} (le : l.indent ≤ column) (outers : List Int) :
    closeBlocks column outers l = l := by
  cases outers with
  | nil => rfl
  | cons outer outers => rw [closeBlocks, if_neg fun less => absurd less.2 (by omega)]

/-- Passing over a gap first makes no difference. -/
theorem fetch_of_toNextToken (ahead : l.toNextToken = l') (stays : NoGap l'.cursor.rest) :
    l.fetch = l'.fetch := by
  rw [fetch, fetch, ahead, toNextToken_stop stays]

/-- At a token, where no block collection ends. -/
structure AtToken (l : Lexer) : Prop where
  stays : NoGap l.cursor.rest
  fresh : l.dropStale = .ok l
  inside : l.indent ≤ l.cursor.column
  block : l.flowLevel = 0

theorem AtToken.inFlow (ahead : AtToken l) : l.inFlow = false := by
  simp [Lexer.inFlow, ahead.block]

/-- A plain scalar is fetched where one begins, unless a line that separates documents does. -/
theorem fetch_plain (ahead : AtToken l) (begins : BeginsPlain l.cursor.rest)
    (apart : l.cursor.column = 0 → l.cursor.atSeparator = false) : l.fetch = l.fetchPlain := by
  obtain ⟨ch, more, here, flat, space, other, goes⟩ := begins
  have peek := Cursor.peek_of_rest here
  have second := Cursor.peekAt_one here
  generalize more.headD endMark = after at goes second
  have indicator (d : Char) (one : d = '?' ∨ d = ':' ∨ d = '-') :
      ¬ (ch = d ∧ isBlankOrEnd after = true) := by
    rintro ⟨rfl, blank⟩
    rw [goes one] at blank
    cases blank
  have separated : ¬ (l.cursor.column = 0 ∧ l.cursor.atSeparator = true) := by
    rintro ⟨first, separator⟩
    rw [apart first] at separator
    cases separator
  simp only [plainIndicators, List.mem_cons, List.not_mem_nil, or_false, not_or] at other
  have plain : l.atPlain = true := by
    by_cases one : ch = '?' ∨ ch = ':' ∨ ch = '-'
    · rcases one with rfl | rfl | rfl <;> simp [atPlain, peek, second, goes, ahead.inFlow]
    · simp only [not_or] at one
      simp [atPlain, peek, flat.isBlankOrEnd_eq space, other, one]
  simp [fetch, toNextToken_stop ahead.stays, ahead.fresh, bind, Except.bind, unwind,
    closeBlocks_of_le ahead.inside, here, peek, second, ahead.inFlow, other, plain]
  rw [if_neg fun h => separated ⟨h.1, h.2.1⟩, if_neg separated,
    if_neg (indicator '-' (by simp)), if_neg (indicator '?' (by simp)),
    if_neg (indicator ':' (by simp))]

/-- A quoted scalar is fetched at its opening quote. -/
theorem fetch_quoted (ahead : AtToken l) {double : Bool}
    (here : l.cursor.rest = (if double then '"' else '\'') :: rest) :
    l.fetch = l.fetchKeyLike (scanQuoted double) := by
  have peek := Cursor.peek_of_rest here
  cases double <;>
    simp [fetch, toNextToken_stop ahead.stays, ahead.fresh, bind, Except.bind, unwind,
      closeBlocks_of_le ahead.inside, here, peek, ahead.inFlow,
      Cursor.atSeparator_of_rest here (by decide) (by decide)]

/-- A colon is fetched where a blank or a line end is behind it. -/
theorem fetch_colon (ahead : AtToken l) (here : l.cursor.rest = ':' :: rest)
    (apart : isBlankOrEnd (rest.headD endMark) = true) : l.fetch = l.fetchValue := by
  have peek := Cursor.peek_of_rest here
  have second := Cursor.peekAt_one here
  simp only [List.headD_eq_head?_getD] at apart
  simp [fetch, toNextToken_stop ahead.stays, ahead.fresh, bind, Except.bind, unwind,
    closeBlocks_of_le ahead.inside, here, peek, second, apart, ahead.inFlow,
    Cursor.atSeparator_of_rest here (by decide) (by decide)]

/-- So is the dash of an entry. -/
theorem fetch_dash (ahead : AtToken l) (here : l.cursor.rest = '-' :: ' ' :: rest) :
    l.fetch = l.fetchBlockIndicator .blockEntry .blockSequenceStart .sequenceNotAllowed true := by
  have peek := Cursor.peek_of_rest here
  have second : l.cursor.peekAt 1 = ' ' := Cursor.peekAt_one here
  have apart : isBlankOrEnd ' ' = true := by decide
  have separated : l.cursor.atSeparator = false := by simp [Cursor.atSeparator, here]
  simp [fetch, toNextToken_stop ahead.stays, ahead.fresh, bind, Except.bind, unwind,
    closeBlocks_of_le ahead.inside, here, peek, second, apart, separated]

theorem fetch_end (ahead : AtToken l) (here : l.cursor.rest = []) : l.fetch = l.fetchEnd := by
  simp [fetch, toNextToken_stop ahead.stays, ahead.fresh, bind, Except.bind, unwind,
    closeBlocks_of_le ahead.inside, here]

/-! ### Lines -/

theorem beginsLine_word (word : IsWord cs) : BeginsLine (cs ++ rest) := by
  obtain ⟨nonempty, letters⟩ := word
  cases cs with
  | nil => exact absurd rfl nonempty
  | cons ch cs =>
    obtain ⟨flat, space, other, -, -, dash, point⟩ := flat_of_isAlphanum (letters ch (by simp))
    constructor
    · apply noGap_cons flat space
      rintro rfl
      exact other (by decide)
    · intro c here
      exact c.atSeparator_of_rest here dash point

theorem beginsLine_entry : BeginsLine ('-' :: ' ' :: rest) := by
  constructor
  · exact noGap_cons (by decide) (by decide) (by decide)
  · intro c here
    simp [Cursor.atSeparator, here]

theorem beginsLine_end : BeginsLine [] := by
  constructor
  · intro ch more same
    cases same
  · intro c here
    exact c.atSeparator_of_end here

/-- The indentation of the open block collection, if the mapping of the document is open. -/
def indentOf (opened : Bool) : Int := if opened then 0 else -1

/-- The indentations outside of it. -/
def indentsOf (opened : Bool) : List Int := if opened then [-1] else []

/-- The start of a line, no token waiting. The line end in front of it may be still ahead. -/
structure AtLine (l : Lexer) (opened : Bool) (rest : List Char) : Prop where
  idle : l.waiting = [] ∧ l.ended = false
  begins : BeginsLine rest
  ahead : ∃ c given, l.toNextToken =
      ⟨c, [], given, false, 0, indentOf opened, indentsOf opened, true, []⟩ ∧
    c.rest = rest ∧ c.column = 0

/-- Behind a colon or a quoted scalar in the mapping of the document, no token waiting. -/
def Behind (l : Lexer) (rest : List Char) : Prop :=
  ∃ c given, l = ⟨c, [], given, false, 0, 0, [-1], false, []⟩ ∧ c.rest = rest

/-- Behind the last token of a line, the next line follows. -/
theorem Behind.line (behind : Behind l ('\n' :: tail)) (begins : BeginsLine tail) :
    AtLine l true tail := by
  obtain ⟨c, given, rfl, here⟩ := behind
  refine ⟨⟨rfl, rfl⟩, begins, ⟨tail, c.index + 1, c.line + 1, 0⟩, given, ?_, rfl, rfl⟩
  exact toNextToken_feed here begins.1 rfl

theorem settle_fetch (idle : l.waiting = [] ∧ l.ended = false) (fetched : l.fetch = .ok l')
    (fuel : Nat) : settle (fuel + 1) l = settle fuel l' := by
  simp [settle, idle.1, idle.2, fetched, bind, Except.bind]

/-- While the first waiting token may turn out to be a key, the lexer reads on. -/
theorem settle_near {n : Int} {k : KeyCandidate} (one : l.candidates = [(n, k)])
    (unsettled : l.waiting ≠ [] ∧ l.ended = false) (fresh : l.dropStale = .ok l)
    (number : k.number = l.given) (fetched : l.fetch = .ok l') (fuel : Nat) :
    settle (fuel + 1) l = settle fuel l' := by
  have near : l.nearestCandidate? = some l.given := by simp [nearestCandidate?, one, number]
  have full : ¬ l.waiting.isEmpty = true := by rw [List.isEmpty_iff]; exact unsettled.1
  simp [settle, unsettled.2, full, fresh, near, fetched, bind, Except.bind]

/-- The tokens with which the mapping of a document begins. -/
def opening (opened : Bool) : List TokenKind :=
  if opened then [] else [.blockMappingStart]

/-- A candidate on the line of the reader, and near enough, is kept. -/
theorem dropStale_of_near {n : Int} {k : KeyCandidate} (one : l.candidates = [(n, k)])
    (same : k.mark.line = l.cursor.line) (near : l.cursor.index ≤ k.index + keyReach) :
    l.dropStale = .ok l := by
  cases l
  cases one
  have fresh := Nat.not_lt.mpr near
  dsimp only at same fresh
  simp [dropStale, same, fresh, bind, Except.bind, pure, Except.pure]

/-- A candidate on another line is dropped unless it must be a key. -/
theorem dropStale_of_far {n : Int} {k : KeyCandidate} (one : l.candidates = [(n, k)])
    (other : k.mark.line ≠ l.cursor.line) (free : k.isRequired = false) :
    l.dropStale = .ok { l with candidates := [] } := by
  cases l
  cases one
  dsimp only at other
  simp [dropStale, other, dropCandidate, free, bind, Except.bind, pure, Except.pure]

/-- Once the candidate is on another line, the tokens that wait are settled. -/
theorem settle_far {n : Int} {k : KeyCandidate} (one : l.candidates = [(n, k)])
    (unsettled : l.waiting ≠ [] ∧ l.ended = false) (other : k.mark.line ≠ l.cursor.line)
    (free : k.isRequired = false) (fuel : Nat) :
    settle (fuel + 1) l = .ok { l with candidates := [] } := by
  have full : ¬ l.waiting.isEmpty = true := by rw [List.isEmpty_iff]; exact unsettled.1
  simp [settle, unsettled.2, full, dropStale_of_far one other free, nearestCandidate?, bind,
    Except.bind, pure, Except.pure]

/-- Behind a word at the start of a line, which may turn out to be a key. -/
def behindWord (opened : Bool) (given length index line : Nat) (t : Token) (rest : List Char) :
    Lexer :=
  ⟨⟨rest, index + length, line, length⟩, [t], given, false, 0, indentOf opened, indentsOf opened,
    false, [(0, ⟨given, opened, index, ⟨line, 0⟩⟩)]⟩

/-- A word at the start of a line may turn out to be a key. -/
theorem fetch_word (opened : Bool) (given : Nat) (word : IsWord cs)
    (apart : isBlankOrEnd (rest.headD endMark) = true) (here : c.rest = cs ++ ':' :: rest)
    (first : c.column = 0) :
    ∃ stop, fetch ⟨c, [], given, false, 0, indentOf opened, indentsOf opened, true, []⟩ =
      .ok (behindWord opened given cs.length c.index c.line
        ⟨.scalar (pointsOf cs) true, c.mark, stop⟩ (':' :: rest)) := by
  obtain ⟨stop, scanned⟩ := scanPlain_word (indentOf opened) word apart here
  have begins : BeginsLine c.rest := here ▸ beginsLine_word word
  have ahead : AtToken ⟨c, [], given, false, 0, indentOf opened, indentsOf opened, true, []⟩ :=
    ⟨begins.1, dropStale_of_none rfl, by simp only [first]; cases opened <;> decide, rfl⟩
  have required : (indentOf opened == (0 : Int)) = opened := by cases opened <;> rfl
  refine ⟨stop, ?_⟩
  rw [fetch_plain ahead (here ▸ word.begins) fun _ => begins.2 c rfl]
  simp [fetchPlain, noteCandidate, removeCandidate, candidate?, bind, Except.bind, pure,
    Except.pure, Lexer.inFlow, scanned, push, first, required, behindWord, Cursor.mark]

theorem dropStale_behindWord {opened : Bool} {given length index line : Nat} {t : Token}
    (short : length ≤ keyReach) :
    (behindWord opened given length index line t rest).dropStale =
      .ok (behindWord opened given length index line t rest) :=
  dropStale_of_near rfl rfl (Nat.add_le_add_left short index)

/-- At the colon behind it, the word turns out to be a key. -/
theorem fetch_key (opened : Bool) (given index line : Nat) (t : Token) {length : Nat}
    (short : length ≤ keyReach) (apart : isBlankOrEnd (rest.headD endMark) = true) :
    ∃ ts c', fetch (behindWord opened given length index line t (':' :: rest)) =
        .ok ⟨c', ts, given, false, 0, 0, [-1], false, []⟩ ∧
      ts.map Token.kind = opening opened ++ [.key, t.kind, .value] ∧ c'.rest = rest := by
  have inside : indentOf opened ≤ (length : Int) := by cases opened <;> simp [indentOf]
  have stays : NoGap (':' :: rest) := noGap_cons (by decide) (by decide) (by decide)
  rw [fetch_colon ⟨stays, dropStale_behindWord short, inside, rfl⟩ rfl apart]
  let key : Token := ⟨.key, ⟨line, 0⟩, ⟨line, 0⟩⟩
  let start : Token := ⟨.blockMappingStart, ⟨line, 0⟩, ⟨line, 0⟩⟩
  let value : Token := ⟨.value, ⟨line, length⟩, ⟨line, length + 1⟩⟩
  let behind : Cursor := ⟨rest, index + length + 1, line, length + 1⟩
  have next : (Cursor.mk (':' :: rest) (index + length) line length).next = behind :=
    Cursor.next_of_flat rfl (by decide)
  refine ⟨(if opened then [] else [start]) ++ [key, t, value], behind, ?_, ?_, rfl⟩
  · cases opened <;>
      simp [behindWord, fetchValue, candidate?, insertAt, Lexer.inFlow, indentTo, pushChars, push,
        indentOf, indentsOf, Cursor.forward, next, key, start, value, behind, Cursor.mark, pure,
        Except.pure]
  · cases opened <;> rfl

/-- A line that begins with a key. -/
theorem gives_key {opened : Bool} (line : AtLine l opened (cs ++ ':' :: rest)) (word : IsWord cs)
    (short : cs.length ≤ keyReach) (apart : isBlankOrEnd (rest.headD endMark) = true)
    (more : ∀ l', Behind l' rest → Gives l' kinds) :
    Gives l (opening opened ++ [.key, .scalar (pointsOf cs) true, .value] ++ kinds) := by
  obtain ⟨idle, begins, c, given, ahead, here, first⟩ := line
  obtain ⟨stop, noted⟩ := fetch_word opened given word apart here first
  rw [← fetch_of_toNextToken ahead (here ▸ begins.1)] at noted
  generalize first' : Token.mk (.scalar (pointsOf cs) true) c.mark stop = t at noted
  obtain ⟨ts, c', fetched, kinds', left⟩ := fetch_key opened given c.index c.line t short apart
  have waiting : ts ≠ [] := by
    rintro rfl
    cases opened <;> cases kinds'
  have settled : IsSettled ⟨c', ts, given, false, 0, 0, [-1], false, []⟩ := .inr ⟨waiting, rfl⟩
  have settles (fuel : Nat) :
      settle (fuel + 4) l = .ok ⟨c', ts, given, false, 0, 0, [-1], false, []⟩ := by
    have near := settle_near (n := 0) (k := ⟨given, opened, c.index, ⟨c.line, 0⟩⟩) rfl
      ⟨List.cons_ne_nil t [], rfl⟩ (dropStale_behindWord short) rfl fetched (fuel + 2)
    rw [settle_fetch idle noted, near, settle_of_isSettled settled]
  apply Gives.of_settle settles settled
  have kind : t.kind = .scalar (pointsOf cs) true := by rw [← first']
  rw [← kind, ← kinds']
  apply Gives.of_waiting rfl rfl
  exact more _ ⟨c', _, rfl, left⟩

/-- Tokens that are fetched at once, and may not turn out to be keys. -/
theorem Gives.of_fetch {ts : List Token} (idle : l.waiting = [] ∧ l.ended = false)
    (fetched : l.fetch = .ok l') (waiting : l'.waiting = ts) (some : ts ≠ [])
    (none : l'.candidates = [])
    (gives : Gives { l' with waiting := [], given := l'.given + ts.length } kinds) :
    Gives l (ts.map Token.kind ++ kinds) := by
  have settled : IsSettled l' := .inr ⟨waiting ▸ some, none⟩
  have settles (fuel : Nat) : settle (fuel + 4) l = .ok l' := by
    rw [settle_fetch idle fetched, settle_of_isSettled settled]
  exact Gives.of_settle settles settled (Gives.of_waiting waiting none gives)

/-- In the mapping of a document, where no key may begin. -/
def inMapping (c : Cursor) (given : Nat) : Lexer :=
  ⟨c, [], given, false, 0, 0, [-1], false, []⟩

theorem atToken_inMapping {given : Nat} (stays : NoGap c.rest) : AtToken (inMapping c given) :=
  ⟨stays, dropStale_of_none rfl, Int.natCast_nonneg _, rfl⟩

theorem toNextToken_inMapping {given : Nat} (nonempty : rest ≠ []) (here : c.rest = ' ' :: rest)
    (stays : NoGap rest) : (inMapping c given).toNextToken = inMapping c.next given := by
  obtain ⟨ch, more, rfl⟩ := List.exists_cons_of_ne_nil nonempty
  exact toNextToken_space (l := inMapping c given) here stays

/-- A text behind a colon that is written as it is. -/
theorem gives_plain {given : Nat} (here : c.rest = ' ' :: rest) (starts : BeginsPlain rest)
    (reads : ReadsPlain rest cs tail) (begins : BeginsLine tail)
    (more : ∀ l', AtLine l' true tail → Gives l' kinds) :
    Gives (inMapping c given) (.scalar (pointsOf cs) true :: kinds) := by
  have next := c.next_of_flat here (by decide)
  have behind : c.next.rest = rest := by rw [next]
  have nonempty : rest ≠ [] := by
    obtain ⟨ch, more, rfl, -⟩ := starts
    simp
  obtain ⟨stop, last, scanned, left, first, -⟩ :=
    scanPlain_of_reads (behind.symm ▸ starts) (behind.symm ▸ reads)
  have fetched : (inMapping c given).fetch = .ok ⟨last,
      [⟨.scalar (pointsOf cs) true, c.next.mark, stop⟩], given, false, 0, 0, [-1], true, []⟩ := by
    rw [fetch_of_toNextToken (toNextToken_inMapping nonempty here starts.noGap)
      (behind.symm ▸ starts.noGap)]
    rw [fetch_plain (atToken_inMapping (behind.symm ▸ starts.noGap)) (behind.symm ▸ starts)
      fun zero => by rw [inMapping, next] at zero; cases zero]
    simp [inMapping, fetchPlain, noteCandidate, bind, Except.bind, pure, Except.pure, Lexer.inFlow,
      scanned, push]
  apply Gives.of_fetch ⟨rfl, rfl⟩ fetched rfl (List.cons_ne_nil _ _) rfl
  apply more
  exact ⟨⟨rfl, rfl⟩, begins, last, _, toNextToken_stop (left.symm ▸ begins.1), left, first⟩

/-- A text behind a colon that is written between quotes. -/
theorem gives_quoted {given : Nat} (double : Bool)
    (here : c.rest = ' ' :: (if double then '"' else '\'') :: rest)
    (scans : ∃ last, scanQuoted double c.next =
      .ok (⟨.scalar (pointsOf cs) false, c.next.mark, last.mark⟩, last) ∧ last.rest = '\n' :: tail)
    (begins : BeginsLine tail) (more : ∀ l', AtLine l' true tail → Gives l' kinds) :
    Gives (inMapping c given) (.scalar (pointsOf cs) false :: kinds) := by
  have behind : c.next.rest = (if double then '"' else '\'') :: rest := by
    rw [c.next_rest, here]
    rfl
  have stays : NoGap ((if double then '"' else '\'') :: rest) := by
    cases double <;> exact noGap_cons (by decide) (by decide) (by decide)
  obtain ⟨last, scanned, left⟩ := scans
  have fetched : (inMapping c given).fetch = .ok ⟨last,
      [⟨.scalar (pointsOf cs) false, c.next.mark, last.mark⟩], given, false, 0, 0, [-1], false,
      []⟩ := by
    rw [fetch_of_toNextToken (toNextToken_inMapping (List.cons_ne_nil _ _) here stays)
      (behind.symm ▸ stays)]
    rw [fetch_quoted (l := inMapping c.next given) (atToken_inMapping (behind.symm ▸ stays)) behind]
    simp [inMapping, fetchKeyLike, noteCandidate, bind, Except.bind, pure, Except.pure, scanned,
      push]
  apply Gives.of_fetch ⟨rfl, rfl⟩ fetched rfl (List.cons_ne_nil _ _) rfl
  apply more
  exact Behind.line ⟨last, _, rfl, left⟩ begins

/-- A text behind a colon is one token, however it is written. -/
theorem gives_scalar {column : Nat}
    (behind : Behind l (' ' :: (Writer.scalar column cs ++ '\n' :: tail)))
    (begins : BeginsLine tail) (more : ∀ l', AtLine l' true tail → Gives l' kinds) :
    Gives l (.scalar (pointsOf cs) (Writer.allowsPlain cs) :: kinds) := by
  obtain ⟨c, given, rfl, here⟩ := behind
  have next : c.next.rest = Writer.scalar column cs ++ '\n' :: tail := by
    rw [c.next_rest, here]
    rfl
  have apart : ('\n' :: tail).head? ≠ some '\'' := by simp
  rw [Writer.scalar] at here next
  by_cases plain : Writer.allowsPlain cs = true
  · rw [if_pos plain] at here
    rw [plain]
    exact gives_plain here (beginsPlain_folded plain column)
      ((readsPlain_folded begins (plainRest_of_allowsPlain plain ' ') column).1 none) begins more
  · rw [if_neg plain] at here next
    rw [Bool.not_eq_true] at plain
    rw [plain]
    by_cases single : Writer.allowsSingle cs = true
    · rw [if_pos single] at here next
      simp only [List.cons_append, List.append_assoc, List.nil_append] at here next
      exact gives_quoted false here
        (scanQuoted_folded apart single (column + 1) next) begins more
    · rw [if_neg single] at here next
      simp only [List.cons_append, List.append_assoc, List.nil_append] at here next
      exact gives_quoted true here
        (scanQuoted_escaped apart cs (column + 1) next) begins more

/-! ### Entries of a list -/

/-- A scalar behind the dash of an entry. That it begins no key is settled by the end of its line. -/
theorem gives_item {given : Nat} (here : c.rest = ' ' :: (cs ++ '\n' :: tail)) (word : IsWord cs)
    (begins : BeginsLine tail) (more : ∀ l', AtLine l' true tail → Gives l' kinds) :
    Gives ⟨c, [], given, false, 0, 0, [-1], true, []⟩ (.scalar (pointsOf cs) true :: kinds) := by
  have next := c.next_of_flat here (by decide)
  have behind : c.next.rest = cs ++ '\n' :: tail := by rw [next]
  have starts : BeginsPlain c.next.rest := behind.symm ▸ word.begins
  obtain ⟨ch, ds, same⟩ := List.exists_cons_of_ne_nil word.1
  obtain ⟨stop, last, scanned, left, first, line⟩ :=
    scanPlain_of_reads starts (behind.symm ▸ readsPlain_word begins word.2)
  have ahead : toNextToken ⟨c, [], given, false, 0, 0, [-1], true, []⟩ =
      ⟨c.next, [], given, false, 0, 0, [-1], true, []⟩ := by
    rw [behind, same] at starts
    rw [same] at here
    exact toNextToken_space (l := ⟨c, [], given, false, 0, 0, [-1], true, []⟩) here starts.noGap
  have atToken : AtToken ⟨c.next, [], given, false, 0, 0, [-1], true, []⟩ :=
    ⟨starts.noGap, dropStale_of_none rfl, Int.natCast_nonneg _, rfl⟩
  have free : ¬ (0 : Int) = c.column + 1 := by omega
  have fetched : fetch ⟨c, [], given, false, 0, 0, [-1], true, []⟩ = .ok ⟨last,
      [⟨.scalar (pointsOf cs) true, c.next.mark, stop⟩], given, false, 0, 0, [-1], true,
      [(0, ⟨given, false, c.next.index, c.next.mark⟩)]⟩ := by
    rw [fetch_of_toNextToken ahead starts.noGap, fetch_plain atToken starts fun zero => by
      rw [next] at zero; cases zero]
    rw [next] at scanned
    simp [fetchPlain, noteCandidate, removeCandidate, candidate?, bind, Except.bind, pure,
      Except.pure, Lexer.inFlow, scanned, push, next, free]
  let settled : Lexer := ⟨last, [⟨.scalar (pointsOf cs) true, c.next.mark, stop⟩], given, false, 0, 0,
    [-1], true, []⟩
  have settles (fuel : Nat) :
      settle (fuel + 4) ⟨c, [], given, false, 0, 0, [-1], true, []⟩ = .ok settled := by
    rw [settle_fetch ⟨rfl, rfl⟩ fetched]
    exact settle_far rfl ⟨List.cons_ne_nil _ _, rfl⟩ (Nat.ne_of_lt line) rfl _
  apply Gives.of_settle settles (.inr ⟨List.cons_ne_nil _ _, rfl⟩)
  have gives : Gives { settled with waiting := [], given := given + 1 } kinds :=
    more _ ⟨⟨rfl, rfl⟩, begins, last, _, toNextToken_stop (left.symm ▸ begins.1), left, first⟩
  exact Gives.of_waiting (l := settled) rfl rfl gives

/-- An entry of a list. -/
theorem gives_entry (line : AtLine l true ('-' :: ' ' :: (cs ++ '\n' :: tail))) (word : IsWord cs)
    (begins : BeginsLine tail) (more : ∀ l', AtLine l' true tail → Gives l' kinds) :
    Gives l (.blockEntry :: .scalar (pointsOf cs) true :: kinds) := by
  obtain ⟨idle, ⟨stays, -⟩, c, given, ahead, here, first⟩ := line
  have atToken : AtToken ⟨c, [], given, false, 0, 0, [-1], true, []⟩ :=
    ⟨here.symm ▸ stays, dropStale_of_none rfl, Int.natCast_nonneg _, rfl⟩
  have fetched : l.fetch = .ok ⟨c.next, [⟨.blockEntry, c.mark, c.next.mark⟩], given, false, 0, 0,
      [-1], true, []⟩ := by
    rw [fetch_of_toNextToken ahead (here ▸ stays)]
    simp only [indentOf, indentsOf, if_true]
    rw [fetch_dash atToken here]
    simp [fetchBlockIndicator, Lexer.inFlow, indentTo, first, removeCandidate, candidate?, pushChars,
      push, Cursor.forward, bind, Except.bind, pure, Except.pure]
  apply Gives.of_fetch idle fetched rfl (List.cons_ne_nil _ _) rfl
  exact gives_item (by rw [c.next_rest, here]; rfl) word begins more

/-- The end of the document. -/
theorem gives_end (line : AtLine l true []) : Gives l [.blockEnd, .streamEnd] := by
  obtain ⟨idle, ⟨stays, -⟩, c, given, ahead, here, first⟩ := line
  have atToken : AtToken ⟨c, [], given, false, 0, 0, [-1], true, []⟩ :=
    ⟨here.symm ▸ stays, dropStale_of_none rfl, Int.natCast_nonneg _, rfl⟩
  have fetched : l.fetch = .ok ⟨c, [⟨.blockEnd, c.mark, c.mark⟩, ⟨.streamEnd, c.mark, c.mark⟩],
      given, true, 0, -1, [], false, []⟩ := by
    rw [fetch_of_toNextToken ahead (here ▸ stays)]
    simp only [indentOf, indentsOf, if_true]
    rw [fetch_end atToken here]
    simp [fetchEnd, unwind, closeBlocks, Lexer.inFlow, pushHere, push, removeCandidate, candidate?,
      bind, Except.bind, pure, Except.pure]
  exact Gives.of_fetch idle fetched rfl (List.cons_ne_nil _ _) rfl trivial

end IndexScan.Yaml.Lexer
