import IndexScan.Proofs.Console.Shown

/-!
Messages as they are displayed. A message falls into stretches: its tags, and the text between them.
Escaping and then reading a message shows its stretches one by one, each as a text of its own, and a
single backslash at the end a second time (`render_marked`). So a message is displayed as it stands
when all its stretches are plain, and otherwise what is displayed parts from it (`displayed_of_plain`,
`parts_displayed`).
-/

namespace IndexScan.Console.Markup

open Text

variable {cs ds xs ys rest content name : List Char} {c : Char} {opened : List (List Char)}

/-! ### Stretches -/

/-- The tags of a text and what stands between them. The first `skip` characters are the rest of a
tag, and in front stands the text `plain`, last character first. -/
def stretches (skip : Nat) (plain : List Char) : List Char → List (List Char)
  | [] => [plain.reverse]
  | c :: rest =>
    match skip with
    | skip + 1 => stretches skip plain rest
    | 0 =>
      match (if c = '[' then tag? rest else none) with
      | none => stretches 0 (c :: plain) rest
      | some content =>
        plain.reverse :: ('[' :: content ++ [']']) :: stretches (content.length + 1) [] rest

theorem stretches_tag (tag : tag? cs = some content) (plain : List Char) :
    stretches 0 plain ('[' :: cs) =
      plain.reverse :: ('[' :: content ++ [']']) :: stretches (content.length + 1) [] cs := by
  rw [stretches, if_pos rfl, tag]

theorem stretches_plain (none : (if c = '[' then tag? cs else none) = none) (plain : List Char) :
    stretches 0 plain (c :: cs) = stretches 0 (c :: plain) cs := by
  rw [stretches, none]

/-- The rest of a tag belongs to no further stretch. -/
theorem stretches_skip (xs rest plain : List Char) :
    stretches xs.length plain (xs ++ rest) = stretches 0 plain rest := by
  induction xs with
  | nil => rfl
  | cons c xs ih => rw [List.length_cons, List.cons_append, stretches, ih]

theorem stretches_behind_tag (content rest : List Char) :
    stretches (content.length + 1) [] (content ++ ']' :: rest) = stretches 0 [] rest := by
  have passed := stretches_skip (content ++ [']']) rest []
  rwa [List.length_append, List.length_singleton, List.append_assoc] at passed

/-- A text is made of its stretches. -/
theorem stretches_flatten (plain cs : List Char) :
    (stretches 0 plain cs).flatten = plain.reverse ++ cs := by
  suffices bounded : ∀ n (plain cs : List Char), cs.length ≤ n →
      (stretches 0 plain cs).flatten = plain.reverse ++ cs from
    bounded cs.length plain cs (Nat.le_refl _)
  intro n
  induction n with
  | zero =>
    intro plain cs short
    rw [List.length_eq_zero_iff.mp (Nat.le_zero.mp short)]
    simp [stretches]
  | succ n ih =>
    intro plain cs short
    cases cs with
    | nil => simp [stretches]
    | cons c cs =>
      rw [List.length_cons] at short
      cases tag : (if c = '[' then tag? cs else none) with
      | none =>
        rw [stretches_plain tag, ih (c :: plain) cs (by omega)]
        simp
      | some content =>
        have bracket : c = '[' := by
          by_contra other
          rw [if_neg other] at tag
          cases tag
        rw [if_pos bracket] at tag
        obtain ⟨rest, rfl⟩ := tag?_eq_append tag
        rw [List.length_append, List.length_cons] at short
        rw [bracket, stretches_tag tag, stretches_behind_tag, List.flatten_cons,
          List.flatten_cons, ih [] rest (by omega)]
        simp

/-- A character in front belongs to the first stretch. -/
theorem stretches_append_singleton (plain cs : List Char) (c : Char) :
    ∃ first others, stretches 0 plain cs = first :: others ∧
      stretches 0 (plain ++ [c]) cs = (c :: first) :: others := by
  induction cs generalizing plain with
  | nil => exact ⟨plain.reverse, [], rfl, by simp [stretches]⟩
  | cons d cs ih =>
    cases tag : (if d = '[' then tag? cs else none) with
    | none =>
      rw [stretches_plain tag, stretches_plain tag]
      exact ih (d :: plain)
    | some content =>
      exact ⟨plain.reverse, _, by rw [stretches, tag], by rw [stretches, tag]; simp⟩

/-- What a message is displayed as. -/
def displayed (cs : List Char) : List Char :=
  (stretches 0 [] cs).flatMap shown

/-- A message all of whose stretches are plain. -/
def AllPlain (cs : List Char) : Prop :=
  ∀ stretch ∈ stretches 0 [] cs, Plain stretch

theorem calm_of_mem_stretches (calm : Calm cs) :
    ∀ stretch ∈ stretches 0 [] cs, Calm stretch := by
  intro stretch mem c inside
  have whole := stretches_flatten [] cs
  rw [List.reverse_nil, List.nil_append] at whole
  exact calm c (whole ▸ List.mem_flatten.mpr ⟨stretch, mem, inside⟩)

theorem displayed_calm (calm : Calm cs) : Calm (displayed cs) := by
  intro c mem
  obtain ⟨stretch, among, inside⟩ := List.mem_flatMap.mp mem
  exact shown_calm (calm_of_mem_stretches calm stretch among) c inside

theorem flatMap_shown_of_plain {parts : List (List Char)} (calm : ∀ part ∈ parts, Calm part)
    (plain : ∀ part ∈ parts, Plain part) : parts.flatMap shown = parts.flatten := by
  rw [List.flatMap_def]
  congr 1
  exact (List.map_congr_left fun part mem => shown_of_plain (calm part mem) (plain part mem)).trans
    (List.map_id' _)

/-- A message of plain stretches is displayed as it stands. -/
theorem displayed_of_plain (calm : Calm cs) (plain : AllPlain cs) : displayed cs = cs := by
  rw [displayed, flatMap_shown_of_plain (calm_of_mem_stretches calm) plain, stretches_flatten]
  rfl

/-- The first part that is not plain is where what is shown parts. -/
theorem parts_flatMap_shown {parts : List (List Char)} (calm : ∀ part ∈ parts, Calm part)
    (other : ¬ ∀ part ∈ parts, Plain part) : Parts parts.flatten (parts.flatMap shown) := by
  induction parts with
  | nil => exact absurd nofun other
  | cons part parts ih =>
    obtain ⟨first, later⟩ := List.forall_mem_cons.mp calm
    rw [List.flatten_cons, List.flatMap_cons]
    by_cases plain : Plain part
    · rw [shown_of_plain first plain]
      exact (ih later fun all => other (List.forall_mem_cons.mpr ⟨plain, all⟩)).prepend part
    · exact (parts_shown first plain).append _ _

theorem parts_displayed (calm : Calm cs) (other : ¬ AllPlain cs) : Parts cs (displayed cs) := by
  have parts := parts_flatMap_shown (calm_of_mem_stretches calm) other
  rwa [stretches_flatten, List.reverse_nil, List.nil_append] at parts

/-! ### Reading escaped text -/

theorem interpret_text (cs : List Char) (ps : List Piece) :
    interpret opened (.text cs :: ps) = (interpret opened ps).map (shown cs ++ ·) := by
  rw [interpret]
  cases interpret opened ps <;> rfl

theorem interpret_ofText (cs : List Char) (ps : List Piece) :
    interpret opened (Piece.ofText cs ++ ps) = (interpret opened ps).map (shown cs ++ ·) := by
  cases cs with
  | nil =>
    have same : (fun later => shown [] ++ later) = id := rfl
    rw [same, Except.map_id]
    rfl
  | cons c cs =>
    have piece : Piece.ofText (c :: cs) = [.text (c :: cs)] := rfl
    rw [piece, List.singleton_append, interpret_text]

/-- Escaped text shows the stretches of the text. By induction along escaping and taking apart, which
pass over the same characters; the backslashes that stand in front are still part of the text. -/
theorem interpret_escapeTags (n position skip slashes : Nat) (plain : List Char)
    (inside : skip ≤ cs.length) (fresh : skip = 0 ∨ slashes = 0 ∧ plain = []) :
    interpret opened (pieces position skip slashes plain
        (escapeTags skip slashes cs ++ List.replicate n '\\')) =
      .ok ((stretches skip (List.replicate slashes '\\' ++ plain) cs).flatMap shown
        ++ List.replicate n '\\') := by
  have ends : Quiet (List.replicate n '\\') := by
    intro c mem
    rw [List.eq_of_mem_replicate mem]
    decide
  induction cs generalizing position skip slashes plain with
  | nil =>
    obtain rfl : skip = 0 := Nat.le_zero.mp inside
    have read := pieces_backslashes n position slashes plain []
    rw [List.append_nil] at read
    have whole : (List.replicate (slashes + n) '\\' ++ plain).reverse =
        (List.replicate slashes '\\' ++ plain).reverse ++ List.replicate n '\\' := by
      rw [List.reverse_append, List.reverse_append, List.reverse_replicate, List.reverse_replicate,
        List.replicate_add, List.append_assoc]
    rw [escapeTags, List.nil_append, read, pieces, whole, ← List.append_nil (Piece.ofText _),
      interpret_ofText, shown_append_backslashes, stretches, List.flatMap_singleton]
    simp only [interpret, Except.map, List.append_nil]
  | cons c cs ih =>
    cases skip with
    | succ skip =>
      obtain ⟨rfl, rfl⟩ := fresh.resolve_left (Nat.succ_ne_zero skip)
      rw [List.length_cons] at inside
      rw [escapeTags, List.cons_append, pieces, stretches]
      exact ih _ skip 0 [] (by omega) (.inr ⟨rfl, rfl⟩)
    | zero =>
      by_cases backslash : c = '\\'
      · subst backslash
        rw [escapeTags_backslash, List.cons_append, pieces_backslash,
          ih _ 0 (slashes + 1) plain (Nat.zero_le _) (.inl rfl), stretches_plain (if_neg (by decide))]
        rfl
      by_cases bracket : c = '['
      · subst bracket
        cases tag : tag? cs with
        | none =>
          rw [escapeTags_plainBracket tag, List.cons_append,
            pieces_plainBracket (tag?_of_escaped ends tag),
            ih _ 0 0 _ (Nat.zero_le _) (.inl rfl), stretches_plain (by rw [if_pos rfl, tag])]
          rfl
        | some content =>
          have odd : (slashes + (slashes + 1)) % 2 = 1 := by omega
          have half : (slashes + (slashes + 1)) / 2 = slashes := by omega
          have long : content.length + 1 ≤ cs.length := by
            obtain ⟨rest, rfl⟩ := tag?_eq_append tag
            rw [List.length_append, List.length_cons]
            omega
          have front : shown (List.replicate slashes '\\' ++ plain).reverse =
              shown plain.reverse ++ List.replicate slashes '\\' := by
            rw [List.reverse_append, List.reverse_replicate, shown_append_backslashes]
          have alone : shown (List.replicate slashes '\\') = List.replicate slashes '\\' :=
            shown_append_backslashes [] slashes
          rw [escapeTags_tag tag, List.append_assoc, pieces_backslashes, List.cons_append,
            pieces_tag (tag?_escapeTags tag _), bracketed, if_pos odd, half, List.append_assoc,
            interpret_ofText, interpret_ofText, interpret_text,
            ih _ _ 0 [] long (.inr ⟨rfl, rfl⟩), stretches_tag tag, List.flatMap_cons,
            List.flatMap_cons, front, alone]
          simp only [Except.map, List.append_assoc, List.replicate_zero, List.nil_append]
      · rw [escapeTags_ordinary backslash bracket, List.cons_append,
          pieces_ordinary backslash bracket, ih _ 0 0 _ (Nat.zero_le _) (.inl rfl),
          stretches_plain (if_neg bracket)]
        rfl

/-! ### A single backslash at the end -/

/-- A text ends in a backslash that has none in front. -/
def EndsLone (cs : List Char) : Prop :=
  ∃ front, cs = front ++ ['\\'] ∧ front.getLast? ≠ some '\\'

/-- Escaping keeps the last character. -/
theorem getLast?_escapeTags (skip slashes : Nat) (cs : List Char) :
    (escapeTags skip slashes cs).getLast? = cs.getLast? := by
  induction cs generalizing skip slashes with
  | nil => rfl
  | cons c cs ih =>
    have kept (skip slashes : Nat) :
        (c :: escapeTags skip slashes cs).getLast? = (c :: cs).getLast? := by
      rw [List.getLast?_cons, List.getLast?_cons, ih]
    cases skip with
    | succ skip => exact kept skip 0
    | zero =>
      by_cases backslash : c = '\\'
      · subst backslash
        rw [escapeTags_backslash]
        exact kept 0 (slashes + 1)
      by_cases bracket : c = '['
      · subst bracket
        cases tag : tag? cs with
        | none =>
          rw [escapeTags_plainBracket tag]
          exact kept 0 0
        | some content =>
          rw [escapeTags_tag tag, List.getLast?_append_of_ne_nil _ (List.cons_ne_nil _ _)]
          exact kept _ 0
      · rw [escapeTags_ordinary backslash bracket]
        exact kept 0 0

/-- A backslash at the end closes no tag. -/
theorem tag?_append_backslash (cs : List Char) : tag? (cs ++ ['\\']) = tag? cs := by
  apply Option.ext
  intro content
  constructor
  · intro tag
    obtain ⟨c, body, rest, rfl, same, begins, quiet⟩ := tag?_eq_some_iff.mp tag
    have closes : rest ≠ [] := by
      rintro rfl
      exact absurd (List.append_inj' same rfl).2 (by decide)
    obtain ⟨others, last, rfl⟩ : ∃ others last, rest = others ++ [last] :=
      ⟨rest.dropLast, rest.getLast closes, (List.dropLast_append_getLast closes).symm⟩
    have apart : cs = c :: body ++ ']' :: others := by
      rw [← List.cons_append, ← List.append_assoc] at same
      exact (List.append_inj' same rfl).1
    exact tag?_eq_some_iff.mpr ⟨c, body, others, rfl, apart, begins, quiet⟩
  · intro tag
    obtain ⟨rest, rfl⟩ := tag?_eq_append tag
    rw [List.append_assoc]
    exact tag?_append tag _

theorem escapeTags_append_backslash (skip slashes : Nat) (inside : skip ≤ cs.length) :
    escapeTags skip slashes (cs ++ ['\\']) = escapeTags skip slashes cs ++ ['\\'] := by
  induction cs generalizing skip slashes with
  | nil =>
    obtain rfl : skip = 0 := Nat.le_zero.mp inside
    rfl
  | cons c cs ih =>
    cases skip with
    | succ skip =>
      rw [List.length_cons] at inside
      rw [List.cons_append, escapeTags, ih skip 0 (by omega)]
      rfl
    | zero =>
      by_cases backslash : c = '\\'
      · subst backslash
        rw [List.cons_append, escapeTags_backslash, ih 0 _ (Nat.zero_le _), escapeTags_backslash]
        rfl
      by_cases bracket : c = '['
      · subst bracket
        cases tag : tag? cs with
        | none =>
          rw [List.cons_append, escapeTags_plainBracket ((tag?_append_backslash cs).trans tag),
            ih 0 _ (Nat.zero_le _), escapeTags_plainBracket tag]
          rfl
        | some content =>
          have long : content.length + 1 ≤ cs.length := by
            obtain ⟨rest, rfl⟩ := tag?_eq_append tag
            rw [List.length_append, List.length_cons]
            omega
          rw [List.cons_append, escapeTags_tag ((tag?_append_backslash cs).trans tag),
            ih _ _ long, escapeTags_tag tag, List.append_assoc, List.cons_append]
      · rw [List.cons_append, escapeTags_ordinary backslash bracket, ih 0 _ (Nat.zero_le _),
          escapeTags_ordinary backslash bracket]
        rfl

theorem singleton_suffix_iff {a : Char} : [a] <:+ cs ↔ cs.getLast? = some a := by
  rw [List.getLast?_eq_some_iff]
  exact exists_congr fun front => eq_comm

theorem two_backslashes_iff : ['\\', '\\'] <:+ cs ++ ['\\'] ↔ cs.getLast? = some '\\' := by
  rw [← singleton_suffix_iff]
  constructor
  · rintro ⟨front, same⟩
    have apart : front ++ ['\\'] ++ ['\\'] = cs ++ ['\\'] := by
      rw [List.append_assoc]
      exact same
    exact ⟨front, List.append_cancel_right apart⟩
  · rintro ⟨front, rfl⟩
    exact ⟨front, by rw [List.append_assoc]; rfl⟩

/-- Only a single backslash at the end is doubled. -/
theorem endsLone_iff :
    (['\\'].isSuffixOf (escapeTags 0 0 cs) &&
      !(['\\', '\\'].isSuffixOf (escapeTags 0 0 cs))) = true ↔ EndsLone cs := by
  rw [Bool.and_eq_true, Bool.not_eq_true', ← Bool.not_eq_true, List.isSuffixOf_iff_suffix,
    List.isSuffixOf_iff_suffix, singleton_suffix_iff, getLast?_escapeTags]
  have double (front : List Char) :
      ['\\', '\\'] <:+ escapeTags 0 0 (front ++ ['\\']) ↔ front.getLast? = some '\\' := by
    rw [escapeTags_append_backslash 0 0 (Nat.zero_le _), two_backslashes_iff, getLast?_escapeTags]
  constructor
  · rintro ⟨last, single⟩
    obtain ⟨front, rfl⟩ := List.getLast?_eq_some_iff.mp last
    exact ⟨front, rfl, fun more => single ((double front).mpr more)⟩
  · rintro ⟨front, rfl, single⟩
    exact ⟨List.getLast?_concat, fun more => single ((double front).mp more)⟩

theorem escape_of_endsLone (lone : EndsLone cs) : escape cs = escapeTags 0 0 cs ++ ['\\'] :=
  if_pos (endsLone_iff.mpr lone)

theorem escape_of_not_endsLone (many : ¬ EndsLone cs) : escape cs = escapeTags 0 0 cs :=
  if_neg fun single => many (endsLone_iff.mp single)

/-! ### A message behind a mark -/

/-- What follows a message when it is displayed: a single backslash at its end is shown twice. -/
def Doubles (cs tail : List Char) : Prop :=
  EndsLone cs ∧ tail = ['\\'] ∨ ¬ EndsLone cs ∧ tail = []

theorem exists_doubles (cs : List Char) : ∃ tail, Doubles cs tail := by
  by_cases lone : EndsLone cs
  · exact ⟨_, .inl ⟨lone, rfl⟩⟩
  · exact ⟨_, .inr ⟨lone, rfl⟩⟩

/-- An escaped message, read behind a space, shows its stretches. -/
theorem interpret_escape {tail : List Char} (doubles : Doubles cs tail) (position : Nat) :
    interpret opened (pieces position 0 0 [' '] (escape cs)) =
      .ok (' ' :: displayed cs ++ tail) := by
  obtain ⟨first, others, whole, spaced⟩ := stretches_append_singleton [] cs ' '
  rw [List.nil_append] at spaced
  have shows : (stretches 0 [' '] cs).flatMap shown = ' ' :: displayed cs := by
    rw [displayed, whole, spaced, List.flatMap_cons, shown_cons_space, List.flatMap_cons]
    rfl
  have read (n : Nat) :
      interpret opened (pieces position 0 0 [' '] (escapeTags 0 0 cs ++ List.replicate n '\\')) =
        .ok (' ' :: displayed cs ++ List.replicate n '\\') := by
    rw [interpret_escapeTags n position 0 0 [' '] (Nat.zero_le _) (.inl rfl), ← shows]
    rfl
  rcases doubles with ⟨lone, rfl⟩ | ⟨many, rfl⟩
  · rw [escape_of_endsLone lone]
    exact read 1
  · rw [escape_of_not_endsLone many]
    simpa using read 0

/-- A mark between the tags of a word is shown in front of an escaped message. -/
theorem render_marked (word : IsWord name) {mark : Char} (backslash : mark ≠ '\\')
    (bracket : mark ≠ '[') (shows : shown [mark] = [mark]) {tail : List Char}
    (doubles : Doubles cs tail) :
    render ('[' :: (name ++ ']' :: mark :: (closing name ++ ' ' :: escape cs))) =
      .ok (mark :: ' ' :: displayed cs ++ tail) := by
  have text : closing name ++ ' ' :: escape cs =
      '[' :: ('/' :: name ++ ']' :: (' ' :: escape cs)) := by simp [closing]
  rw [render, pieces_bracket (word.tag? _), bracketed, if_neg (by decide), word.ofTag,
    pieces_ordinary backslash bracket, text, pieces_bracket (word.tag?_closing _), bracketed,
    if_neg (by decide), word.ofTag_closing, pieces_ordinary (by decide) (by decide)]
  simp only [List.append_assoc, Nat.zero_div, List.replicate_zero, List.reverse_nil,
    List.append_nil, List.reverse_singleton]
  rw [interpret_ofText, interpret_ofText, interpret_opening word, interpret_ofText,
    interpret_ofText, interpret_closing word, interpret_escape doubles, shows]
  rfl

end IndexScan.Console.Markup
