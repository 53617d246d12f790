import IndexScan.Proofs.Json.Numbers
import IndexScan.Proofs.Json.Pairs
import IndexScan.Proofs.Json.Strings

/-!
Documents survive being written and read. This holds of every plain document: one whose objects have
distinct keys, whose integers are no longer than the reader takes, and which holds neither floating
numbers nor broken texts. It is read back from every layout that sets its parts apart by spacing
(`read_written`).

The reader's fuel is measured by the length of the text: every level of nesting and every item
takes up at least one character.
-/

namespace IndexScan.Json

/-! ### Plain documents -/

mutual

/-- Whether a document is plain for a reader that takes integers of at most `limit` digits. -/
def isPlain (limit : Option Nat) : Json → Bool
  | null => true
  | bool _ => true
  | int n => admits limit n
  | float _ => false
  | str _ => true
  | brokenText _ => false
  | arr xs => arePlain limit xs
  | obj ms => (ms.map (·.1)).Nodup && membersArePlain limit ms

/-- Whether all items are plain. -/
def arePlain (limit : Option Nat) : List Json → Bool
  | [] => true
  | x :: xs => isPlain limit x && arePlain limit xs

/-- Whether the values of all members are plain. -/
def membersArePlain (limit : Option Nat) : List (String × Json) → Bool
  | [] => true
  | (_, x) :: ms => isPlain limit x && membersArePlain limit ms

end

/-! ### Layouts -/

/-- What layouts put between the parts of a document. -/
def IsSpacing (cs : List Char) : Prop :=
  ∀ c ∈ cs, c = ' ' ∨ c = '\n'

theorem isSpacing_nil : IsSpacing [] := by
  simp [IsSpacing]

/-- Layouts that set the parts of a document apart by spacing. -/
structure Layout.Spaced (l : Layout) : Prop where
  newline : ∀ level, IsSpacing (l.newline level)
  betweenItems : ∃ gap, l.betweenItems = ',' :: gap ∧ IsSpacing gap
  afterKey : ∃ gap, l.afterKey = ':' :: gap ∧ IsSpacing gap

theorem Layout.indented_spaced : Layout.indented.Spaced where
  newline := fun level c mem => by
    simp only [indented, List.mem_cons, List.mem_replicate] at mem
    rcases mem with rfl | ⟨_, rfl⟩
    · exact .inr rfl
    · exact .inl rfl
  betweenItems := ⟨[], rfl, isSpacing_nil⟩
  afterKey := ⟨[' '], rfl, by simp [IsSpacing]⟩

/-- A reader skips spacing. -/
theorem skipGap_append {gap : List Char} (spacing : IsSpacing gap) (cs : List Char) :
    skipGap (gap ++ cs) = skipGap cs := by
  refine List.dropWhile_append_of_pos fun c mem => ?_
  rcases spacing c mem with rfl | rfl <;> rfl

theorem skipGap_cons {c : Char} {cs : List Char} (solid : isGap c = false) :
    skipGap (c :: cs) = c :: cs := by
  simp [skipGap, solid]

/-! ### Complete text -/

namespace Written

@[simp] theorem of_text (cs : List Char) : (of cs).text = cs := rfl

@[simp] theorem of_complete (cs : List Char) : (of cs).complete = true := rfl

theorem append_complete (a b : Written) : (a ++ b).complete = (a.complete && b.complete) := by
  show (append a b).complete = _
  unfold append
  split_ifs with complete
  · simp [complete]
  · simp [complete]

/-- Behind complete text, everything is written. -/
theorem append_text {a b : Written} (complete : a.complete = true) :
    (a ++ b).text = a.text ++ b.text := by
  show (append a b).text = _
  rw [append, if_pos complete]

end Written

section

variable {limit : Option Nat} {l : Layout} {limited : Bool}

/-- A writer that limits integers as the reader does writes all that the reader takes. -/
theorem writtenInt_eq {n : Int} (within : limited = true → limit = some Decimal.limit)
    (admitted : admits limit n = true) : writtenInt limited n = .of (Decimal.ofInt n) := by
  rw [writtenInt, if_neg]
  simp only [Bool.and_eq_true, Bool.not_eq_true', not_and]
  intro careful
  rw [within careful, admits, Option.all_some, decide_eq_true_eq, ← Decimal.fits_iff] at admitted
  simp [admitted]

mutual

/-- A plain document is written to its end. -/
theorem written_complete (within : limited = true → limit = some Decimal.limit) :
    ∀ (x : Json) (level : Nat), isPlain limit x = true →
      (written l limited level x).complete = true
  | null, _, _ => rfl
  | bool _, _, _ => rfl
  | int n, _, plain => by
    rw [written, writtenInt_eq within plain]
    rfl
  | float _, _, _ => rfl
  | str _, _, _ => rfl
  | brokenText _, _, _ => rfl
  | arr [], _, _ => by simp [written]
  | arr (x :: xs), level, plain => by
    simp only [isPlain, arePlain, Bool.and_eq_true] at plain
    simp [written, Written.append_complete, written_complete within x _ plain.1,
      writtenItems_complete within xs _ plain.2]
  | obj [], _, _ => by simp [written]
  | obj ((k, x) :: ms), level, plain => by
    simp only [isPlain, membersArePlain, Bool.and_eq_true] at plain
    simp [written, Written.append_complete, written_complete within x _ plain.2.1,
      writtenMembers_complete within ms _ plain.2.2]

theorem writtenItems_complete (within : limited = true → limit = some Decimal.limit) :
    ∀ (xs : List Json) (level : Nat), arePlain limit xs = true →
      (writtenItems l limited level xs).complete = true
  | [], _, _ => by simp [writtenItems]
  | x :: xs, level, plain => by
    simp only [arePlain, Bool.and_eq_true] at plain
    simp [writtenItems, Written.append_complete, written_complete within x _ plain.1,
      writtenItems_complete within xs _ plain.2]

theorem writtenMembers_complete (within : limited = true → limit = some Decimal.limit) :
    ∀ (ms : List (String × Json)) (level : Nat), membersArePlain limit ms = true →
      (writtenMembers l limited level ms).complete = true
  | [], _, _ => by simp [writtenMembers]
  | (_, x) :: ms, level, plain => by
    simp only [membersArePlain, Bool.and_eq_true] at plain
    simp [writtenMembers, Written.append_complete, written_complete within x _ plain.1,
      writtenMembers_complete within ms _ plain.2]

end

/-! ### What texts begin with -/

/-- Texts that begin with an ASCII character that is neither a blank nor a closing bracket. -/
def Solid (cs : List Char) : Prop :=
  ∃ c rest, cs = c :: rest ∧ c.toNat < 0x80 ∧ isGap c = false ∧ c ≠ ']'

theorem Solid.append {cs : List Char} (solid : Solid cs) (rest : List Char) :
    Solid (cs ++ rest) := by
  obtain ⟨c, more, rfl, first⟩ := solid
  exact ⟨c, more ++ rest, rfl, first⟩

theorem Solid.skipGap_eq {cs : List Char} (solid : Solid cs) : skipGap cs = cs := by
  obtain ⟨c, more, rfl, _, gap, _⟩ := solid
  exact skipGap_cons gap

theorem Solid.pos {cs : List Char} (solid : Solid cs) : 0 < cs.length := by
  obtain ⟨c, more, rfl, _⟩ := solid
  simp

theorem solid_digit {c : Char} {rest : List Char} (digit : c.isDigit = true) :
    Solid (c :: rest) := by
  obtain ⟨_, above⟩ := Char.isDigit_iff_toNat.mp digit
  simp only [Char.reduceToNat] at above
  refine ⟨c, rest, rfl, by omega, ?_, ?_⟩
  · cases gap : isGap c with
    | false => rfl
    | true =>
      simp only [isGap, Bool.or_eq_true, beq_iff_eq] at gap
      rcases gap with ((rfl | rfl) | rfl) | rfl <;> exact absurd digit (by decide)
  · rintro rfl
    exact absurd digit (by decide)

theorem ofInt_solid (n : Int) : Solid (Decimal.ofInt n) := by
  cases n with
  | ofNat n =>
    obtain ⟨nonempty, digits⟩ := Decimal.ofNat_isDigits n
    cases shape : Decimal.ofNat n with
    | nil => exact absurd shape nonempty
    | cons c ds =>
      rw [Decimal.ofInt, shape]
      exact solid_digit (digits c (shape ▸ List.mem_cons_self))
  | negSucc n => exact ⟨'-', _, rfl, by decide⟩

/-! ### What texts consist of -/

/-- The text of items, from the first one up to the closing bracket. -/
def itemsText (l : Layout) (limited : Bool) (level : Nat) : List Json → List Char
  | [] => []
  | x :: xs => (written l limited (level + 1) x).text ++ (writtenItems l limited level xs).text

/-- The text of members, from the first name up to the closing brace. -/
def membersText (l : Layout) (limited : Bool) (level : Nat) : List (String × Json) → List Char
  | [] => []
  | (k, x) :: ms =>
    quoted k ++ (l.afterKey ++
      ((written l limited (level + 1) x).text ++ (writtenMembers l limited level ms).text))

section

variable {x : Json} {level : Nat}

theorem written_arr_text (complete : (written l limited (level + 1) x).complete = true)
    (xs : List Json) :
    (written l limited level (arr (x :: xs))).text =
      '[' :: (l.newline (level + 1) ++ itemsText l limited level (x :: xs)) := by
  rw [written, Written.append_text (by simp [Written.append_complete, complete]),
    Written.append_text (Written.of_complete _), Written.of_text]
  simp [itemsText]

theorem writtenItems_cons_text (complete : (written l limited (level + 1) x).complete = true)
    (xs : List Json) :
    (writtenItems l limited level (x :: xs)).text =
      l.betweenItems ++ (l.newline (level + 1) ++ itemsText l limited level (x :: xs)) := by
  rw [writtenItems, Written.append_text (by simp [Written.append_complete, complete]),
    Written.append_text (Written.of_complete _), Written.of_text]
  simp [itemsText]

theorem written_obj_text (complete : (written l limited (level + 1) x).complete = true)
    (k : String)
    (ms : List (String × Json)) :
    (written l limited level (obj ((k, x) :: ms))).text =
      '\x7b' :: (l.newline (level + 1) ++ membersText l limited level ((k, x) :: ms)) := by
  rw [written, Written.append_text (by simp [Written.append_complete, complete]),
    Written.append_text (Written.of_complete _), Written.of_text]
  simp [membersText]

theorem writtenMembers_cons_text (complete : (written l limited (level + 1) x).complete = true)
    (k : String)
    (ms : List (String × Json)) :
    (writtenMembers l limited level ((k, x) :: ms)).text =
      l.betweenItems ++ (l.newline (level + 1) ++ membersText l limited level ((k, x) :: ms)) := by
  rw [writtenMembers, Written.append_text (by simp [Written.append_complete, complete]),
    Written.append_text (Written.of_complete _), Written.of_text]
  simp [membersText]

end

/-- A plain document begins with something solid. -/
theorem written_solid (within : limited = true → limit = some Decimal.limit) (x : Json)
    (level : Nat) (plain : isPlain limit x = true) :
    Solid (written l limited level x).text := by
  cases x with
  | null => exact ⟨_, _, rfl, by decide⟩
  | bool b => cases b <;> exact ⟨_, _, rfl, by decide⟩
  | int n =>
    rw [written, writtenInt_eq within plain]
    exact ofInt_solid n
  | float y => simp [isPlain] at plain
  | str s => exact ⟨_, _, rfl, by decide⟩
  | brokenText ps => simp [isPlain] at plain
  | arr xs =>
    cases xs with
    | nil => rw [written]; exact ⟨_, _, rfl, by decide⟩
    | cons x xs =>
      simp only [isPlain, arePlain, Bool.and_eq_true] at plain
      rw [written_arr_text (written_complete within x _ plain.1)]
      exact ⟨_, _, rfl, by decide⟩
  | obj ms =>
    rcases ms with _ | ⟨⟨k, x⟩, ms⟩
    · rw [written]; exact ⟨_, _, rfl, by decide⟩
    · simp only [isPlain, membersArePlain, Bool.and_eq_true] at plain
      rw [written_obj_text (written_complete within x _ plain.2.1)]
      exact ⟨_, _, rfl, by decide⟩

/-! ### What may follow an item -/

theorem endsNumber_cons {c : Char} {rest : List Char} (mark : c ∈ [',', ']', '\x7d']) :
    EndsNumber (c :: rest) := by
  intro d head
  simp only [List.head?_cons, Option.mem_some_iff] at head
  simp only [List.mem_cons, List.not_mem_nil, or_false] at mark
  subst head
  rcases mark with rfl | rfl | rfl <;> decide

theorem endsNumber_gap {gap rest : List Char} (spacing : IsSpacing gap)
    (ends : EndsNumber rest) : EndsNumber (gap ++ rest) := by
  cases gap with
  | nil => exact ends
  | cons c gap =>
    intro d head
    simp only [List.cons_append, List.head?_cons, Option.mem_some_iff] at head
    subst head
    rcases spacing c List.mem_cons_self with rfl | rfl <;> decide

theorem writtenItems_ends (spaced : l.Spaced) (within : limited = true → limit = some Decimal.limit)
    (xs : List Json) (level : Nat) (plain : arePlain limit xs = true) (rest : List Char) :
    EndsNumber ((writtenItems l limited level xs).text ++ rest) := by
  cases xs with
  | nil =>
    rw [writtenItems, Written.of_text, List.append_assoc]
    exact endsNumber_gap (spaced.newline level) (endsNumber_cons (by simp))
  | cons x xs =>
    simp only [arePlain, Bool.and_eq_true] at plain
    obtain ⟨gap, between, _⟩ := spaced.betweenItems
    rw [writtenItems_cons_text (written_complete within x _ plain.1), between]
    exact endsNumber_cons (by simp)

theorem writtenMembers_ends (spaced : l.Spaced)
    (within : limited = true → limit = some Decimal.limit) (ms : List (String × Json))
    (level : Nat) (plain : membersArePlain limit ms = true) (rest : List Char) :
    EndsNumber ((writtenMembers l limited level ms).text ++ rest) := by
  rcases ms with _ | ⟨⟨k, x⟩, ms⟩
  · rw [writtenMembers, Written.of_text, List.append_assoc]
    exact endsNumber_gap (spaced.newline level) (endsNumber_cons (by simp))
  · simp only [membersArePlain, Bool.and_eq_true] at plain
    obtain ⟨gap, between, _⟩ := spaced.betweenItems
    rw [writtenMembers_cons_text (written_complete within x _ plain.1), between]
    exact endsNumber_cons (by simp)

/-! ### Reading one level -/

section

variable {levels inner : Levels} {fuel : Nat} {cs rest after : List Char} {x : Json} {key : String}

theorem value_arr (room : levels.inner? = some inner) (solid : Solid (skipGap cs)) :
    value limit levels (fuel + 1) ('[' :: cs) =
      (items limit inner fuel (skipGap cs)).map fun (xs, after) => (.arr xs, after) := by
  obtain ⟨c, more, begins, _, _, bracket⟩ := solid
  rw [value, room, begins]
  dsimp only
  split
  · simp_all
  · rfl

theorem value_obj (room : levels.inner? = some inner) (name : skipGap cs = '"' :: rest) :
    value limit levels (fuel + 1) ('\x7b' :: cs) =
      (members limit inner fuel ('"' :: rest)).map fun (ms, after) => (.obj (ofPairs ms), after) := by
  rw [value, room, name]
  dsimp only
  split
  · simp_all
  · rfl

theorem items_last (item : value limit levels fuel cs = .ok (x, rest))
    (closed : skipGap rest = ']' :: after) : items limit levels (fuel + 1) cs = .ok ([x], after) := by
  simp only [items, item, bind, Except.bind, closed]
  rfl

theorem items_more {more : List Char} {xs : List Json}
    (item : value limit levels fuel cs = .ok (x, rest))
    (comma : skipGap rest = ',' :: more)
    (others : items limit levels fuel (skipGap more) = .ok (xs, after)) :
    items limit levels (fuel + 1) cs = .ok (x :: xs, after) := by
  simp only [items, item, bind, Except.bind, comma, others]
  rfl

theorem members_last {colon : List Char} (name : memberName cs = .ok (key, colon))
    (item : value limit levels fuel (skipGap colon) = .ok (x, rest))
    (closed : skipGap rest = '\x7d' :: after) :
    members limit levels (fuel + 1) cs = .ok ([(key, x)], after) := by
  simp only [members, name, item, bind, Except.bind, closed]
  rfl

theorem members_more {colon more : List Char} {ms : List (String × Json)}
    (name : memberName cs = .ok (key, colon))
    (item : value limit levels fuel (skipGap colon) = .ok (x, rest))
    (comma : skipGap rest = ',' :: more)
    (others : members limit levels fuel (skipGap more) = .ok (ms, after)) :
    members limit levels (fuel + 1) cs = .ok ((key, x) :: ms, after) := by
  simp only [members, name, item, bind, Except.bind, comma, others]
  rfl

end

/-! ### Items and members in turn -/

section

variable {levels : Levels} {fuel level : Nat} {rest : List Char} {x : Json} {xs : List Json}
  {k : String} {ms : List (String × Json)}

/-- Between two items stands a comma, and blanks at most behind it. -/
theorem skipGap_between (spaced : l.Spaced) (level : Nat) (rest : List Char) :
    ∃ more, skipGap (l.betweenItems ++ (l.newline level ++ rest)) = ',' :: more ∧
      skipGap more = skipGap rest := by
  obtain ⟨gap, between, blanks⟩ := spaced.betweenItems
  refine ⟨gap ++ (l.newline level ++ rest), ?_, ?_⟩
  · rw [between]
    exact skipGap_cons (by decide)
  · rw [skipGap_append blanks, skipGap_append (spaced.newline level)]

theorem itemsText_solid (within : limited = true → limit = some Decimal.limit)
    (plain : arePlain limit (x :: xs) = true) :
    Solid (itemsText l limited level (x :: xs) ++ rest) := by
  simp only [arePlain, Bool.and_eq_true] at plain
  exact ((written_solid within x _ plain.1).append _).append _

theorem skipGap_membersText :
    skipGap (membersText l limited level ((k, x) :: ms) ++ rest) =
      membersText l limited level ((k, x) :: ms) ++ rest :=
  skipGap_cons (by decide)

/-- The fuel that reads a list of items leaves enough for the first item and for the others. -/
theorem itemsText_enough (spaced : l.Spaced) (within : limited = true → limit = some Decimal.limit)
    (plain : arePlain limit (x :: xs) = true)
    (enough : (itemsText l limited level (x :: xs)).length ≤ fuel) :
    (written l limited (level + 1) x).text.length < fuel ∧
      (xs ≠ [] → (itemsText l limited level xs).length < fuel) := by
  simp only [arePlain, Bool.and_eq_true] at plain
  have first := (written_solid (l := l) within x (level + 1) plain.1).pos
  rw [itemsText, List.length_append] at enough
  cases xs with
  | nil =>
    rw [writtenItems, Written.of_text, List.length_append, List.length_singleton] at enough
    exact ⟨by omega, fun nonempty => absurd rfl nonempty⟩
  | cons y ys =>
    have next := plain.2
    simp only [arePlain, Bool.and_eq_true] at next
    obtain ⟨gap, between, _⟩ := spaced.betweenItems
    rw [writtenItems_cons_text (written_complete within y _ next.1), between] at enough
    simp only [List.length_append, List.length_cons] at enough
    exact ⟨by omega, fun _ => by omega⟩

/-- So does the fuel that reads a list of members. -/
theorem membersText_enough (within : limited = true → limit = some Decimal.limit)
    (plain : membersArePlain limit ((k, x) :: ms) = true)
    (enough : (membersText l limited level ((k, x) :: ms)).length ≤ fuel) :
    (written l limited (level + 1) x).text.length < fuel ∧
      (ms ≠ [] → (membersText l limited level ms).length < fuel) := by
  simp only [membersArePlain, Bool.and_eq_true] at plain
  simp only [membersText, quoted, List.length_append, List.length_cons] at enough
  rcases ms with _ | ⟨⟨other, y⟩, ms⟩
  · exact ⟨by omega, fun nonempty => absurd rfl nonempty⟩
  · have next := plain.2
    simp only [membersArePlain, Bool.and_eq_true] at next
    rw [writtenMembers_cons_text (written_complete within y _ next.1)] at enough
    simp only [List.length_append] at enough
    exact ⟨by omega, fun _ => by omega⟩

/-- Items are read if the first one and the others are. -/
theorem items_step (spaced : l.Spaced) (within : limited = true → limit = some Decimal.limit)
    (plain : arePlain limit (x :: xs) = true)
    (item : ∀ after, EndsNumber after →
      value limit levels fuel ((written l limited (level + 1) x).text ++ after) = .ok (x, after))
    (others : xs ≠ [] →
      items limit levels fuel (itemsText l limited level xs ++ rest) = .ok (xs, rest)) :
    items limit levels (fuel + 1) (itemsText l limited level (x :: xs) ++ rest) =
      .ok (x :: xs, rest) := by
  simp only [arePlain, Bool.and_eq_true] at plain
  have item := item _ (writtenItems_ends spaced within xs level plain.2 rest)
  rw [itemsText, List.append_assoc]
  cases xs with
  | nil =>
    refine items_last item ?_
    rw [writtenItems, Written.of_text, List.append_assoc, skipGap_append (spaced.newline level)]
    exact skipGap_cons (by decide)
  | cons y ys =>
    have next := plain.2
    have solid : Solid (itemsText l limited level (y :: ys) ++ rest) := itemsText_solid within next
    simp only [arePlain, Bool.and_eq_true] at next
    obtain ⟨more, comma, behind⟩ :=
      skipGap_between spaced (level + 1) (itemsText l limited level (y :: ys) ++ rest)
    rw [← List.append_assoc, ← List.append_assoc, List.append_assoc l.betweenItems,
      ← writtenItems_cons_text (written_complete within y _ next.1)] at comma
    refine items_more item comma ?_
    rw [behind, solid.skipGap_eq]
    exact others (by simp)

/-- Members are read if the first one and the others are. -/
theorem members_step (spaced : l.Spaced) (within : limited = true → limit = some Decimal.limit)
    (plain : membersArePlain limit ((k, x) :: ms) = true)
    (item : ∀ after, EndsNumber after →
      value limit levels fuel ((written l limited (level + 1) x).text ++ after) = .ok (x, after))
    (others : ms ≠ [] →
      members limit levels fuel (membersText l limited level ms ++ rest) = .ok (ms, rest)) :
    members limit levels (fuel + 1) (membersText l limited level ((k, x) :: ms) ++ rest) =
      .ok ((k, x) :: ms, rest) := by
  simp only [membersArePlain, Bool.and_eq_true] at plain
  have item := item _ (writtenMembers_ends spaced within ms level plain.2 rest)
  have solid := (written_solid (l := l) within x (level + 1) plain.1).append
    ((writtenMembers l limited level ms).text ++ rest)
  obtain ⟨behind, key, blanks⟩ := spaced.afterKey
  have name := memberName_quoted k (behind ++ ((written l limited (level + 1) x).text ++
    ((writtenMembers l limited level ms).text ++ rest)))
  rw [← solid.skipGap_eq, ← skipGap_append blanks] at item
  have shape : membersText l limited level ((k, x) :: ms) ++ rest =
      quoted k ++ ':' :: (behind ++ ((written l limited (level + 1) x).text ++
        ((writtenMembers l limited level ms).text ++ rest))) := by
    simp [membersText, key]
  rw [shape]
  rcases ms with _ | ⟨⟨other, y⟩, ms⟩
  · refine members_last name item ?_
    rw [writtenMembers, Written.of_text, List.append_assoc, skipGap_append (spaced.newline level)]
    exact skipGap_cons (by decide)
  · have next := plain.2
    simp only [membersArePlain, Bool.and_eq_true] at next
    obtain ⟨more, comma, behind⟩ :=
      skipGap_between spaced (level + 1) (membersText l limited level ((other, y) :: ms) ++ rest)
    rw [← List.append_assoc, ← List.append_assoc, List.append_assoc l.betweenItems,
      ← writtenMembers_cons_text (written_complete within y _ next.1)] at comma
    refine members_more name item comma ?_
    rw [behind, skipGap_membersText]
    exact others (by simp)

end

/-! ### Reading all levels -/

mutual

/-- How deep a document is nested. -/
def depth : Json → Nat
  | arr xs => itemsDepth xs + 1
  | obj ms => membersDepth ms + 1
  | _ => 0

/-- How deep the deepest of items is nested. -/
def itemsDepth : List Json → Nat
  | [] => 0
  | x :: xs => max (depth x) (itemsDepth xs)

/-- How deep the deepest of the values of members is nested. -/
def membersDepth : List (String × Json) → Nat
  | [] => 0
  | (_, x) :: ms => max (depth x) (membersDepth ms)

end

mutual

/-- A plain document is read back where it is not too deep, whatever follows that does not go on with
a number. -/
theorem value_written (spaced : l.Spaced) (within : limited = true → limit = some Decimal.limit) :
    ∀ (x : Json) (levels : Levels) (level fuel : Nat) (rest : List Char), isPlain limit x = true →
      levels.Holds x.depth → (written l limited level x).text.length ≤ fuel → EndsNumber rest →
      value limit levels fuel ((written l limited level x).text ++ rest) = .ok (x, rest)
  | x, _, level, 0, rest, plain, _, enough, _ =>
    absurd (written_solid within x level plain).pos (Nat.not_lt.mpr enough)
  | null, _, level, fuel + 1, rest, plain, _, enough, ends => rfl
  | bool true, _, level, fuel + 1, rest, plain, _, enough, ends => rfl
  | bool false, _, level, fuel + 1, rest, plain, _, enough, ends => rfl
  | int n, _, level, fuel + 1, rest, plain, _, enough, ends => by
    rw [written, writtenInt_eq within plain]
    exact value_ofInt ends plain
  | float y, _, _, _ + 1, _, plain, _, _, _ => by simp [isPlain] at plain
  | str s, _, level, fuel + 1, rest, plain, _, enough, ends => by
    rw [written, Written.of_text, quoted, List.cons_append, List.cons_append, List.append_assoc,
      value]
    exact text_quoted s rest
  | brokenText ps, _, _, _ + 1, _, plain, _, _, _ => by simp [isPlain] at plain
  | arr [], levels, level, fuel + 1, rest, plain, holds, enough, ends => by
    obtain ⟨inner, room, _⟩ := holds.inner
    simp [written, value, room, skipGap, isGap]
  | arr (x :: xs), levels, level, fuel + 1, rest, plain, holds, enough, ends => by
    obtain ⟨inner, room, holds⟩ := holds.inner
    rw [isPlain] at plain
    have head := plain
    simp only [arePlain, Bool.and_eq_true] at head
    have solid : Solid (itemsText l limited level (x :: xs) ++ rest) := itemsText_solid within plain
    have start : skipGap (l.newline (level + 1) ++ (itemsText l limited level (x :: xs) ++ rest)) =
        itemsText l limited level (x :: xs) ++ rest := by
      rw [skipGap_append (spaced.newline _), solid.skipGap_eq]
    rw [written_arr_text (written_complete within x (level + 1) head.1)] at enough ⊢
    simp only [List.length_cons, List.length_append] at enough
    rw [List.cons_append, List.append_assoc, value_arr room (start.symm ▸ solid), start,
      items_written spaced within (x :: xs) inner level fuel rest (by simp) plain holds (by omega)]
    rfl
  | obj [], levels, level, fuel + 1, rest, plain, holds, enough, ends => by
    obtain ⟨inner, room, _⟩ := holds.inner
    simp [written, value, room, skipGap, isGap]
  | obj ((k, x) :: ms), levels, level, fuel + 1, rest, plain, holds, enough, ends => by
    obtain ⟨inner, room, holds⟩ := holds.inner
    simp only [isPlain, Bool.and_eq_true, decide_eq_true_eq] at plain
    obtain ⟨distinct, plain⟩ := plain
    have head := plain
    simp only [membersArePlain, Bool.and_eq_true] at head
    have start : skipGap (l.newline (level + 1) ++ (membersText l limited level ((k, x) :: ms) ++
        rest)) = membersText l limited level ((k, x) :: ms) ++ rest := by
      rw [skipGap_append (spaced.newline _), skipGap_membersText]
    rw [written_obj_text (written_complete within x (level + 1) head.1)] at enough ⊢
    simp only [List.length_cons, List.length_append] at enough
    have read := members_written spaced within ((k, x) :: ms) inner level fuel rest (by simp) plain
      holds (by omega)
    rw [List.cons_append, List.append_assoc, value_obj room start]
    show (members limit inner fuel (membersText l limited level ((k, x) :: ms) ++ rest)).map _ = _
    simp only [read, Except.map, ofPairs_of_nodup distinct]

/-- Plain items are read back. -/
theorem items_written (spaced : l.Spaced) (within : limited = true → limit = some Decimal.limit) :
    ∀ (xs : List Json) (levels : Levels) (level fuel : Nat) (rest : List Char), xs ≠ [] →
      arePlain limit xs = true → levels.Holds (itemsDepth xs) →
      (itemsText l limited level xs).length ≤ fuel →
      items limit levels fuel (itemsText l limited level xs ++ rest) = .ok (xs, rest)
  | [], _, _, _, _, nonempty, _, _, _ => absurd rfl nonempty
  | x :: xs, _, level, 0, rest, _, plain, _, enough =>
    absurd (itemsText_enough spaced within plain enough).1 (Nat.not_lt_zero _)
  | x :: xs, levels, level, fuel + 1, rest, _, plain, holds, enough => by
    obtain ⟨first, more⟩ := itemsText_enough spaced within plain enough
    have parts := plain
    simp only [arePlain, Bool.and_eq_true] at parts
    refine items_step spaced within plain (fun after ends => ?_) fun nonempty => ?_
    · exact value_written spaced within x levels (level + 1) fuel after parts.1
        (holds.mono (le_max_left _ _)) (by omega) ends
    · have enough := more nonempty
      exact items_written spaced within xs levels level fuel rest nonempty parts.2
        (holds.mono (le_max_right _ _)) (by omega)

/-- Plain members are read back. -/
theorem members_written (spaced : l.Spaced) (within : limited = true → limit = some Decimal.limit) :
    ∀ (ms : List (String × Json)) (levels : Levels) (level fuel : Nat) (rest : List Char), ms ≠ [] →
      membersArePlain limit ms = true → levels.Holds (membersDepth ms) →
      (membersText l limited level ms).length ≤ fuel →
      members limit levels fuel (membersText l limited level ms ++ rest) = .ok (ms, rest)
  | [], _, _, _, _, nonempty, _, _, _ => absurd rfl nonempty
  | (k, x) :: ms, _, level, 0, rest, _, plain, _, enough =>
    absurd (membersText_enough within plain enough).1 (Nat.not_lt_zero _)
  | (k, x) :: ms, levels, level, fuel + 1, rest, _, plain, holds, enough => by
    obtain ⟨first, more⟩ := membersText_enough within plain enough
    have parts := plain
    simp only [membersArePlain, Bool.and_eq_true] at parts
    refine members_step spaced within plain (fun after ends => ?_) fun nonempty => ?_
    · exact value_written spaced within x levels (level + 1) fuel after parts.1
        (holds.mono (le_max_left _ _)) (by omega) ends
    · have enough := more nonempty
      exact members_written spaced within ms levels level fuel rest nonempty parts.2
        (holds.mono (le_max_right _ _)) (by omega)

end

/-- A plain document that is not too deep is what its text is read as, spacing behind it apart. -/
theorem read_written (spaced : l.Spaced) (within : limited = true → limit = some Decimal.limit)
    {x : Json} (plain : isPlain limit x = true) {levels : Levels} (holds : levels.Holds x.depth)
    {tail : List Char} (spacing : IsSpacing tail) :
    readWithin limit levels ((written l limited 0 x).text ++ tail) = .ok x := by
  have solid := written_solid (l := l) within x 0 plain
  have mark : ((written l limited 0 x).text ++ tail).head? ≠ some (Char.ofNat 0xFEFF) := by
    obtain ⟨c, more, begins, ascii, _⟩ := solid
    rw [begins, List.cons_append, List.head?_cons]
    intro same
    rw [Option.some.inj same] at ascii
    exact absurd ascii (by decide)
  have ends : EndsNumber tail := by
    rw [← List.append_nil tail]
    exact endsNumber_gap spacing (by simp [EndsNumber])
  have whole := value_written spaced within x levels 0
    (2 * ((written l limited 0 x).text ++ tail).length + 1) tail plain holds
    (by rw [List.length_append]; omega) ends
  have left : skipGap tail = [] := by
    rw [← List.append_nil tail, skipGap_append spacing]
    rfl
  simp only [readWithin, document, if_neg mark, (solid.append tail).skipGap_eq, bind, Except.bind,
    whole, left]
  rfl

end

/-- The indented text of a plain document is read as that document. -/
theorem read_render {x : Json} (plain : isPlain (some Decimal.limit) x = true) {tail : List Char}
    (spacing : IsSpacing tail) : read (some Decimal.limit) ((render x).text ++ tail) = .ok x :=
  read_written Layout.indented_spaced (fun _ => rfl) plain (Levels.holds_none _) spacing

end IndexScan.Json
