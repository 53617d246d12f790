import IndexScan.Console.Basic
import Mathlib.Data.List.TakeWhile
import Mathlib.Tactic.Common

/-!
Text with tags. Text is harmless when taking it apart and reading its tags cannot fail, whichever
tags are open and whatever text was read last, and when no tag in it has parameters. Text without
brackets is harmless, whatever else it says (`Safe.of_untagged`), and so is a tag that is opened and
closed around such text in front of harmless text (`Safe.enclosed`). Harmless text is printed
(`print_of_safe`), and so are tables of it (`printTable_of_safe`).

What a tag is, is said once (`tag?_eq_some_iff`), and what taking apart does at a tag follows from
it (`pieces_tag`).
-/

namespace IndexScan.Console

namespace Markup

variable {cs rest content inner name : List Char} {opened : List (List Char)} {ps : List Piece}

/-! ### Text without tags -/

/-- Text without an opening bracket. -/
def Untagged (cs : List Char) : Prop :=
  ∀ c ∈ cs, c ≠ '['

instance (cs : List Char) : Decidable (Untagged cs) :=
  List.decidableBAll _ cs

theorem Untagged.append {cs ds : List Char} (left : Untagged cs) (right : Untagged ds) :
    Untagged (cs ++ ds) := fun c mem =>
  (List.mem_append.mp mem).elim (left c) (right c)

theorem Untagged.tail {c : Char} (untagged : Untagged (c :: cs)) : Untagged cs := fun d mem =>
  untagged d (List.mem_cons_of_mem _ mem)

/-- Without tags there is one piece of text at most. -/
theorem pieces_of_untagged (untagged : Untagged cs) (position skip slashes : Nat)
    (plain : List Char) :
    ∃ shows, pieces position skip slashes plain cs = Piece.ofText shows := by
  induction cs generalizing position skip slashes plain with
  | nil => exact ⟨_, rfl⟩
  | cons c cs ih =>
    have bracket : c ≠ '[' := untagged c (List.mem_cons_self ..)
    cases skip with
    | succ skip => exact ih untagged.tail (position + 1) skip 0 []
    | zero =>
      by_cases slash : c = '\\'
      · obtain ⟨shows, eq⟩ := ih untagged.tail (position + 1) 0 (slashes + 1) plain
        exact ⟨shows, by rw [pieces, if_pos slash, eq]⟩
      · obtain ⟨shows, eq⟩ :=
          ih untagged.tail (position + 1) 0 0 (c :: (List.replicate slashes '\\' ++ plain))
        exact ⟨shows, by simpa only [pieces, if_neg slash, if_neg bracket] using eq⟩

/-! ### Tags -/

/-- A tag is a character that begins tags, text without brackets, and a closing bracket. -/
theorem tag?_eq_some_iff : tag? cs = some content ↔ ∃ c body rest, content = c :: body ∧
    cs = content ++ ']' :: rest ∧ beginsTag c = true ∧ ∀ d ∈ body, d ≠ ']' ∧ d ≠ '[' := by
  constructor
  · intro tag
    cases cs with
    | nil => cases tag
    | cons c cs =>
      simp only [tag?] at tag
      split_ifs at tag with found
      obtain ⟨begins, closed⟩ := Bool.and_eq_true_iff.mp found
      obtain rfl := Option.some.inj tag
      have parts := List.takeWhile_append_dropWhile (p := fun d => d != ']' && d != '[') (l := cs)
      have behind : cs.drop (cs.takeWhile fun d => d != ']' && d != '[').length =
          cs.dropWhile fun d => d != ']' && d != '[' := by
        conv_lhs => arg 2; rw [← parts]
        exact List.drop_left
      rw [behind, decide_eq_true_eq] at closed
      obtain ⟨rest, bracket⟩ := List.head?_eq_some_iff.mp closed
      refine ⟨c, _, rest, rfl, ?_, begins, fun d mem => ?_⟩
      · rw [List.cons_append, ← bracket, parts]
      · simpa using List.mem_takeWhile_imp mem
  · rintro ⟨c, body, rest, rfl, rfl, begins, plain⟩
    have whole : (body ++ ']' :: rest).takeWhile (fun d => d != ']' && d != '[') = body := by
      rw [List.takeWhile_append_of_pos fun d mem => by simpa using plain d mem,
        List.takeWhile_cons_of_neg (by decide), List.append_nil]
    simp [tag?, whole, begins]

/-- Whether a tag begins here depends on its content only. -/
theorem tag?_append (tag : tag? cs = some content) (rest : List Char) :
    tag? (content ++ ']' :: rest) = some content := by
  obtain ⟨c, body, _, eq, _, begins, plain⟩ := tag?_eq_some_iff.mp tag
  exact tag?_eq_some_iff.mpr ⟨c, body, rest, eq, rfl, begins, plain⟩

theorem tag?_eq_append (tag : tag? cs = some content) : ∃ rest, cs = content ++ ']' :: rest := by
  obtain ⟨_, _, rest, _, eq, _⟩ := tag?_eq_some_iff.mp tag
  exact ⟨rest, eq⟩

/-- Characters that were dealt with are passed over. -/
theorem pieces_skip (position slashes : Nat) (plain : List Char) (c : Char) (cs rest : List Char) :
    pieces position (cs.length + 1) slashes plain (c :: cs ++ rest) =
      pieces (position + cs.length + 1) 0 0 [] rest := by
  induction cs generalizing position slashes plain c with
  | nil => rw [List.cons_append, pieces]; rfl
  | cons d cs ih =>
    rw [List.cons_append, List.length_cons, pieces, ih]
    congr 1
    omega

/-- What a tag becomes behind a number of backslashes: they stand in pairs, and one to spare makes
the tag text. -/
def bracketed (position slashes : Nat) (content : List Char) : Piece :=
  if slashes % 2 = 1 then .text ('[' :: content ++ [']'])
  else Piece.ofTag (position - slashes + slashes / 2 * 2) content

theorem pieces_tag (tag : tag? cs = some content) (position slashes : Nat) (plain : List Char) :
    pieces position 0 slashes plain ('[' :: cs) =
      Piece.ofText plain.reverse ++ Piece.ofText (List.replicate (slashes / 2) '\\') ++
        bracketed position slashes content ::
          pieces (position + 1) (content.length + 1) 0 [] cs := by
  rw [pieces, if_neg (by decide), if_pos rfl, tag]
  rfl

theorem pieces_bracket (tag : tag? (content ++ ']' :: rest) = some content)
    (position slashes : Nat) (plain : List Char) :
    pieces position 0 slashes plain ('[' :: (content ++ ']' :: rest)) =
      Piece.ofText plain.reverse ++ Piece.ofText (List.replicate (slashes / 2) '\\') ++
        bracketed position slashes content ::
          pieces (position + 1 + content.length + 1) 0 0 [] rest := by
  rw [pieces_tag tag]
  obtain ⟨c, body, _, rfl, _⟩ := tag?_eq_some_iff.mp tag
  have passed := pieces_skip (position + 1) 0 [] c (body ++ [']']) rest
  simp only [List.length_append, List.length_singleton, List.cons_append, List.append_assoc,
    List.nil_append] at passed
  simp only [List.length_cons, List.cons_append, passed]

/-- A bracket that begins no tag is text. -/
theorem pieces_plainBracket (none : tag? cs = none) (position slashes : Nat) (plain : List Char) :
    pieces position 0 slashes plain ('[' :: cs) =
      pieces (position + 1) 0 0 ('[' :: (List.replicate slashes '\\' ++ plain)) cs := by
  rw [pieces, if_neg (by decide), if_pos rfl, none]

theorem pieces_backslash (position slashes : Nat) (plain cs : List Char) :
    pieces position 0 slashes plain ('\\' :: cs) =
      pieces (position + 1) 0 (slashes + 1) plain cs := by
  rw [pieces, if_pos rfl]

theorem pieces_ordinary {c : Char} (backslash : c ≠ '\\') (bracket : c ≠ '[')
    (position slashes : Nat) (plain cs : List Char) :
    pieces position 0 slashes plain (c :: cs) =
      pieces (position + 1) 0 0 (c :: (List.replicate slashes '\\' ++ plain)) cs := by
  rw [pieces, if_neg backslash, if_neg bracket]

/-! ### Reading pieces -/

/-- A piece without parameters. -/
def Piece.IsBare : Piece → Prop
  | .text _ => True
  | .tag _ _ parameters => parameters = none

/-- Pieces without parameters that are read without a fault while some tags are open. -/
structure Shows (opened : List (List Char)) (ps : List Piece) : Prop where
  read : ∃ shown, interpret opened ps = .ok shown
  bare : ∀ p ∈ ps, p.IsBare

theorem Shows.nil : Shows opened [] := ⟨⟨[], rfl⟩, List.forall_mem_nil _⟩

theorem Shows.text (cs : List Char) (later : Shows opened ps) : Shows opened (.text cs :: ps) := by
  obtain ⟨shows, eq⟩ := later.read
  exact ⟨⟨shown cs ++ shows, by rw [interpret, eq]; rfl⟩,
    List.forall_mem_cons.mpr ⟨trivial, later.bare⟩⟩

theorem Shows.ofText (cs : List Char) (later : Shows opened ps) :
    Shows opened (Piece.ofText cs ++ ps) := by
  rw [Piece.ofText]
  split
  · exact later
  · exact later.text cs

/-- A tag whose name is its own canonical form, and what is needed to close it again. -/
structure IsWord (name : List Char) : Prop where
  lower : name ≠ [] ∧ name.all (fun c => 'a' ≤ c && c ≤ 'z') = true
  normal : normalize name = .ok name
  trimmed : Text.trim Text.isBlank name = name

/-- Such a tag is open for what follows. -/
theorem interpret_opening (word : IsWord name) (position : Nat) (ps : List Piece) :
    interpret opened (.tag position name none :: ps) = interpret (name :: opened) ps := by
  rw [interpret]
  · rw [word.normal]
    rfl
  · intro closed begins
    have slash : ('/' : Char) ∈ name := begins ▸ List.mem_cons_self
    exact absurd (List.all_eq_true.mp word.lower.2 _ slash) (by decide)

/-- It is closed by its name behind a slash. -/
theorem interpret_closing (word : IsWord name) (position : Nat) (ps : List Piece) :
    interpret (name :: opened) (.tag position ('/' :: name) none :: ps) = interpret opened ps := by
  have nonempty : name.isEmpty = false := by simpa using word.lower.1
  rw [interpret]
  simp only [word.trimmed, nonempty, word.normal, Bool.false_eq_true, if_false]
  simp [bind, Except.bind]

theorem Shows.opening (word : IsWord name) (position : Nat) (later : Shows (name :: opened) ps) :
    Shows opened (.tag position name none :: ps) := by
  obtain ⟨shows, eq⟩ := later.read
  exact ⟨⟨shows, (interpret_opening word position ps).trans eq⟩,
    List.forall_mem_cons.mpr ⟨rfl, later.bare⟩⟩

theorem Shows.closing (word : IsWord name) (position : Nat) (later : Shows opened ps) :
    Shows (name :: opened) (.tag position ('/' :: name) none :: ps) := by
  obtain ⟨shows, eq⟩ := later.read
  exact ⟨⟨shows, (interpret_closing word position ps).trans eq⟩,
    List.forall_mem_cons.mpr ⟨rfl, later.bare⟩⟩

/-- The words that tags of reports are made of. -/
def words : List String := ["green", "red", "yellow", "bold", "dim"]

theorem isWord_of_mem : ∀ word ∈ words, IsWord word.toList := by
  have all : ∀ word ∈ words, (word.toList ≠ [] ∧
      word.toList.all (fun c => 'a' ≤ c && c ≤ 'z') = true) ∧
      normalize word.toList = .ok word.toList ∧
      Text.trim Text.isBlank word.toList = word.toList := by
    decide +kernel
  exact fun word mem => ⟨(all word mem).1, (all word mem).2.1, (all word mem).2.2⟩

theorem IsWord.mem_lower (word : IsWord name) {c : Char} (mem : c ∈ name) :
    'a' ≤ c ∧ c ≤ 'z' := by
  simpa using List.all_eq_true.mp word.lower.2 c mem

theorem IsWord.ofTag (word : IsWord name) (position : Nat) :
    Piece.ofTag position name = .tag position name none := by
  have whole : name.takeWhile (· != '=') = name := by
    refine List.takeWhile_eq_self_iff.mpr fun c mem => ?_
    have lower := word.mem_lower mem
    rw [bne_iff_ne]
    rintro rfl
    exact absurd lower (by decide)
  simp [Piece.ofTag, whole]

theorem IsWord.plain (word : IsWord name) : ∀ d ∈ name, d ≠ ']' ∧ d ≠ '[' := by
  intro d mem
  have lower := word.mem_lower mem
  constructor
  · rintro rfl
    exact absurd lower (by decide)
  · rintro rfl
    exact absurd lower (by decide)

theorem IsWord.tag? (word : IsWord name) (rest : List Char) :
    tag? (name ++ ']' :: rest) = some name := by
  cases name with
  | nil => exact absurd rfl word.lower.1
  | cons c body =>
    have lower := word.mem_lower (List.mem_cons_self)
    exact tag?_eq_some_iff.mpr ⟨c, body, rest, rfl, rfl, by simp [beginsTag, lower],
      fun d mem => word.plain d (List.mem_cons_of_mem _ mem)⟩

/-! ### Harmless text -/

/-- Text without parameters that is read without a fault behind any text, whichever tags are open. -/
def Safe (cs : List Char) : Prop :=
  ∀ position plain opened, Shows opened (pieces position 0 0 plain cs)

theorem Safe.of_untagged (untagged : Untagged cs) : Safe cs := by
  intro position plain opened
  obtain ⟨shows, eq⟩ := pieces_of_untagged untagged position 0 0 plain
  rw [eq, ← List.append_nil (Piece.ofText shows)]
  exact Shows.nil.ofText shows

/-- Ordinary characters can stand in front. -/
theorem Safe.cons {c : Char} (backslash : c ≠ '\\') (bracket : c ≠ '[') (safe : Safe cs) :
    Safe (c :: cs) := by
  intro position plain opened
  rw [pieces_ordinary backslash bracket]
  exact safe _ _ opened

/-- Text without backslashes and opening brackets. -/
def Ordinary (cs : List Char) : Prop :=
  ∀ c ∈ cs, c ≠ '\\' ∧ c ≠ '['

instance (cs : List Char) : Decidable (Ordinary cs) :=
  List.decidableBAll _ cs

theorem Safe.append {front : List Char} (ordinary : Ordinary front) (safe : Safe cs) :
    Safe (front ++ cs) := by
  induction front with
  | nil => exact safe
  | cons c front ih =>
    obtain ⟨⟨backslash, bracket⟩, others⟩ := List.forall_mem_cons.mp ordinary
    exact (ih others).cons backslash bracket

/-- A bracket that begins no tag can stand in front, too. -/
theorem Safe.bracket (none : Markup.tag? cs = none) (safe : Safe cs) : Safe ('[' :: cs) := by
  intro position plain opened
  rw [pieces_plainBracket none]
  exact safe _ _ opened

/-- What can be read behind any backslashes can be read behind text without tags. -/
theorem shows_untagged_append (untagged : Untagged inner)
    (later : ∀ position slashes plain, Shows opened (pieces position 0 slashes plain cs))
    (position slashes : Nat) (plain : List Char) :
    Shows opened (pieces position 0 slashes plain (inner ++ cs)) := by
  induction inner generalizing position slashes plain with
  | nil => exact later position slashes plain
  | cons c inner ih =>
    have bracket : c ≠ '[' := untagged c List.mem_cons_self
    rw [List.cons_append]
    by_cases backslash : c = '\\'
    · rw [backslash, pieces_backslash]
      exact ih untagged.tail _ _ _
    · rw [pieces_ordinary backslash bracket]
      exact ih untagged.tail _ _ _

/-- The closing tag of a word, as it stands in a text. -/
def closing (name : List Char) : List Char :=
  '[' :: ('/' :: name ++ [']'])

/-- A closing tag is a tag. -/
theorem IsWord.tag?_closing (word : IsWord name) (rest : List Char) :
    Markup.tag? ('/' :: name ++ ']' :: rest) = some ('/' :: name) :=
  tag?_eq_some_iff.mpr ⟨'/', name, rest, rfl, rfl, by decide, word.plain⟩

theorem IsWord.ofTag_closing (word : IsWord name) (position : Nat) :
    Piece.ofTag position ('/' :: name) = .tag position ('/' :: name) none := by
  have inside := word.ofTag 0
  simp only [Piece.ofTag] at inside ⊢
  simp_all

/-- A closing tag closes its tag, or a backslash in front makes it text and the tag stays open. -/
theorem shows_closing (word : IsWord name) (safe : Safe cs) (position slashes : Nat)
    (plain : List Char) :
    Shows (name :: opened) (pieces position 0 slashes plain (closing name ++ cs)) := by
  have text : closing name ++ cs = '[' :: ('/' :: name ++ ']' :: cs) := by simp [closing]
  rw [text, pieces_bracket (word.tag?_closing cs), List.append_assoc]
  refine Shows.ofText _ (Shows.ofText _ ?_)
  rw [bracketed]
  split_ifs
  · exact (safe _ _ _).text _
  · rw [word.ofTag_closing]
    exact (safe _ _ _).closing word _

/-- A word as a tag around text without tags is harmless in front of harmless text. -/
theorem Safe.enclosed (word : IsWord name) (untagged : Untagged inner) (safe : Safe cs) :
    Safe ('[' :: (name ++ ']' :: (inner ++ (closing name ++ cs)))) := by
  intro position plain opened
  rw [pieces_bracket (word.tag? _), List.append_assoc]
  refine Shows.ofText _ (Shows.ofText _ ?_)
  rw [bracketed, if_neg (by decide), word.ofTag]
  exact (shows_untagged_append untagged (shows_closing word safe) _ _ _).opening word _

/-- Harmless text is harmless behind a mark between tags. -/
theorem Safe.marked {start text : String} {word : List Char} (isWord : IsWord word) (mark : Char)
    (after : List Char) (plain : mark ≠ '[') (ordinary : Ordinary after)
    (spells : start.toList = '[' :: (word ++ ']' :: ([mark] ++ (closing word ++ after))))
    (safe : Safe text.toList) : Safe (start ++ text).toList := by
  have single : Untagged [mark] := List.forall_mem_singleton.mpr plain
  have enclosed := Safe.enclosed isWord single (safe.append ordinary)
  rw [String.toList_append, spells]
  simpa only [List.cons_append, List.append_assoc, List.nil_append] using enclosed

/-- So it is behind the mark of success. -/
theorem Safe.confirmed {text : String} (safe : Safe text.toList) :
    Safe ("[green]✓[/green] " ++ text).toList :=
  .marked (isWord_of_mem "green" (by decide)) '✓' [' '] (by decide) (by decide) rfl safe

end Markup

/-- Harmless text is printed. -/
theorem print_of_safe {text : String} (safe : Markup.Safe text.toList) :
    ∃ printed, print text = .ok printed := by
  obtain ⟨shows, eq⟩ := (safe 0 [] []).read
  exact ⟨_, by rw [print, Markup.render, eq]; rfl⟩

/-! ### Tables -/

/-- A table all of whose texts are harmless. -/
structure Table.Safe (t : Table) : Prop where
  title : Markup.Safe t.title.toList
  heads : ∀ head ∈ t.heads, Markup.Safe head.toList
  rows : ∀ row ∈ t.rows, ∀ cell ∈ row, Markup.Safe cell.toList

theorem Table.Safe.column {t : Table} (safe : t.Safe) (i : Nat) :
    ∀ cell ∈ t.column i, Markup.Safe cell.toList := by
  have blank : Markup.Safe "".toList := .of_untagged (by decide)
  have nth (cells : List String) (all : ∀ cell ∈ cells, Markup.Safe cell.toList) :
      Markup.Safe (cells.getD i "").toList := by
    rw [List.getD_eq_getElem?_getD]
    cases found : cells[i]? with
    | none => exact blank
    | some cell => exact all cell (List.mem_of_getElem? found)
  refine List.forall_mem_cons.mpr ⟨nth t.heads safe.heads, fun cell mem => ?_⟩
  obtain ⟨row, inside, rfl⟩ := List.mem_map.mp mem
  exact nth row (safe.rows row inside)

end IndexScan.Console
