import IndexScan.Proofs.Yaml.Printed
import IndexScan.Proofs.Yaml.Scalars

/-!
Documents laid out line by line. Lines lay out an outline if a lexer at their start gives out its
tokens (`Lays`); a text behind its key does so (`lays_text`), and a list of words below its key
(`lays_list`). A document of such lines is read as the mapping that the outline denotes
(`read_of_lays`).
-/

namespace IndexScan.Yaml

open Lexer

variable {cs ds key : List Char} {es fs : Outline}

namespace Outline

@[simp] theorem kinds_append (es fs : Outline) : kinds (es ++ fs) = kinds es ++ kinds fs :=
  List.flatMap_append

theorem kinds_singleton (x : Leaf) (v : Branching) :
    kinds [(x, v)] = .key :: x.kind :: .value :: v.kinds :=
  List.flatMap_singleton ..

end Outline

/-! ### Lines -/

/-- The lines of `cs` lay out the outline: in front of whatever lines, they give its tokens. -/
structure Lays (cs : List Char) (es : Outline) : Prop where
  begins (tail : List Char) : BeginsLine (cs ++ tail)
  gives {l : Lexer} {opened : Bool} {tail : List Char} {kinds : List TokenKind}
    (line : AtLine l opened (cs ++ tail)) (fresh : BeginsLine tail)
    (more : ∀ l', AtLine l' true tail → Gives l' kinds) :
    Gives l (opening opened ++ es.kinds ++ kinds)
  short : es.kinds.length ≤ 8 * cs.length

theorem Lays.append (first : Lays cs es) (second : Lays ds fs) : Lays (cs ++ ds) (es ++ fs) where
  begins tail := by
    rw [List.append_assoc]
    exact first.begins (ds ++ tail)
  gives line fresh more := by
    rw [List.append_assoc] at line
    rw [Outline.kinds_append, ← List.append_assoc, List.append_assoc]
    apply first.gives line (second.begins _)
    intro l' line'
    exact second.gives line' fresh more
  short := by
    have left := first.short
    have right := second.short
    simp only [Outline.kinds_append, List.length_append]
    omega

/-- A text behind its key. -/
theorem lays_text (word : IsWord key) (near : key.length ≤ keyReach) (column : Nat)
    (text : List Char) :
    Lays (key ++ ':' :: ' ' :: (Writer.scalar column text ++ ['\n']))
      [(.ofWord key, .leaf (.ofText text))] where
  begins tail := by
    rw [List.append_assoc]
    exact beginsLine_word word
  gives {l opened tail kinds} line fresh more := by
    simp only [List.append_assoc, List.cons_append, List.nil_append] at line
    have scalar (l' : Lexer)
        (behind : Behind l' (' ' :: (Writer.scalar column text ++ '\n' :: tail))) :
        Gives l' ((Leaf.ofText text).kind :: kinds) :=
      gives_scalar behind fresh more
    have tokens := gives_key line word near rfl scalar
    rw [Outline.kinds_singleton]
    simpa [Branching.kinds, Leaf.ofWord, Leaf.kind] using tokens
  short := by
    simp [Outline.kinds_singleton, Branching.kinds]
    omega

/-- The entries of a list, a line each. -/
def listLines (items : List (List Char)) : List Char :=
  items.flatMap fun cs => '-' :: ' ' :: cs ++ ['\n']

theorem listLines_cons (cs : List Char) (items : List (List Char)) :
    listLines (cs :: items) = '-' :: ' ' :: (cs ++ '\n' :: listLines items) := by
  simp [listLines]

/-- The tokens of a list. -/
def listKinds (items : List Leaf) : List TokenKind :=
  items.flatMap fun x => [.blockEntry, x.kind]

theorem beginsLine_listLines {items : List (List Char)} {tail : List Char}
    (fresh : BeginsLine tail) : BeginsLine (listLines items ++ tail) := by
  cases items with
  | nil => exact fresh
  | cons cs items =>
    rw [listLines_cons]
    exact beginsLine_entry

theorem gives_list {items : List (List Char)} {l : Lexer} {tail : List Char}
    {kinds : List TokenKind} (words : ∀ cs ∈ items, IsWord cs)
    (line : AtLine l true (listLines items ++ tail)) (fresh : BeginsLine tail)
    (more : ∀ l', AtLine l' true tail → Gives l' kinds) :
    Gives l (listKinds (items.map .ofWord) ++ kinds) := by
  induction items generalizing l with
  | nil => exact more l line
  | cons cs items ih =>
    rw [listLines_cons] at line
    simp only [List.cons_append, List.append_assoc] at line
    apply gives_entry line (words cs (by simp)) (beginsLine_listLines fresh)
    intro l' line'
    exact ih (fun ds mem => words ds (by simp [mem])) line'

theorem length_listKinds (items : List (List Char)) :
    (listKinds (items.map .ofWord)).length ≤ 2 * (listLines items).length := by
  induction items with
  | nil => exact Nat.le_refl 0
  | cons cs items ih =>
    simp only [listLines_cons, List.map_cons, listKinds, List.flatMap_cons, List.length_append,
      List.length_cons, List.length_nil] at ih ⊢
    omega

/-- A list of words below its key. -/
theorem lays_list {item : List Char} {items : List (List Char)} (word : IsWord key)
    (near : key.length ≤ keyReach) (words : ∀ cs ∈ item :: items, IsWord cs) :
    Lays (key ++ ':' :: '\n' :: listLines (item :: items))
      [(.ofWord key, .list (.ofWord item) (items.map .ofWord))] where
  begins tail := by
    rw [List.append_assoc]
    exact beginsLine_word word
  gives {l opened tail kinds} line fresh more := by
    rw [List.append_assoc] at line
    have entries (l' : Lexer) (behind : Behind l' ('\n' :: (listLines (item :: items) ++ tail))) :
        Gives l' (listKinds ((item :: items).map .ofWord) ++ kinds) := by
      apply gives_list words _ fresh more
      exact behind.line (beginsLine_listLines fresh)
    have tokens := gives_key line word near rfl entries
    rw [Outline.kinds_singleton]
    simpa [Branching.kinds, listKinds, Leaf.ofWord, Leaf.kind] using tokens
  short := by
    have entries := length_listKinds (item :: items)
    have kinds : (Branching.list (.ofWord item) (items.map .ofWord)).kinds =
        listKinds ((item :: items).map .ofWord) := rfl
    rw [Outline.kinds_singleton, kinds]
    simp only [List.length_cons, List.length_append]
    omega

/-! ### Documents -/

theorem atLine_ofText (begins : BeginsLine cs) : AtLine (Lexer.ofText cs) false cs where
  idle := ⟨rfl, rfl⟩
  begins := begins
  ahead := by
    refine ⟨Cursor.ofText cs, 0, ?_, rfl, rfl⟩
    exact toNextToken_stop (l := Lexer.ofText cs) begins.1

/-- The tokens of a document. -/
theorem gives_of_lays (lays : Lays cs es) :
    (Lexer.ofText cs).Gives (.blockMappingStart :: (es.kinds ++ [.blockEnd, .streamEnd])) := by
  have start : AtLine (Lexer.ofText cs) false (cs ++ []) := by
    rw [List.append_nil]
    exact atLine_ofText (by simpa using lays.begins [])
  exact lays.gives start beginsLine_end fun _ line => gives_end line

theorem isAllowed_of_isPrinted {c : Char} (printed : isPrinted c = true) : isAllowed c = true := by
  simp only [isPrinted, Bool.or_eq_true, beq_iff_eq, Bool.and_eq_true, decide_eq_true_eq] at printed
  rcases printed with rfl | ⟨least, most⟩
  · decide
  · have ascii : (decide (0x20 ≤ c.toNat) && decide (c.toNat ≤ 0x7E)) = true := by
      simp only [Bool.and_eq_true, decide_eq_true_eq]
      omega
    simp [isAllowed, ascii]

theorem ofText?_of_lays (lays : Lays cs es) :
    ∃ g mark pairs, Graph.ofText? none cs = .ok (some g) ∧
      g.nodes[g.root]? = some ⟨.map, .mapping pairs, mark⟩ ∧ es.At g.nodes pairs := by
  have enough : es.kinds.length + 1 < 8 * cs.length + 64 := by
    have short := lays.short
    omega
  let start : Builder := ⟨.ofText cs, #[], [], Build.commonHandles⟩
  obtain ⟨b, mark, pairs, built, here, at_⟩ :=
    Build.document_of_gives (b := start) (gives_of_lays lays) enough
  refine ⟨⟨b.nodes, 0⟩, mark, pairs, ?_, here, at_⟩
  simp only [Graph.ofText?, bind, Except.bind]
  rw [show Build.document none (8 * cs.length + 64) start = .ok (some 0, b) from built]
  rfl

/-- A document that prints is read as the mapping that its outline denotes. -/
theorem read_of_lays {entries : List (Datum × Datum)} (lays : Lays cs es) (printed : IsPrinted cs)
    (denotes : es.Denotes entries) :
    Yaml.read cs =
      .ok (.map (entries.foldl (fun es e => Datum.insertEntry e.1 e.2 es) [])) := by
  have allowed : cs.findIdx? (fun c => !isAllowed c) = none := by
    rw [List.findIdx?_eq_none_iff]
    intro c mem
    rw [isAllowed_of_isPrinted (printed c mem)]
    rfl
  obtain ⟨g, mark, pairs, graph, here, at_⟩ := ofText?_of_lays lays
  have value := value_of_graph here at_ denotes Room.ample
  simp only [Yaml.read, readWithin, allowed]
  change (Graph.ofText? none cs >>= _) = _
  simp only [graph, bind, Except.bind]
  exact value

end IndexScan.Yaml
