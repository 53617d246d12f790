import IndexScan.Proofs.Profile.Loading
import IndexScan.Proofs.Yaml.Layout
import Mathlib.Data.Set.List
import Mathlib.Tactic.Lift

/-!
Saved profiles. The document of a profile is read back as the same profile (`load_document`), whatever
its name and its description hold: its lines lay out an outline (`lays_document`), so the document
describes the mapping that the outline denotes (`read_document`), and that mapping gives the profile
(`ofEntries_entries`).
-/

namespace IndexScan.Profile

open Yaml Lexer

variable {p : Profile}

/-! ### The entries of a profile -/

/-- A profile as a mapping; a description that is missing is left out. -/
def entries (p : Profile) : List (Datum × Datum) :=
  [(.str Field.name.key, .str p.name), (.str Field.mode.key, .str p.mode),
    (.str Field.branches.key, .list (p.branches.map .int))] ++
    (p.description?.map fun text => (Datum.str Field.description.key, Datum.str text)).toList

theorem integersFrom_int (index : Nat) (branches : List Int) :
    integersFrom index (branches.map .int) = .ok branches := by
  induction branches generalizing index with
  | nil => rfl
  | cons b branches ih =>
    rw [List.map_cons, integersFrom, ih]
    rfl

/-- The entries of a valid profile give the profile. -/
theorem ofEntries_entries (directive : ∃ mode, p.resolverMode = .ok mode)
    (admitted : Branch.all p.branches = .ok p.branches) : ofEntries p.entries = .ok p := by
  obtain ⟨mode, parsed⟩ := directive
  have name : Datum.lookup? Field.name.key p.entries = some (.str p.name) := rfl
  have mode_ : Datum.lookup? Field.mode.key p.entries = some (.str p.mode) := rfl
  have branches : Datum.lookup? Field.branches.key p.entries =
      some (.list (p.branches.map .int)) := rfl
  have description : Datum.lookup? Field.description.key p.entries = p.description?.map .str := by
    cases p with
    | mk name mode branches description? => cases description? <;> rfl
  have readMode : modeOf (.str p.mode) = .ok p.mode := by
    simp only [modeOf, textOf, bind, Except.bind]
    rw [show Directive.parse p.mode = .ok mode from parsed]
    rfl
  have readBranches : branchesOf (.list (p.branches.map .int)) = .ok p.branches := by
    simp only [branchesOf, itemsOf?, integersFrom_int, bind, Except.bind, admitted]
    rfl
  simp only [ofEntries, name, mode_, branches, description, Option.map_some, Option.getD_some,
    readMode, readBranches]
  cases p with
  | mk name mode branches description? => cases description? <;> rfl

theorem key_injective {f g : Field} (same : f.key = g.key) : f = g := by
  cases f <;> cases g <;> first | rfl | exact absurd same (by decide)

/-- All keys are different, so that no entry replaces another. -/
theorem foldl_insertEntry (p : Profile) :
    p.entries.foldl (fun es e => Datum.insertEntry e.1 e.2 es) [] = p.entries := by
  cases p with
  | mk name mode branches description? =>
    have apart (f g : Field) (other : f ≠ g) : Datum.same (.str f.key) (.str g.key) = false := by
      rw [Datum.same, beq_eq_false_iff_ne]
      exact fun same => other (key_injective same)
    cases description? <;> simp [entries, Datum.insertEntry, apart]

/-! ### The outline of a profile -/

/-- Admitted branches as natural numbers, the first of them apart. -/
theorem exists_naturals {branches : List Int} (admitted : Branch.all branches = .ok branches) :
    ∃ (first : Nat) (more : List Nat), branches = (first :: more).map Int.ofNat ∧
      ∀ n ∈ first :: more, n < hardenedBoundary := by
  obtain ⟨-, nonempty, small⟩ := branches_of_all admitted
  have natural : ∀ b ∈ branches, 0 ≤ b := by
    intro b mem
    obtain ⟨n, rfl, -⟩ := small b mem
    exact Int.natCast_nonneg n
  lift branches to List Nat using natural
  cases branches with
  | nil => exact absurd rfl nonempty
  | cons first more =>
    refine ⟨first, more, rfl, fun n mem => ?_⟩
    obtain ⟨m, same, less⟩ := small n (List.mem_map_of_mem mem)
    rwa [Int.ofNat_inj.mp same]

/-- An index is written with few digits. -/
theorem length_ofNat_le {n : Nat} (small : n < hardenedBoundary) :
    (Decimal.ofNat n).length ≤ Decimal.limit := by
  have few : (Decimal.ofNat n).length ≤ 10 := by
    rw [Decimal.ofNat, Nat.length_toDigits_le_iff (by decide) (by decide)]
    exact Nat.lt_of_lt_of_le small (by decide)
  exact Nat.le_trans few (by decide)

/-- The key of a part in an outline. -/
def keyOf (field : Field) : Leaf :=
  .ofWord field.key.toList

/-- A part that is a text in an outline. -/
def textEntry (field : Field) (text : String) : Leaf × Branching :=
  (keyOf field, .leaf (.ofText text.toList))

/-- The branches in an outline. -/
def branchesEntry (first : Nat) (more : List Nat) : Leaf × Branching :=
  (keyOf .branches, .list (.ofWord (Decimal.ofNat first))
    ((more.map Decimal.ofNat).map .ofWord))

/-- The outline of a profile with the given branches. -/
def outline (p : Profile) (first : Nat) (more : List Nat) : Outline :=
  [textEntry .name p.name] ++ [textEntry .mode p.mode] ++ [branchesEntry first more] ++
    (p.description?.map (textEntry .description)).toList

/-! ### The lines of its document -/

theorem isWord_key (field : Field) : IsWord field.key.toList := by
  cases field <;> exact ⟨by decide, List.all_eq_true.mp (by decide)⟩

theorem isWord_ofNat (n : Nat) : IsWord (Decimal.ofNat n) := by
  obtain ⟨nonempty, digits⟩ := Decimal.ofNat_isDigits n
  refine ⟨nonempty, fun c mem => ?_⟩
  rw [Char.isAlphanum, digits c mem, Bool.or_true]

theorem length_key_le (field : Field) : field.key.toList.length ≤ keyReach := by
  cases field <;> decide

theorem lays_textLine (field : Field) (text : String) :
    Lays (textLine field text) [textEntry field text] := by
  have lays := lays_text (isWord_key field) (length_key_le field)
    (field.key ++ ": ").toList.length text.toList
  simpa [textLine, textEntry, keyOf] using lays

theorem lays_branchLines (first : Nat) (more : List Nat) :
    Lays (branchLines ((first :: more).map Int.ofNat)) [branchesEntry first more] := by
  have words : ∀ cs ∈ (first :: more).map Decimal.ofNat, IsWord cs := by
    intro cs mem
    obtain ⟨n, -, rfl⟩ := List.mem_map.mp mem
    exact isWord_ofNat n
  have lays := lays_list (isWord_key .branches) (length_key_le .branches) words
  have lines : branchLines ((first :: more).map Int.ofNat) =
      Field.branches.key.toList ++ ':' :: '\n' :: listLines ((first :: more).map Decimal.ofNat) := by
    simp [branchLines, listLines, List.flatMap_map, Decimal.ofInt]
  rw [lines]
  exact lays

/-- The document of a profile lays out its outline. -/
theorem lays_document {first : Nat} {more : List Nat}
    (branches : p.branches = (first :: more).map Int.ofNat) :
    Lays p.document (p.outline first more) := by
  have lays := ((lays_textLine .name p.name).append (lays_textLine .mode p.mode)).append
    (lays_branchLines first more)
  rw [document, outline, branches]
  cases p.description? with
  | none => simpa using lays
  | some text => exact lays.append (lays_textLine .description text)

/-! ### What the document describes -/

theorem keyOf_denotes (field : Field) : (keyOf field).Denotes (.str field.key) := by
  have typed : Tag.ofPlain (pointsOf field.key.toList) = .str := by
    cases field <;> decide
  simpa [keyOf] using Leaf.ofWord_denotes typed

theorem textEntry_denotes (field : Field) (text : String) :
    (textEntry field text).1.Denotes (.str field.key) ∧
      (textEntry field text).2.Denotes (.str text) := by
  refine ⟨keyOf_denotes field, ?_⟩
  have denotes := Leaf.ofText_denotes text.toList
  rwa [String.ofList_toList] at denotes

theorem numbers_denote {ns : List Nat} (small : ∀ n ∈ ns, n < hardenedBoundary) :
    List.Forall₂ Leaf.Denotes ((ns.map Decimal.ofNat).map .ofWord) ((ns.map Int.ofNat).map .int) := by
  rw [List.map_map, List.map_map, List.forall₂_map_left_iff, List.forall₂_map_right_iff,
    List.forall₂_same]
  intro n mem
  exact Leaf.ofNat_denotes (length_ofNat_le (small n mem))

/-- The outline of a profile denotes its entries. -/
theorem outline_denotes {first : Nat} {more : List Nat}
    (branches : p.branches = (first :: more).map Int.ofNat)
    (small : ∀ n ∈ first :: more, n < hardenedBoundary) :
    (p.outline first more).Denotes p.entries := by
  have list : (branchesEntry first more).2.Denotes (.list (p.branches.map .int)) := by
    rw [branches]
    exact ⟨_, numbers_denote small, rfl⟩
  have parts : List.Forall₂ (fun e d => e.1.Denotes d.1 ∧ e.2.Denotes d.2)
      ([textEntry .name p.name] ++ [textEntry .mode p.mode] ++ [branchesEntry first more])
      [(.str Field.name.key, .str p.name), (.str Field.mode.key, .str p.mode),
        (.str Field.branches.key, .list (p.branches.map .int))] :=
    .cons (textEntry_denotes .name p.name) (.cons (textEntry_denotes .mode p.mode)
      (.cons ⟨keyOf_denotes .branches, list⟩ .nil))
  apply List.rel_append parts
  cases p.description? with
  | none => exact .nil
  | some text => exact .cons (textEntry_denotes .description text) .nil

theorem textLine_printed (field : Field) (text : String) : IsPrinted (textLine field text) := by
  have label : IsPrinted (field.key ++ ": ").toList := by cases field <;> decide
  have scalar := Writer.scalar_printed (field.key ++ ": ").toList.length text.toList
  exact (label.append scalar).append (by decide)

theorem branchLines_printed (branches : List Int) : IsPrinted (branchLines branches) := by
  have label : IsPrinted (Field.branches.key ++ ":").toList := by decide
  rw [branchLines]
  split_ifs
  · exact label.append (by decide)
  · apply label.append
    apply IsPrinted.cons (by decide)
    intro c mem
    obtain ⟨b, -, mem⟩ := List.mem_flatMap.mp mem
    have line : IsPrinted ('-' :: ' ' :: Decimal.ofInt b ++ ['\n']) :=
      IsPrinted.append (IsPrinted.cons (by decide)
        (IsPrinted.cons (by decide) (Decimal.ofInt_printed b))) (by decide)
    exact line c mem

theorem document_printed (p : Profile) : IsPrinted p.document := by
  have parts := ((textLine_printed .name p.name).append (textLine_printed .mode p.mode)).append
    (branchLines_printed p.branches)
  rw [document]
  cases p.description? with
  | none => exact parts.append IsPrinted.nil
  | some text => exact parts.append (textLine_printed .description text)

/-- The document of a profile with admitted branches is read as its entries. -/
theorem read_document (admitted : Branch.all p.branches = .ok p.branches) :
    Yaml.read p.document = .ok (.map p.entries) := by
  obtain ⟨first, more, branches, small⟩ := exists_naturals admitted
  rw [read_of_lays (lays_document branches) (document_printed p) (outline_denotes branches small),
    foldl_insertEntry]

/-! ### Saving and loading -/

/-- Whatever data a profile was made from, its document is loaded as the same profile. -/
theorem load_document {d : Datum} (read : ofDatum d = .ok p) (path : String) :
    load path (.ofText p.document) = .ok p := by
  cases d with
  | map entries =>
    have admitted := all_of_entries read
    have same := ofEntries_entries (resolverMode_of_entries read) admitted
    have printed := document_printed p
    have decoded := Utf8.decode_encode printed
    have unified := Lines.unify_of_isPrinted printed
    have described : Yaml.readWithin .ample p.document = .ok (.map p.entries) :=
      read_document admitted
    simp only [load, loadWithin, FileState.ofText, FileState.bytes?, decoded, bind, Except.bind,
      Except.mapError, unified, ofDocument, described, same]
  | _ => cases read

/-- The texts of this profile look like other values and need escapes; its directive is the one for
profiles that give none. -/
theorem load_document_of_texts :
    ofDatum (.map [(.str "name", .str "yes"), (.str "branches", .tuple [.str "007", .bool true]),
      (.str "description", .str "- x: 1:30\n# é\t")]) =
        .ok ⟨"yes", "first20", [7, 1], some "- x: 1:30\n# é\t"⟩ ∧
      load "wallet.yaml" (.ofText (document ⟨"yes", "first20", [7, 1], some "- x: 1:30\n# é\t"⟩)) =
        .ok ⟨"yes", "first20", [7, 1], some "- x: 1:30\n# é\t"⟩ := by
  have read : ofDatum (.map [(.str "name", .str "yes"),
      (.str "branches", .tuple [.str "007", .bool true]),
      (.str "description", .str "- x: 1:30\n# é\t")]) =
        .ok ⟨"yes", "first20", [7, 1], some "- x: 1:30\n# é\t"⟩ := by
    rfl
  exact ⟨read, load_document read "wallet.yaml"⟩

end IndexScan.Profile
