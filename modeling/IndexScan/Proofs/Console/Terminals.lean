import IndexScan.Console.Terminal
import IndexScan.Proofs.Console.Exact

/-!
Printing on terminals. Items are printed to the last exactly if the terminal takes each of them
(`printAll_eq_none_iff`), and what it takes is printed as one text (`printAll_append`). A terminal
that takes everything prints a line if its markup is in order (`ample_print_marked`). Harmless lines
and tables are taken by every terminal that has a size and every character (`Willing.takes_marked`,
`Willing.takes_table`), for nothing in them is evaluated; on any other terminal it depends on the
text that is to be written.
-/

namespace IndexScan.Console

/-! ### Parameters -/

namespace Markup

variable {evaluate : List Char → Option String} {opened : List (List Char × List Char)}
  {ps : List Piece}

/-- Evaluating nothing is nothing to complain of: without parameters at hand or to come, there is no
complaint. By induction on the pieces; parameters are never added to the open tags. -/
theorem complaint?_of_bare (bare : ∀ p ∈ ps, p.IsBare) (free : ∀ tag ∈ opened, tag.2 = []) :
    complaint? evaluate opened ps = none := by
  induction ps generalizing opened with
  | nil => rfl
  | cons p ps ih =>
    obtain ⟨first, others⟩ := List.forall_mem_cons.mp bare
    cases p with
    | text cs => exact ih others free
    | tag position name parameters =>
      obtain rfl : parameters = none := first
      unfold complaint?
      split
      · dsimp only
        split
        · rfl
        · rename_i tag found
          have mem : tag ∈ opened := by
            split_ifs at found
            · exact List.mem_of_mem_head? found
            · split at found
              · cases found
              · exact List.mem_of_find?_eq_some found
          rw [complaintOf?, free tag mem, if_neg (by simp), Option.none_or]
          exact ih others fun other inside => free other (List.mem_of_mem_erase inside)
      · split
        · rfl
        · exact ih others (List.forall_mem_cons.mpr ⟨rfl, free⟩)

/-- Whoever complains of nothing has no complaint. -/
theorem complaint?_of_content (ps : List Piece) (opened : List (List Char × List Char)) :
    complaint? (fun _ => none) opened ps = none := by
  induction ps generalizing opened with
  | nil => rfl
  | cons p ps ih =>
    cases p with
    | text cs => exact ih opened
    | tag position name parameters =>
      unfold complaint?
      split
      · dsimp only
        split
        · rfl
        · rw [ih, complaintOf?, ite_self, Option.none_or]
      · split
        · rfl
        · exact ih _

end Markup

namespace Terminal

variable {t : Terminal} {item : Item} {items front back : List Item} {markup : String}

/-! ### Items in turn -/

/-- A terminal takes an item if it prints it. -/
def Takes (t : Terminal) (item : Item) : Prop :=
  ∃ text, t.print item = .ok text

/-- Items are printed to the last exactly if each of them is taken. -/
theorem printAll_eq_none_iff : (t.printAll items).2 = none ↔ ∀ item ∈ items, t.Takes item := by
  induction items with
  | nil => simp [printAll]
  | cons item rest ih =>
    rw [List.forall_mem_cons, ← ih, printAll, Takes]
    cases t.print item with
    | error fault => simp
    | ok text => simp

/-- Behind items that are taken, printing goes on. -/
theorem printAll_append (taken : (t.printAll front).2 = none) :
    t.printAll (front ++ back) =
      ((t.printAll front).1 ++ (t.printAll back).1, (t.printAll back).2) := by
  induction front with
  | nil => simp [printAll]
  | cons item rest ih =>
    rw [List.cons_append, printAll, printAll] at *
    cases printed : t.print item with
    | error fault => rw [printed] at taken; cases taken
    | ok text =>
      rw [printed] at taken
      dsimp only at taken ⊢
      rw [ih taken, String.append_assoc]

theorem printAll_plain (text : String) : t.printAll [.plain text] = (text, none) := by
  simp [printAll, print]

/-! ### A terminal that takes everything -/

theorem ample_evaluate (markup : String) : ample.evaluate markup = .ok () := by
  rw [evaluate]
  simp [ample, Markup.complaint?_of_content]

theorem ample_print_marked (markup : String) :
    ample.print (.marked markup) = (Console.print markup).mapError .markup := by
  rw [print, ample_evaluate]
  cases Console.print markup <;> rfl

/-- Lines that are printed one by one are printed together. -/
theorem printAll_of_forall₂ {lines shows : List String} (prints : List.Forall₂ Prints lines shows) :
    ample.printAll (lines.map .marked) = (String.join (shows.map (· ++ "\n")), none) := by
  induction prints with
  | nil => rfl
  | cons first _ ih =>
    rw [Prints] at first
    rw [List.map_cons, printAll, ample_print_marked, first, ih, List.map_cons, String.join_cons]
    rfl

/-! ### Terminals with a size and every character -/

/-- A terminal that has a size and every character. -/
structure Willing (t : Terminal) : Prop where
  size : t.sizeless? = none
  characters : ∀ text, t.unencodable? text = none

theorem ample_willing : ample.Willing := ⟨rfl, fun _ => rfl⟩

theorem Willing.measure (willing : t.Willing) : t.measure = .ok () := by
  rw [Terminal.measure, willing.size]

theorem Willing.encode (willing : t.Willing) (text : String) : t.encode text = .ok text := by
  rw [Terminal.encode, willing.characters]

/-- Harmless text is read without anything being evaluated. -/
theorem evaluate_of_safe (safe : Markup.Safe markup.toList) : t.evaluate markup = .ok () := by
  have quiet : Markup.complaint? t.complaint? [] (Markup.pieces 0 0 0 [] markup.toList) = none :=
    Markup.complaint?_of_bare (safe 0 [] []).bare (List.forall_mem_nil _)
  rw [evaluate, quiet]

/-- A willing terminal prints a line if its parameters and its markup are in order. -/
theorem Willing.print_marked (willing : t.Willing) (markup : String) :
    t.print (.marked markup) =
      (t.evaluate markup).bind fun _ => (Console.print markup).mapError .markup := by
  rw [print]
  cases t.evaluate markup with
  | error fault => rfl
  | ok _ =>
    cases Console.print markup with
    | error fault => rfl
    | ok text =>
      show (do t.measure; t.encode text) = _
      rw [willing.measure, willing.encode]
      rfl

theorem Willing.takes_marked (willing : t.Willing) (safe : Markup.Safe markup.toList) :
    t.Takes (.marked markup) := by
  obtain ⟨text, printed⟩ := print_of_safe safe
  exact ⟨text, by rw [willing.print_marked, evaluate_of_safe safe, printed]; rfl⟩

end Terminal

end IndexScan.Console
