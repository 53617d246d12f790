import IndexScan.Proofs.Json.RoundTrip
import IndexScan.Proofs.Text.Ascii

/-!
The characters of written documents. A writer escapes all that does not print, so a plain document
is printed text (`written_printed`).
-/

namespace IndexScan

theorem isPrinted_digitChar : ∀ d < 16, isPrinted d.digitChar = true := by
  decide

theorem isPrinted_of_isDigit {c : Char} (digit : c.isDigit = true) : isPrinted c = true := by
  have code := Char.isDigit_iff_toNat.mp digit
  simp only [Char.reduceToNat] at code
  simp only [isPrinted, Bool.or_eq_true, Bool.and_eq_true, decide_eq_true_eq]
  omega

theorem Decimal.ofInt_printed (n : Int) : IsPrinted (ofInt n) := by
  intro c mem
  cases n with
  | ofNat n => exact isPrinted_of_isDigit ((ofNat_isDigits n).2 c mem)
  | negSucc n =>
    rcases List.mem_cons.mp mem with rfl | mem
    · decide
    · exact isPrinted_of_isDigit ((ofNat_isDigits (n + 1)).2 c mem)

namespace Json

/-! ### Quoted text -/

theorem unitEscape_printed {n : Nat} (small : n < 0x10000) : IsPrinted (unitEscape n) := by
  intro c mem
  rw [unitEscape, Decimal.hex_four small] at mem
  simp only [List.mem_cons, List.not_mem_nil, or_false] at mem
  rcases mem with rfl | rfl | rfl | rfl | rfl | rfl
  · decide
  · decide
  all_goals exact isPrinted_digitChar _ (by omega)

theorem quotedPoint_printed (c : Char) : IsPrinted (quotedPoint c.toNat) := by
  have valid := toNat_valid c
  unfold quotedPoint
  split_ifs with quote backslash feed carriage tab bell form printable
  · decide
  · decide
  · decide
  · decide
  · decide
  · decide
  · decide
  · intro d mem
    rw [Char.ofNat_toNat, List.mem_singleton] at mem
    subst mem
    simp only [isPrinted, Bool.or_eq_true, Bool.and_eq_true, decide_eq_true_eq]
    exact .inr printable
  · unfold pointEscape
    split_ifs with small
    · exact unitEscape_printed small
    · exact (unitEscape_printed (by omega)).append (unitEscape_printed (by omega))

/-- Text between quotes is printed, whatever it says. -/
theorem quoted_printed (s : String) : IsPrinted (quoted s) := by
  intro d mem
  simp only [quoted, List.cons_append, List.mem_cons, List.mem_append, List.mem_flatMap,
    List.not_mem_nil, or_false] at mem
  rcases mem with rfl | ⟨c, _, mem⟩ | rfl
  · decide
  · exact quotedPoint_printed c d mem
  · decide

/-! ### Documents -/

theorem IsSpacing.printed {cs : List Char} (spacing : IsSpacing cs) : IsPrinted cs := by
  intro c mem
  rcases spacing c mem with rfl | rfl <;> decide

/-- Text written behind other text is printed if both are. -/
theorem Written.append_printed {a b : Written} (left : IsPrinted a.text)
    (right : IsPrinted b.text) : IsPrinted (a ++ b).text := by
  show IsPrinted (append a b).text
  unfold append
  split_ifs
  · exact left.append right
  · exact left

section

variable {limit : Option Nat} {l : Layout} {limited : Bool}

theorem Layout.Spaced.betweenItems_printed (spaced : l.Spaced) : IsPrinted l.betweenItems := by
  obtain ⟨gap, between, spacing⟩ := spaced.betweenItems
  have comma : IsPrinted [','] := by decide
  rw [between]
  exact comma.append spacing.printed

theorem Layout.Spaced.afterKey_printed (spaced : l.Spaced) : IsPrinted l.afterKey := by
  obtain ⟨gap, key, spacing⟩ := spaced.afterKey
  have colon : IsPrinted [':'] := by decide
  rw [key]
  exact colon.append spacing.printed

theorem Layout.Spaced.newline_printed (spaced : l.Spaced) (level : Nat) :
    IsPrinted (l.newline level) :=
  (spaced.newline level).printed

mutual

/-- A plain document is printed text. -/
theorem written_printed (spaced : l.Spaced) : ∀ (x : Json) (level : Nat), isPlain limit x = true →
    IsPrinted (written l limited level x).text
  | null, _, _ => (by decide : IsPrinted "null".toList)
  | bool true, _, _ => (by decide : IsPrinted "true".toList)
  | bool false, _, _ => (by decide : IsPrinted "false".toList)
  | int n, _, _ => by
    rw [written, writtenInt]
    split_ifs
    · exact fun c mem => absurd mem (List.not_mem_nil)
    · exact Decimal.ofInt_printed n
  | float _, _, plain => by simp [isPlain] at plain
  | str s, _, _ => quoted_printed s
  | brokenText _, _, plain => by simp [isPlain] at plain
  | arr [], _, _ => by rw [written]; decide
  | arr (x :: xs), level, plain => by
    simp only [isPlain, arePlain, Bool.and_eq_true] at plain
    have bracket : IsPrinted ['['] := by decide
    rw [written]
    refine Written.append_printed (Written.append_printed ?_ ?_) ?_
    · exact bracket.append (spaced.newline_printed _)
    · exact written_printed spaced x _ plain.1
    · exact writtenItems_printed spaced xs _ plain.2
  | obj [], _, _ => by rw [written]; decide
  | obj ((k, x) :: ms), level, plain => by
    simp only [isPlain, membersArePlain, Bool.and_eq_true] at plain
    have brace : IsPrinted ['\x7b'] := by decide
    rw [written]
    refine Written.append_printed (Written.append_printed ?_ ?_) ?_
    · exact ((brace.append (spaced.newline_printed _)).append (quoted_printed k)).append
        spaced.afterKey_printed
    · exact written_printed spaced x _ plain.2.1
    · exact writtenMembers_printed spaced ms _ plain.2.2

theorem writtenItems_printed (spaced : l.Spaced) : ∀ (xs : List Json) (level : Nat),
    arePlain limit xs = true → IsPrinted (writtenItems l limited level xs).text
  | [], level, _ => by
    have bracket : IsPrinted [']'] := by decide
    rw [writtenItems]
    exact (spaced.newline_printed level).append bracket
  | x :: xs, level, plain => by
    simp only [arePlain, Bool.and_eq_true] at plain
    rw [writtenItems]
    refine Written.append_printed (Written.append_printed ?_ ?_) ?_
    · exact spaced.betweenItems_printed.append (spaced.newline_printed _)
    · exact written_printed spaced x _ plain.1
    · exact writtenItems_printed spaced xs _ plain.2

theorem writtenMembers_printed (spaced : l.Spaced) : ∀ (ms : List (String × Json)) (level : Nat),
    membersArePlain limit ms = true → IsPrinted (writtenMembers l limited level ms).text
  | [], level, _ => by
    have brace : IsPrinted ['\x7d'] := by decide
    rw [writtenMembers]
    exact (spaced.newline_printed level).append brace
  | (k, x) :: ms, level, plain => by
    simp only [membersArePlain, Bool.and_eq_true] at plain
    rw [writtenMembers]
    refine Written.append_printed (Written.append_printed ?_ ?_) ?_
    · exact ((spaced.betweenItems_printed.append (spaced.newline_printed _)).append
        (quoted_printed k)).append spaced.afterKey_printed
    · exact written_printed spaced x _ plain.1
    · exact writtenMembers_printed spaced ms _ plain.2

end

end

end Json
end IndexScan
