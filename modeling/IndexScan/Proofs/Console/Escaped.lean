import IndexScan.Proofs.Console.Tagged

/-!
Escaped text. Whatever a message says, its escaped form can be printed behind any harmless text
(`safe_escape`): a bracket that begins a tag gets an odd number of backslashes in front, and no
bracket begins a tag that began none before (`tag?_of_escaped`).
-/

namespace IndexScan.Console

namespace Markup

variable {cs xs rest content body : List Char} {c : Char} {opened : List (List Char)}

/-- The content of a tag and what follows it are escaped apart. -/
theorem escapeTags_append (xs rest : List Char) :
    escapeTags xs.length 0 (xs ++ rest) = xs ++ escapeTags 0 0 rest := by
  induction xs with
  | nil => rfl
  | cons c xs ih => simp only [List.length_cons, List.cons_append, escapeTags, ih]

theorem escapeTags_backslash (slashes : Nat) (cs : List Char) :
    escapeTags 0 slashes ('\\' :: cs) = '\\' :: escapeTags 0 (slashes + 1) cs := by
  rw [escapeTags, if_pos rfl]

theorem escapeTags_tag (tag : tag? cs = some content) (slashes : Nat) :
    escapeTags 0 slashes ('[' :: cs) =
      List.replicate (slashes + 1) '\\' ++ '[' :: escapeTags (content.length + 1) 0 cs := by
  rw [escapeTags, if_neg (by decide), if_pos rfl, tag]

theorem escapeTags_plainBracket (none : tag? cs = none) (slashes : Nat) :
    escapeTags 0 slashes ('[' :: cs) = '[' :: escapeTags 0 0 cs := by
  rw [escapeTags, if_neg (by decide), if_pos rfl, none]

theorem escapeTags_ordinary (backslash : c ≠ '\\') (bracket : c ≠ '[') (slashes : Nat) :
    escapeTags 0 slashes (c :: cs) = c :: escapeTags 0 0 cs := by
  rw [escapeTags, if_neg backslash, if_neg bracket]

/-! ### The tags of escaped text -/

/-- What may stand behind escaped text: characters that are no brackets. -/
def Quiet (cs : List Char) : Prop :=
  ∀ c ∈ cs, c ≠ ']' ∧ c ≠ '['

/-- A tag keeps its content. -/
theorem tag?_escapeTags (tag : tag? cs = some content) (tail : List Char) :
    tag? (escapeTags (content.length + 1) 0 cs ++ tail) = some content := by
  obtain ⟨rest, rfl⟩ := tag?_eq_append tag
  have apart : escapeTags (content.length + 1) 0 (content ++ ']' :: rest) =
      content ++ ']' :: escapeTags 0 0 rest := by
    have passed := escapeTags_append (content ++ [']']) rest
    simpa using passed
  rw [apart, List.append_assoc]
  exact tag?_append tag _

/-- Text without brackets ends in front of the first bracket, not behind it. -/
theorem quiet_backslashes (quiet : Quiet body) (n : Nat) :
    List.replicate n '\\' ++ '[' :: xs ≠ body ++ ']' :: rest := by
  intro same
  have first : (List.replicate n '\\' ++ '[' :: xs).find? (fun d => d == ']' || d == '[') =
      some '[' := by
    simp [List.find?_append]
  have other : (body ++ ']' :: rest).find? (fun d => d == ']' || d == '[') = some ']' := by
    have none : body.find? (fun d => d == ']' || d == '[') = none := by
      simpa [List.find?_eq_none, Quiet] using quiet
    simp [List.find?_append, none]
  rw [same, other] at first
  cases first

/-- Where escaped text goes on without brackets to a closing one, so does the text itself. -/
theorem append_of_escaped {tail : List Char} (ends : Quiet tail) (quiet : Quiet body)
    (slashes : Nat) (escaped : escapeTags 0 slashes cs ++ tail = body ++ ']' :: rest) :
    ∃ others, cs = body ++ ']' :: others := by
  induction cs generalizing body slashes with
  | nil =>
    have closes : ']' ∈ tail := by
      rw [escapeTags, List.nil_append] at escaped
      simp [escaped]
    exact absurd rfl (ends _ closes).1
  | cons c cs ih =>
    -- Every character but a bracket of a tag is kept, and leaves the same for those behind it.
    have keep (more : Nat) (eq : escapeTags 0 slashes (c :: cs) = c :: escapeTags 0 more cs) :
        ∃ others, c :: cs = body ++ ']' :: others := by
      rw [eq, List.cons_append] at escaped
      rcases List.cons_eq_append_iff.mp escaped with ⟨rfl, closing⟩ | ⟨body, rfl, later⟩
      · exact ⟨cs, by rw [List.nil_append, (List.cons.inj closing).1]⟩
      · obtain ⟨others, rfl⟩ := ih (fun d mem => quiet d (List.mem_cons_of_mem _ mem)) more later
        exact ⟨others, rfl⟩
    by_cases backslash : c = '\\'
    · subst backslash
      exact keep (slashes + 1) (escapeTags_backslash slashes cs)
    by_cases bracket : c = '['
    · subst bracket
      cases tag : tag? cs with
      | none => exact keep 0 (escapeTags_plainBracket tag slashes)
      | some content =>
        rw [escapeTags_tag tag, List.append_assoc] at escaped
        exact absurd escaped (quiet_backslashes quiet _)
    · exact keep 0 (escapeTags_ordinary backslash bracket slashes)

/-- A bracket that begins no tag begins none in escaped text. -/
theorem tag?_of_escaped {tail : List Char} (ends : Quiet tail) (plain : tag? cs = none) :
    tag? (escapeTags 0 0 cs ++ tail) = none := by
  by_contra found
  obtain ⟨content, tag⟩ := Option.ne_none_iff_exists'.mp found
  obtain ⟨c, body, rest, rfl, escaped, begins, quiet⟩ := tag?_eq_some_iff.mp tag
  have first : c ≠ ']' ∧ c ≠ '[' := by
    constructor <;> rintro rfl <;> exact absurd begins (by decide)
  have whole : Quiet (c :: body) := List.forall_mem_cons.mpr ⟨first, quiet⟩
  obtain ⟨others, same⟩ := append_of_escaped ends whole 0 escaped
  have before : tag? cs = some (c :: body) :=
    tag?_eq_some_iff.mpr ⟨c, body, others, rfl, same, begins, quiet⟩
  rw [plain] at before
  cases before

/-! ### Taking escaped text apart -/

/-- Backslashes are counted. -/
theorem pieces_backslashes (n position slashes : Nat) (plain cs : List Char) :
    pieces position 0 slashes plain (List.replicate n '\\' ++ cs) =
      pieces (position + n) 0 (slashes + n) plain cs := by
  induction n generalizing position slashes with
  | zero => rfl
  | succ n ih =>
    rw [List.replicate_succ, List.cons_append, pieces_backslash, ih]
    congr 1 <;> omega

end Markup

end IndexScan.Console
