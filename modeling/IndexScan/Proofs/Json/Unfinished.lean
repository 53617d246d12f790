import IndexScan.Proofs.Json.RoundTrip

/-!
Texts that break off. A text that ends where a value should begin holds no document
(`unreadable_nil`), and neither does an object of which a member is such a text, whatever members
stand in front of it (`unreadable_obj`, `unreadable_member`, `unreadable_later`). None of this
depends on the fuel of the reader: more of it does not help.
-/

namespace IndexScan.Json

/-! ### Writing -/

namespace Written

/-- Text that ends early. -/
def cut (cs : List Char) : Written := ⟨cs, false⟩

theorem of_append_of (a b : List Char) : of a ++ of b = of (a ++ b) := rfl

theorem of_append_cut (a b : List Char) : of a ++ cut b = cut (a ++ b) := rfl

theorem of_append_broken (a : List Char) : of a ++ broken = cut a :=
  congrArg cut (List.append_nil a)

theorem cut_append (a : List Char) (w : Written) : cut a ++ w = cut a := rfl

end Written

/-! ### Reading -/

variable {limit : Option Nat} {cs rest more colon : List Char} {key : String} {x : Json}

/-- A reading that stops, however much fuel it has. -/
def Unreadable {α : Type} (reading : Nat → Except Stop α) : Prop :=
  ∀ fuel, ∃ stop, reading fuel = .error stop

theorem unreadable_nil : Unreadable (value limit none · []) := by
  intro fuel
  cases fuel with
  | zero => exact ⟨_, rfl⟩
  | succ fuel => exact ⟨_, rfl⟩

/-- A text between quotes is read back as itself, whatever follows it. -/
theorem value_quoted (s : String) {fuel : Nat} :
    value limit none (fuel + 1) (quoted s ++ rest) = .ok (.str s, rest) := by
  rw [quoted, List.cons_append, List.cons_append, List.append_assoc, value]
  exact text_quoted s rest

/-- An object with unreadable members is unreadable. -/
theorem unreadable_obj (name : skipGap cs = '"' :: rest)
    (inside : Unreadable (members limit none · ('"' :: rest))) :
    Unreadable (value limit none · ('\x7b' :: cs)) := by
  intro fuel
  cases fuel with
  | zero => exact ⟨_, rfl⟩
  | succ fuel =>
    obtain ⟨stop, stopped⟩ := inside fuel
    dsimp only at stopped ⊢
    exact ⟨stop, by rw [value_obj rfl name, stopped]; rfl⟩

/-- Members of which the first has an unreadable value are unreadable. -/
theorem unreadable_member (name : memberName cs = .ok (key, colon))
    (item : Unreadable (value limit none · (skipGap colon))) :
    Unreadable (members limit none · cs) := by
  intro fuel
  cases fuel with
  | zero => exact ⟨_, rfl⟩
  | succ fuel =>
    obtain ⟨stop, stopped⟩ := item fuel
    dsimp only at stopped ⊢
    exact ⟨stop, by simp only [members, name, stopped, bind, Except.bind]⟩

/-- Members are unreadable if those behind the first one are. -/
theorem unreadable_later (name : memberName cs = .ok (key, colon))
    (item : ∀ fuel, value limit none (fuel + 1) (skipGap colon) = .ok (x, rest))
    (comma : skipGap rest = ',' :: more) (later : Unreadable (members limit none · (skipGap more))) :
    Unreadable (members limit none · cs) := by
  intro fuel
  cases fuel with
  | zero => exact ⟨_, rfl⟩
  | succ fuel =>
    obtain ⟨stop, stopped⟩ := later fuel
    dsimp only at stopped ⊢
    -- Without fuel for the first value reading stops there already.
    cases fuel with
    | zero => exact ⟨_, by simp only [members, name, value, bind, Except.bind]; rfl⟩
    | succ fuel =>
      have first := item fuel
      generalize fuel + 1 = enough at first stopped
      exact ⟨stop, by simp only [members, name, first, comma, stopped, bind, Except.bind]⟩

/-- A text that begins with an unreadable value holds no document. -/
theorem read_of_unreadable (unreadable : Unreadable (value limit none · (skipGap cs))) (x : Json) :
    read limit cs ≠ .ok x := by
  intro found
  obtain ⟨stop, stopped⟩ := unreadable (2 * cs.length + 1)
  dsimp only at stopped
  have refused : ∃ stop, document limit none cs = .error stop := by
    unfold document
    split_ifs
    · exact ⟨_, rfl⟩
    · exact ⟨stop, by simp only [stopped, bind, Except.bind]⟩
  obtain ⟨stop, refused⟩ := refused
  rw [read, readWithin, refused] at found
  cases found

end IndexScan.Json
