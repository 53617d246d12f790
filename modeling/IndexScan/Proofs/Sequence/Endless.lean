import IndexScan.Proofs.Sequence.Draws

/-!
Sources that do not run out. A source is endless if it gives a word whatever was drawn before; seeded
sources are (`endless_seeded`), and so is the entropy of the system (`endless_entropy`). No sequence
fails on such a source (`take_of_endless`).
-/

namespace IndexScan

namespace Source

/-- A source that always has another word to give. -/
def Endless (s : Source) : Prop :=
  ∀ vs t, s.Yields vs t → ∃ word u, t.drawWord = (.ok word, u)

variable {s t : Source}

theorem Endless.drawWord (endless : s.Endless) : ∃ word t, s.drawWord = (.ok word, t) :=
  endless [] s .nil

theorem Endless.after {word : Nat} (endless : s.Endless) (drawn : s.drawWord = (.ok word, t)) :
    t.Endless := fun _ u later =>
  endless _ u (.cons (draw?_of_drawWord_ok drawn).2 later)

/-- A class of sources that give a word and stay in the class is endless. -/
theorem endless_of_class {P : Source → Prop}
    (step : ∀ s, P s → ∃ word t, s.drawWord = (.ok word, t) ∧ P t) (inside : P s) : s.Endless := by
  intro vs t yields
  induction yields with
  | nil =>
    obtain ⟨word, u, drawn, _⟩ := step _ inside
    exact ⟨word, u, drawn⟩
  | cons draw _ ih =>
    obtain ⟨word, u, drawn, kept⟩ := step _ inside
    obtain ⟨_, same⟩ := Prod.mk.inj (Option.some.inj (draw.symm.trans
      (draw?_of_drawWord_ok drawn).2))
    exact ih (same ▸ kept)

theorem drawWord_word {word : UInt32} (draw : s.draw? = some ((word.toNat : Int), t)) :
    s.drawWord = (.ok word.toNat, t) := by
  have small : word.toNat ≤ maxWord := Nat.le_of_lt_succ word.toNat_lt
  simp [Source.drawWord, draw, small]

theorem endless_seeded (g : Twister) : (seeded g).Endless := by
  refine endless_of_class (P := fun s => ∃ g, s = seeded g) ?_ ⟨g, rfl⟩
  rintro _ ⟨g, rfl⟩
  exact ⟨_, _, drawWord_word rfl, _, rfl⟩

theorem endless_entropy (stream : Nat → UInt32) (position : Nat) :
    (entropy stream position).Endless := by
  refine endless_of_class (P := fun s => ∃ position, s = entropy stream position) ?_ ⟨position, rfl⟩
  rintro _ ⟨position, rfl⟩
  exact ⟨_, _, drawWord_word rfl, _, rfl⟩

end Source

namespace Sequence

/-- On an endless source no row fails, and the source stays endless. -/
theorem take_of_endless {source : Source} (endless : source.Endless) (n : Nat) (s : Sequence) :
    (s.take n source).1.failure? = none ∧ (s.take n source).2.2.Endless := by
  induction n generalizing s source with
  | zero => exact ⟨rfl, endless⟩
  | succ n ih =>
    rw [take_succ]
    rcases next_cases s source with ⟨_, eq⟩ | ⟨_, _, eq⟩ | ⟨_, _, word, t, drawn, eq⟩ |
      ⟨_, _, e, t, drawn, _⟩
    · rw [eq]
      exact ⟨rfl, endless⟩
    · rw [eq]
      exact ih endless _
    · rw [eq]
      exact ih (endless.after drawn) _
    · obtain ⟨word, u, given⟩ := endless.drawWord
      rw [given] at drawn
      cases drawn

end Sequence

end IndexScan
