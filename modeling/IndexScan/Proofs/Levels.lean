import IndexScan.Levels

/-!
Readers on a stack. A reader that has only so many levels either gives out or reads what it would read
with any number of them (`Agrees`). That carries over to readers that are made of others, so it is
enough to look at where a level is taken.
-/

namespace IndexScan.Levels

variable {ε ε' σ α β : Type} {deep : ε → Prop} {deep' : ε' → Prop}

/-- Of two results the first says that the reader gave out, or they are the same. -/
def Agrees (deep : ε → Prop) (short long : Except ε α) : Prop :=
  (∃ e, deep e ∧ short = .error e) ∨ short = long

namespace Agrees

theorem refl (x : Except ε α) : Agrees deep x x := .inr rfl

theorem gaveOut {e : ε} (isDeep : deep e) (y : Except ε α) : Agrees deep (.error e) y :=
  .inl ⟨e, isDeep, rfl⟩

theorem bind {x y : Except ε α} {f g : α → Except ε β} (first : Agrees deep x y)
    (next : ∀ a, Agrees deep (f a) (g a)) : Agrees deep (x >>= f) (y >>= g) := by
  obtain ⟨e, isDeep, rfl⟩ | rfl := first
  · exact gaveOut isDeep _
  · cases x with
    | error e => exact refl _
    | ok a => exact next a

theorem map {x y : Except ε α} (same : Agrees deep x y) (f : α → β) :
    Agrees deep (x.map f) (y.map f) := by
  obtain ⟨e, isDeep, rfl⟩ | rfl := same
  · exact gaveOut isDeep _
  · exact refl _

theorem mapError {x y : Except ε α} (same : Agrees deep x y) {f : ε → ε'}
    (keeps : ∀ e, deep e → deep' (f e)) : Agrees deep' (x.mapError f) (y.mapError f) := by
  obtain ⟨e, isDeep, rfl⟩ | rfl := same
  · exact gaveOut (keeps e isDeep) _
  · exact refl _

/-- Where the first does not say that the reader gave out, they are the same. -/
theorem eq {x y : Except ε α} (same : Agrees deep x y) (stays : ∀ e, x = .error e → ¬ deep e) :
    x = y := by
  obtain ⟨e, isDeep, gave⟩ | rfl := same
  · exact absurd isDeep (stays e gave)
  · rfl

end Agrees

end IndexScan.Levels
