import IndexScan.Proofs.Command.Plan
import IndexScan.Proofs.Sequence.Endless

/-!
Listings on any source. What is listed are 32-bit words, for each branch once (`plan_listable`). On
an endless source there is something to list exactly when the limit is one that can be asked for at
once (`firstIndices_of_endless`, `plan_of_endless`, `plan_of_large`).
-/

namespace IndexScan.Command

variable {mode : Mode} {limit : Nat} {source after : Source} {s : Sequence}
  {indices : List Nat} {branches : List Int} {p sofar : List (Int × List Nat)}

/-! ### One list -/

theorem firstIndices_words (listed : firstIndices mode limit source = .ok (indices, s, after)) :
    ∀ i ∈ indices, i < 2 ^ 32 := by
  have took := Sequence.take_took limit (Sequence.start mode) source
  unfold firstIndices at listed
  split_ifs at listed
  rcases row : (Sequence.start mode).take limit source with ⟨⟨taken, failure?⟩, t, b⟩
  rw [row] at listed took
  cases failure? with
  | some e => cases listed
  | none =>
    cases listed
    exact took.words

theorem firstIndices_of_endless (small : limit < Sequence.takeBound) (endless : source.Endless)
    (mode : Mode) :
    ∃ indices s after, firstIndices mode limit source = .ok (indices, s, after) ∧
      after.Endless := by
  obtain ⟨fine, still⟩ := Sequence.take_of_endless endless limit (.start mode)
  rw [firstIndices, if_pos small]
  simp only [fine]
  exact ⟨_, _, _, rfl, still⟩

theorem firstIndices_of_large (large : Sequence.takeBound ≤ limit) (mode : Mode)
    (source : Source) : firstIndices mode limit source = .error .limit := by
  rw [firstIndices, if_neg (Nat.not_lt.mpr large)]

/-! ### Plans -/

/-- A plan that a document can hold: each branch has one list, and what is listed are words. -/
structure Listable (p : List (Int × List Nat)) : Prop where
  distinct : (p.map (·.1)).Nodup
  words : ∀ e ∈ p, ∀ i ∈ e.2, i < 2 ^ 32

theorem listable_nil : Listable [] where
  distinct := List.nodup_nil
  words := by simp

theorem mem_of_mem_insertBranch {α : Type} {branch : Int} {result : α} {e : Int × α}
    {pairs : List (Int × α)} (mem : e ∈ Scan.insertBranch branch result pairs) :
    e = (branch, result) ∨ e ∈ pairs := by
  induction pairs with
  | nil => exact .inl (List.mem_singleton.mp mem)
  | cons p rest ih =>
    obtain ⟨b, r⟩ := p
    rw [Scan.insertBranch] at mem
    split_ifs at mem with here
    · subst here
      exact (List.mem_cons.mp mem).imp_right (List.mem_cons_of_mem _)
    · rcases List.mem_cons.mp mem with rfl | later
      · exact .inr List.mem_cons_self
      · exact (ih later).imp_right (List.mem_cons_of_mem _)

/-- A list of words for a branch keeps a plan listable. -/
theorem Listable.insertBranch (listable : Listable p) (branch : Int)
    (words : ∀ i ∈ indices, i < 2 ^ 32) : Listable (Scan.insertBranch branch indices p) where
  distinct := nodup_insertBranch branch indices listable.distinct
  words := fun e mem => by
    rcases mem_of_mem_insertBranch mem with rfl | before
    · exact words
    · exact listable.words e before

theorem planFrom_listable (listable : Listable sofar)
    (planned : planFrom mode limit sofar branches source = .ok p) : Listable p := by
  induction branches generalizing sofar source with
  | nil =>
    obtain rfl : sofar = p := Except.ok.inj planned
    exact listable
  | cons branch rest ih =>
    simp only [planFrom, bind, Except.bind] at planned
    cases first : firstIndices mode limit source with
    | error e => simp [first] at planned
    | ok row =>
      obtain ⟨indices, s, after⟩ := row
      rw [first] at planned
      exact ih (listable.insertBranch branch (firstIndices_words first)) planned

theorem plan_listable (planned : plan mode limit branches source = .ok p) : Listable p :=
  planFrom_listable listable_nil planned

theorem planFrom_of_endless (small : limit < Sequence.takeBound) (endless : source.Endless)
    (mode : Mode) (branches : List Int) (sofar : List (Int × List Nat)) :
    ∃ p, planFrom mode limit sofar branches source = .ok p := by
  induction branches generalizing sofar source with
  | nil => exact ⟨sofar, rfl⟩
  | cons branch rest ih =>
    obtain ⟨indices, s, after, first, still⟩ := firstIndices_of_endless small endless mode
    obtain ⟨p, planned⟩ := ih still (Scan.insertBranch branch indices sofar)
    exact ⟨p, by simp only [planFrom, first, bind, Except.bind, planned]⟩

theorem plan_of_endless (small : limit < Sequence.takeBound) (endless : source.Endless)
    (mode : Mode) (branches : List Int) : ∃ p, plan mode limit branches source = .ok p :=
  planFrom_of_endless small endless mode branches []

/-- A limit that is too large is noticed at the first branch. -/
theorem plan_of_large (large : Sequence.takeBound ≤ limit) (some : branches ≠ []) (mode : Mode)
    (source : Source) : plan mode limit branches source = .error .limit := by
  cases branches with
  | nil => exact absurd rfl some
  | cons branch rest =>
    rw [plan, planFrom, firstIndices_of_large large]
    rfl

end IndexScan.Command
