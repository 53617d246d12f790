import IndexScan.Command.Preview
import IndexScan.Proofs.Sequence.Draws

/-!
Plans in closed form. A seed fixes a stream of words, and every branch of a plan reads on in it
where the branch before stopped. So what a random branch lists depends on how many indices the
branches before it listed, that is on the limit (`plan_seeded`); what other branches list does not.
-/

namespace IndexScan

/-! ### Streams -/

namespace Twister

/-- The generator after `n` words. -/
def skip (g : Twister) : Nat → Twister
  | 0 => g
  | n + 1 => skip g.next.2 n

/-- The word at a place of the stream. -/
def word (g : Twister) (n : Nat) : Nat :=
  (g.skip n).next.1.toNat

theorem skip_add (g : Twister) (m n : Nat) : g.skip (m + n) = (g.skip m).skip n := by
  induction m generalizing g with
  | zero => rw [Nat.zero_add, skip]
  | succ m ih => rw [Nat.succ_add, skip, skip, ih]

theorem word_skip (g : Twister) (m n : Nat) : (g.skip m).word n = g.word (m + n) := by
  rw [word, word, skip_add]

end Twister

namespace Sequence

theorem drawWord_seeded (g : Twister) :
    (Source.seeded g).drawWord = (.ok (g.word 0), .seeded (g.skip 1)) := by
  have small : g.next.1.toNat ≤ maxWord := Nat.le_of_lt_succ g.next.1.toNat_lt
  simp [Source.drawWord, Source.draw?, Twister.word, Twister.skip, small]

/-- A seeded random sequence emits words of the stream in order. -/
theorem take_seeded {s : Sequence} (random : s.mode.isRandom = true) (n : Nat) (g : Twister) :
    (s.take n (.seeded g)).1 = ⟨(List.range (min n s.remaining)).map g.word, none⟩ ∧
      (s.take n (.seeded g)).2.2 = .seeded (g.skip (min n s.remaining)) := by
  induction n generalizing s g with
  | zero => simp [take, Twister.skip]
  | succ n ih =>
    rw [take_succ]
    rcases next_cases s (.seeded g) with ⟨done, eq⟩ | ⟨_, ordered, _⟩ | ⟨left, _, m, b, word, eq⟩ |
      ⟨_, _, e, b, word, _⟩
    · have none : s.remaining = 0 := Nat.sub_eq_zero_of_le (Nat.le_of_eq done.symm)
      rw [eq, none]
      exact ⟨rfl, rfl⟩
    · simp [ordered] at random
    · rw [drawWord_seeded] at word
      obtain ⟨rfl, rfl⟩ : g.word 0 = m ∧ .seeded (g.skip 1) = b := by simpa using word
      have one : min (n + 1) s.remaining = min n (s.mode.count - (s.produced + 1)) + 1 := by
        simp only [remaining]
        omega
      obtain ⟨taken, source⟩ := ih (s := ⟨s.mode, s.produced + 1, left⟩) random (g.skip 1)
      simp only [remaining] at taken source
      rw [eq, one, List.range_succ_eq_map, List.map_cons, List.map_map]
      refine ⟨?_, by rw [source, ← Twister.skip_add, Nat.add_comm]⟩
      have onward : (g.skip 1).word = fun k => g.word (1 + k) := funext fun k => g.word_skip 1 k
      simp only [taken, Function.comp_def, onward, Nat.succ_eq_one_add]
    · rw [drawWord_seeded] at word
      cases word

/-- A sequence that is not random emits its positions and leaves its source alone. -/
theorem take_ordered {s : Sequence} (ordered : s.mode.isRandom = false) (n : Nat)
    (source : Source) :
    (s.take n source).1 = ⟨List.range' s.produced (min n s.remaining), none⟩ ∧
      (s.take n source).2.2 = source := by
  have took := take_took n s source
  have fine : (s.take n source).1.failure? = none := by
    cases failed : (s.take n source).1.failure? with
    | none => rfl
    | some e =>
      have random := (took.unfinished e failed).1
      simp [ordered] at random
  have positions := took.positions ordered
  rw [take_length fine] at positions
  refine ⟨?_, took.source_eq (.inl ordered)⟩
  rw [← positions, ← fine]

end Sequence

namespace Command

/-! ### One branch -/

/-- What the branch number `k` of a plan lists, the first being number zero. -/
def listed (mode : Mode) (g : Twister) (limit k : Nat) : List Nat :=
  if mode.isRandom then
    (List.range (min limit mode.count)).map fun j => g.word (k * min limit mode.count + j)
  else List.range (min limit mode.count)

/-- The stream after a branch. -/
def spent (mode : Mode) (g : Twister) (limit : Nat) : Twister :=
  if mode.isRandom then g.skip (min limit mode.count) else g

theorem listed_spent (mode : Mode) (g : Twister) (limit k : Nat) :
    listed mode (spent mode g limit) limit k = listed mode g limit (k + 1) := by
  unfold listed spent
  split_ifs with random
  · simp only [Twister.word_skip, Nat.succ_mul, Nat.add_assoc, Nat.add_left_comm]
  · rfl

/-- A list for one limit is the beginning of that for a larger one if the words that both lead to
are the same, or if the mode is not random. -/
theorem listed_take_iff (mode : Mode) (g : Twister) {limit larger : Nat} (le : limit ≤ larger)
    (k : Nat) :
    listed mode g limit k = (listed mode g larger k).take limit ↔
      mode.isRandom = false ∨ ∀ j < min limit mode.count,
        g.word (k * min limit mode.count + j) = g.word (k * min larger mode.count + j) := by
  have shorter : min limit (min larger mode.count) = min limit mode.count := by omega
  unfold listed
  cases random : mode.isRandom with
  | false => simp [List.take_range, shorter]
  | true =>
    simp only [if_true, ← List.map_take, List.take_range, shorter, List.map_inj_left,
      List.mem_range]
    simp

theorem firstIndices_seeded {limit : Nat} (small : limit < Sequence.takeBound) (mode : Mode)
    (g : Twister) :
    ∃ s, firstIndices mode limit (.seeded g) =
      .ok (listed mode g limit 0, s, .seeded (spent mode g limit)) := by
  have whole : (Sequence.start mode).remaining = mode.count := rfl
  rw [firstIndices, if_pos small, listed, spent]
  cases random : mode.isRandom with
  | true =>
    obtain ⟨taken, source⟩ := Sequence.take_seeded (s := .start mode) random limit g
    rw [whole] at taken source
    refine ⟨((Sequence.start mode).take limit (.seeded g)).2.1, ?_⟩
    simp [taken, source]
  | false =>
    obtain ⟨taken, source⟩ := Sequence.take_ordered (s := .start mode) random limit (.seeded g)
    rw [whole] at taken
    refine ⟨((Sequence.start mode).take limit (.seeded g)).2.1, ?_⟩
    rw [List.range_eq_range']
    simp only [taken, source]
    rfl

/-! ### All branches -/

/-- The number of the last place that a branch has among branches. -/
def lastPlace? (branch : Int) : List Int → Option Nat
  | [] => none
  | b :: rest =>
    match lastPlace? branch rest with
    | some k => some (k + 1)
    | none => if b = branch then some 0 else none

theorem lastPlace?_isSome {branch : Int} {branches : List Int} (mem : branch ∈ branches) :
    (lastPlace? branch branches).isSome = true := by
  induction branches with
  | nil => simp at mem
  | cons b rest ih =>
    rw [lastPlace?]
    cases later : lastPlace? branch rest with
    | some k => rfl
    | none =>
      have absent : branch ∉ rest := fun mem => by simpa [later] using ih mem
      obtain rfl : branch = b := by simpa [absent] using mem
      simp

theorem mem_of_lastPlace? {branch : Int} {branches : List Int} {k : Nat}
    (place : lastPlace? branch branches = some k) : branch ∈ branches := by
  induction branches generalizing k with
  | nil => cases place
  | cons b rest ih =>
    rw [lastPlace?] at place
    cases later : lastPlace? branch rest with
    | some k => exact List.mem_cons_of_mem _ (ih later)
    | none =>
      rw [later] at place
      by_cases here : b = branch
      · exact here ▸ List.mem_cons_self
      · simp [here] at place

/-- A place behind which a branch does not come again is its last. -/
theorem lastPlace?_of_getElem? {branch : Int} {branches : List Int} {k : Nat}
    (here : branches[k]? = some branch) (last : branch ∉ branches.drop (k + 1)) :
    lastPlace? branch branches = some k := by
  induction branches generalizing k with
  | nil => simp at here
  | cons b rest ih =>
    rw [lastPlace?]
    cases k with
    | zero =>
      obtain rfl : b = branch := by simpa using here
      have absent : b ∉ rest := by simpa using last
      cases later : lastPlace? b rest with
      | some k => exact absurd (mem_of_lastPlace? later) absent
      | none => simp
    | succ k => rw [ih (by simpa using here) (by simpa using last)]

section

variable {α : Type} {pairs : List (Int × α)}

theorem lookup_insertBranch (branch other : Int) (result : α) (pairs : List (Int × α)) :
    (Scan.insertBranch branch result pairs).lookup other =
      if other = branch then some result else pairs.lookup other := by
  induction pairs with
  | nil => by_cases same : other = branch <;> simp [Scan.insertBranch, same]
  | cons p rest ih =>
    obtain ⟨b, r⟩ := p
    rw [Scan.insertBranch]
    by_cases here : b = branch
    · subst here
      by_cases same : other = b
      · simp [same]
      · have differ : (other == b) = false := beq_false_of_ne same
        simp [List.lookup_cons, same, differ]
    · rw [if_neg here, List.lookup_cons, List.lookup_cons, ih]
      by_cases same : other = branch
      · subst same
        have differ : (other == b) = false := beq_false_of_ne (Ne.symm here)
        simp [differ]
      · simp only [if_neg same]

theorem lookup_of_mem {e : Int × α} (distinct : (pairs.map (·.1)).Nodup) (mem : e ∈ pairs) :
    pairs.lookup e.1 = some e.2 := by
  induction pairs with
  | nil => simp at mem
  | cons p rest ih =>
    rw [List.map_cons, List.nodup_cons] at distinct
    rw [List.lookup_cons]
    rcases List.mem_cons.mp mem with rfl | mem
    · simp
    · have differ : (e.1 == p.1) = false := beq_false_of_ne fun same =>
        distinct.1 (same ▸ List.mem_map_of_mem mem)
      rw [differ]
      exact ih distinct.2 mem

/-- A new branch comes behind the others, and one that is there keeps its place. -/
theorem keys_insertBranch (branch : Int) (result : α) (pairs : List (Int × α)) :
    (Scan.insertBranch branch result pairs).map (·.1) =
      if branch ∈ pairs.map (·.1) then pairs.map (·.1) else pairs.map (·.1) ++ [branch] := by
  induction pairs with
  | nil => simp [Scan.insertBranch]
  | cons p rest ih =>
    obtain ⟨b, r⟩ := p
    rw [Scan.insertBranch, List.map_cons]
    by_cases here : b = branch
    · subst here
      simp
    · rw [if_neg here, List.map_cons, ih]
      by_cases later : branch ∈ rest.map (·.1)
      · rw [if_pos later, if_pos (List.mem_cons_of_mem _ later)]
      · have absent : branch ∉ b :: rest.map (·.1) := by
          rw [List.mem_cons]
          exact not_or.mpr ⟨Ne.symm here, later⟩
        rw [if_neg later, if_neg absent, List.cons_append]

theorem nodup_insertBranch (branch : Int) (result : α) (distinct : (pairs.map (·.1)).Nodup) :
    ((Scan.insertBranch branch result pairs).map (·.1)).Nodup := by
  rw [keys_insertBranch]
  split_ifs with there
  · exact distinct
  · rw [List.nodup_append]
    refine ⟨distinct, List.pairwise_singleton _ branch, ?_⟩
    intro other mem b last same
    obtain rfl := List.mem_singleton.mp last
    exact there (same ▸ mem)

end

/-- Behind a plan so far, every branch that is still to come lists what its last place gives. -/
theorem planFrom_seeded {limit : Nat} (small : limit < Sequence.takeBound) (mode : Mode)
    (branches : List Int) (g : Twister) (sofar : List (Int × List Nat))
    (distinct : (sofar.map (·.1)).Nodup) :
    ∃ p, planFrom mode limit sofar branches (.seeded g) = .ok p ∧ (p.map (·.1)).Nodup ∧
      ∀ b, p.lookup b =
        ((lastPlace? b branches).map (listed mode g limit)).or (sofar.lookup b) := by
  induction branches generalizing g sofar with
  | nil => exact ⟨sofar, rfl, distinct, fun b => rfl⟩
  | cons branch rest ih =>
    obtain ⟨s, first⟩ := firstIndices_seeded small mode g
    obtain ⟨p, planned, keys, lists⟩ := ih (spent mode g limit)
      (Scan.insertBranch branch (listed mode g limit 0) sofar) (nodup_insertBranch _ _ distinct)
    refine ⟨p, ?_, keys, fun b => ?_⟩
    · simp only [planFrom, first, bind, Except.bind, planned]
    · rw [lists, lookup_insertBranch, lastPlace?]
      cases lastPlace? b rest with
      | some k => simp [listed_spent]
      | none =>
        by_cases same : branch = b
        · simp [same]
        · simp [same, Ne.symm same]

/-- The plan of a seed: every branch lists what its last place gives. -/
theorem plan_seeded {limit : Nat} (small : limit < Sequence.takeBound) (mode : Mode)
    (branches : List Int) (g : Twister) :
    ∃ p, plan mode limit branches (.seeded g) = .ok p ∧ (p.map (·.1)).Nodup ∧
      ∀ b, p.lookup b = (lastPlace? b branches).map (listed mode g limit) := by
  obtain ⟨p, planned, keys, lists⟩ := planFrom_seeded small mode branches g [] List.nodup_nil
  refine ⟨p, planned, keys, fun b => ?_⟩
  rw [lists, List.lookup_nil, Option.or_none]

end Command

end IndexScan
