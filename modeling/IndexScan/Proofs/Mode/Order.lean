import IndexScan.Proofs.Directive.Display
import IndexScan.Proofs.Value.Sorting
import Mathlib.Data.Finset.Card
import Mathlib.Data.List.TFAE
import Mathlib.Data.Prod.Lex
import Mathlib.Order.Basic

/-!
Modes as a chain. The order relations between modes, their equality, their directives and the sets
that hold them all follow one key, so that modes are a linear order (`Mode.order_eq_compare`) and
any two of them compare in exactly one way (`compares`).

Any two modes have an order, so a list of modes can be sorted. The sorted list is settled by the
order alone: it begins with the least of the modes, ends with the greatest, and in the other
direction it is turned round (`sorts_mergeSort`).
-/

namespace IndexScan

/-! ### The order of modes -/

namespace Mode

/-- The key of a mode, in lexicographic order. -/
def key (m : Mode) : Nat ×ₗ Nat :=
  toLex m.sortKey

/-- Two modes have the same key exactly when they have the same kind and the same count. -/
theorem sortKey_inj {a b : Mode} : a.sortKey = b.sortKey ↔ a.kind = b.kind ∧ a.count = b.count := by
  cases a <;> cases b <;> simp [sortKey, kind, count, Kind.rank]

/-- A mode is settled by its kind and its count. -/
theorem eq_iff {a b : Mode} : a = b ↔ a.kind = b.kind ∧ a.count = b.count := by
  rw [← sortKey_inj]
  constructor
  · rintro rfl
    rfl
  · intro same
    cases a with
    | single => cases b <;> simp_all [sortKey, kind, Kind.rank]
    | first => cases b <;> simp_all [sortKey, kind, Kind.rank, UnhardenedIndex.value_inj]
    | random => cases b <;> simp_all [sortKey, kind, Kind.rank, UnhardenedIndex.value_inj]

theorem key_injective : Function.Injective key :=
  fun _ _ same => eq_iff.mpr (sortKey_inj.mp (toLex_inj.mp same))

instance : LinearOrder Mode :=
  LinearOrder.lift' key key_injective

/-- Modes compare as their keys do. -/
theorem order_eq_compare (a b : Mode) : a.order b = compare a.key b.key := by
  rw [Prod.Lex.compare_def]
  rfl

/-- Modes are in the order of their kinds, and within a kind in that of their counts. -/
theorem lt_iff {a b : Mode} :
    a < b ↔ a.kind.rank < b.kind.rank ∨ a.kind = b.kind ∧ a.count < b.count := by
  have keys : a < b ↔ a.sortKey.1 < b.sortKey.1 ∨
      a.sortKey.1 = b.sortKey.1 ∧ a.sortKey.2 < b.sortKey.2 := Prod.Lex.toLex_lt_toLex
  rw [keys]
  cases a <;> cases b <;> simp [sortKey, kind, count, Kind.rank]

theorem le_iff {a b : Mode} :
    a ≤ b ↔ a.kind.rank < b.kind.rank ∨ a.kind = b.kind ∧ a.count ≤ b.count := by
  rw [le_iff_lt_or_eq, lt_iff, eq_iff, Nat.le_iff_lt_or_eq]
  tauto

end Mode

/-- The relation between modes that a sign stands for. -/
def Relation.Of : Relation → Mode → Mode → Prop
  | .lt, a, b => a < b
  | .le, a, b => a ≤ b
  | .gt, a, b => a > b
  | .ge, a, b => a ≥ b

instance (r : Relation) (a b : Mode) : Decidable (r.Of a b) :=
  match r with
  | .lt => inferInstanceAs (Decidable (a < b))
  | .le => inferInstanceAs (Decidable (a ≤ b))
  | .gt => inferInstanceAs (Decidable (a > b))
  | .ge => inferInstanceAs (Decidable (a ≥ b))

theorem Relation.holds_order (r : Relation) (a b : Mode) :
    r.holds (a.order b) = true ↔ r.Of a b := by
  rw [Mode.order_eq_compare]
  cases r with
  | lt => exact Ordering.isLT_iff_eq_lt.trans compare_lt_iff_lt
  | le => exact Ordering.isLE_iff_ne_gt.trans compare_le_iff_le
  | gt => exact Ordering.isGT_iff_eq_gt.trans compare_gt_iff_gt
  | ge => exact Ordering.isGE_iff_ne_lt.trans compare_ge_iff_ge

namespace Value

/-- Every relation between modes is answered, and as their order has it. -/
theorem related_mode (r : Relation) (a b : Mode) :
    related r (.mode a) (.mode b) = .ok (decide (r.Of a b)) := by
  rw [related, ← Bool.decide_congr (r.holds_order a b), Bool.decide_eq_true]

theorem same_mode {a b : Mode} : same (.mode a) (.mode b) = true ↔ a = b :=
  decide_eq_true_iff

/-! ### Lists of modes -/

variable {modes sorted : List Mode}

theorem comparable_modes (modes : List Mode) : Comparable (modes.map .mode) := by
  intro v memV w memW
  obtain ⟨a, -, rfl⟩ := List.mem_map.mp memV
  obtain ⟨b, -, rfl⟩ := List.mem_map.mp memW
  exact ⟨_, related_mode .lt a b⟩

theorem notAbove_mode (a b : Mode) : notAbove (.mode a) (.mode b) = decide (a ≤ b) := by
  have answer : related .lt (.mode b) (.mode a) = .ok (decide (b < a)) := related_mode .lt b a
  simp only [notAbove, answer]
  exact Bool.eq_iff_iff.mpr (by simp)

/-- Modes are sorted as their order has it. -/
theorem sortAscending_modes (modes : List Mode) :
    sortAscending (modes.map .mode) = .ok ((modes.mergeSort).map .mode) := by
  have merged : (modes.mergeSort).map Value.mode = (modes.map .mode).mergeSort notAbove :=
    List.map_mergeSort fun a _ b _ => (notAbove_mode a b).symm
  rw [sortAscending, checkOrdered_of_comparable (comparable_modes modes), merged]
  rfl

theorem mergeSort_ascending (modes : List Mode) : (modes.mergeSort).Pairwise (· ≤ ·) := by
  have transitive (a b c : Mode) (ab : decide (a ≤ b) = true) (bc : decide (b ≤ c) = true) :
      decide (a ≤ c) = true :=
    decide_eq_true (le_trans (of_decide_eq_true ab) (of_decide_eq_true bc))
  have total (a b : Mode) : (decide (a ≤ b) || decide (b ≤ a)) = true := by
    simpa using le_total a b
  exact (List.pairwise_mergeSort transitive total modes).imp of_decide_eq_true

/-- The order of the modes before they are sorted leaves no trace. -/
theorem mergeSort_reverse (modes : List Mode) : modes.reverse.mergeSort = modes.mergeSort := by
  have perm : modes.reverse.mergeSort.Perm modes.mergeSort :=
    (List.mergeSort_perm _ _).trans
      ((List.reverse_perm modes).trans (List.mergeSort_perm _ _).symm)
  exact perm.eq_of_pairwise (fun a b _ _ => le_antisymm) (mergeSort_ascending _)
    (mergeSort_ascending _)

/-- Of two modes the one that stands out is kept. -/
def kept (r : Relation) (a b : Mode) : Mode :=
  if r.Of b a then b else a

theorem pass_modes (r : Relation) (modes : List Mode) (m : Mode) :
    (modes.map Value.mode).foldlM
      (fun kept w => return if ← related r w kept then w else kept) (Value.mode m) =
    (.ok (.mode (modes.foldl (kept r) m)) : Except Unordered Value) := by
  induction modes generalizing m with
  | nil => rfl
  | cons w modes ih =>
    have step : (do return if ← related r (.mode w) (.mode m) then .mode w else .mode m) =
        (.ok (.mode (kept r m w)) : Except Unordered Value) := by
      rw [related_mode, kept, apply_ite Value.mode]
      by_cases bears : r.Of w m
      · rw [if_pos bears, decide_eq_true bears]
        rfl
      · rw [if_neg bears, decide_eq_false bears]
        rfl
    rw [List.map_cons, List.foldlM_cons, step, List.foldl_cons]
    exact ih (kept r m w)

/-- The mode that stands out is found by one pass. -/
theorem extreme?_modes (r : Relation) (m : Mode) (modes : List Mode) :
    extreme? r ((m :: modes).map .mode) = .ok (some (.mode (modes.foldl (kept r) m))) := by
  rw [List.map_cons, extreme?, pass_modes]
  rfl

theorem extreme?_lt (modes : List Mode) :
    extreme? .lt (modes.map .mode) = .ok (modes.min?.map .mode) := by
  cases modes with
  | nil => rfl
  | cons m modes =>
    have least : kept .lt = min := by
      funext a b
      rw [min_comm, min_def_lt]
      rfl
    rw [extreme?_modes, least, List.min?_cons']
    rfl

theorem extreme?_gt (modes : List Mode) :
    extreme? .gt (modes.map .mode) = .ok (modes.max?.map .mode) := by
  cases modes with
  | nil => rfl
  | cons m modes =>
    have greatest : kept .gt = max := by
      funext a b
      rw [max_def_lt]
      rfl
    rw [extreme?_modes, greatest, List.max?_cons']
    rfl

/-- The least of some modes is the first when they are sorted. -/
theorem min?_eq_head? (perm : sorted.Perm modes) (ascending : sorted.Pairwise (· ≤ ·)) :
    modes.min? = sorted.head? := by
  cases sorted with
  | nil =>
    rw [List.nil_perm.mp perm]
    rfl
  | cons m rest =>
    refine List.min?_eq_some_iff.mpr ⟨perm.mem_iff.mp List.mem_cons_self, fun w mem => ?_⟩
    rcases List.mem_cons.mp (perm.mem_iff.mpr mem) with rfl | later
    · exact le_refl _
    · exact List.rel_of_pairwise_cons ascending later

theorem max?_eq_getLast? (perm : sorted.Perm modes) (ascending : sorted.Pairwise (· ≤ ·)) :
    modes.max? = sorted.getLast? := by
  rw [← List.head?_reverse]
  have perm := (List.reverse_perm sorted).trans perm
  have descending := List.pairwise_reverse.mpr ascending
  cases turned : sorted.reverse with
  | nil =>
    rw [turned] at perm
    rw [List.nil_perm.mp perm]
    rfl
  | cons m rest =>
    rw [turned] at perm descending
    refine List.max?_eq_some_iff.mpr ⟨perm.mem_iff.mp List.mem_cons_self, fun w mem => ?_⟩
    rcases List.mem_cons.mp (perm.mem_iff.mpr mem) with rfl | later
    · exact le_refl _
    · exact List.rel_of_pairwise_cons descending later

/-- A set takes of each mode one. -/
theorem foldl_distinct (modes members : List Mode) :
    (modes.map Value.mode).foldl
      (fun members v => if members.any (same · v) then members else v :: members)
      (members.map .mode) =
    (modes.foldl (fun members m => members.insert m) members).map .mode := by
  induction modes generalizing members with
  | nil => rfl
  | cons m modes ih =>
    have step : (if (members.map Value.mode).any (same · (.mode m)) then members.map Value.mode
        else .mode m :: members.map .mode) = (members.insert m).map .mode := by
      by_cases among : m ∈ members
      · rw [if_pos, List.insert_of_mem among]
        simpa [same_mode] using among
      · rw [if_neg, List.insert_of_not_mem among, List.map_cons]
        simpa [same_mode] using among
    rw [List.map_cons, List.foldl_cons, step, List.foldl_cons]
    exact ih (members.insert m)

/-- A set of modes has as many members as there are distinct directives. -/
theorem distinct_modes (modes : List Mode) :
    distinct (modes.map .mode) = .ok (modes.map Mode.directive).dedup.length := by
  have hashable : (modes.map Value.mode).find? (fun v => !v.isHashable) = none := by
    simp [isHashable]
  have members : modes.foldl (fun members m => members.insert m) [] = modes.reverse ∪ [] :=
    List.foldl_eq_foldr_reverse
  have nodup : (modes.reverse ∪ []).Nodup := List.Nodup.union _ List.nodup_nil
  have among : (modes.reverse ∪ []).toFinset = modes.toFinset := by
    ext m
    simp
  have size : (modes.foldl (fun members m => members.insert m) []).length =
      (modes.map Mode.directive).dedup.length := by
    rw [members, ← List.toFinset_card_of_nodup nodup, among, List.card_toFinset,
      List.dedup_map_of_injective Directive.directive_injective, List.length_map]
  have all := foldl_distinct modes []
  rw [distinct, hashable, ← size, ← List.length_map Value.mode, ← all]
  rfl

/-! ### The chain of modes -/

/-- The relation is found to hold between the modes. -/
def Bears (r : Relation) (a b : Mode) : Prop :=
  related r (.mode a) (.mode b) = .ok true

/-- The modes are found to be equal. -/
def Same (a b : Mode) : Prop :=
  same (.mode a) (.mode b) = true

theorem bears_iff {r : Relation} {a b : Mode} : Bears r a b ↔ r.Of a b := by
  rw [Bears, related_mode, Except.ok.injEq, decide_eq_true_iff]

/-- How two modes compare. Every relation is answered, exactly one of `lt`, equality and `gt` holds,
the other two relations follow, and equality is equality in every respect. -/
structure Compares (a b : Mode) : Prop where
  answered : ∀ r, ∃ holds, related r (.mode a) (.mode b) = .ok holds
  one : Bears .lt a b ∧ ¬ Same a b ∧ ¬ Bears .gt a b ∨
    ¬ Bears .lt a b ∧ Same a b ∧ ¬ Bears .gt a b ∨
    ¬ Bears .lt a b ∧ ¬ Same a b ∧ Bears .gt a b
  le : Bears .le a b ↔ Bears .lt a b ∨ Same a b
  ge : Bears .ge a b ↔ Bears .le b a
  same : List.TFAE [Same a b, a.kind = b.kind ∧ a.count = b.count, a.sortKey = b.sortKey,
    a.directive = b.directive, distinct [.mode a, .mode b] = .ok 1]

/-- What becomes of a list of modes when it is sorted, in both directions, and what its least and
its greatest element are. -/
structure Sorts (modes sorted : List Mode) : Prop where
  perm : sorted.Perm modes
  ascending : sorted.Pairwise fun a b =>
    a.kind.rank < b.kind.rank ∨ a.kind = b.kind ∧ a.count ≤ b.count
  sort : Value.sort false (modes.map .mode) = .ok (sorted.map .mode)
  reverse : Value.sort true (modes.map .mode) = .ok (sorted.reverse.map .mode)
  least : extreme? .lt (modes.map .mode) = .ok (sorted.head?.map .mode)
  greatest : extreme? .gt (modes.map .mode) = .ok (sorted.getLast?.map .mode)

theorem same_tfae (a b : Mode) :
    List.TFAE [Same a b, a.kind = b.kind ∧ a.count = b.count, a.sortKey = b.sortKey,
      a.directive = b.directive, distinct [.mode a, .mode b] = .ok 1] := by
  have pair : distinct [.mode a, .mode b] = .ok [a.directive, b.directive].dedup.length :=
    distinct_modes [a, b]
  tfae_have 1 ↔ 2 := same_mode.trans Mode.eq_iff
  tfae_have 3 ↔ 2 := Mode.sortKey_inj
  tfae_have 1 ↔ 4 := same_mode.trans Directive.directive_injective.eq_iff.symm
  tfae_have 4 ↔ 5 := by
    rw [pair, Except.ok.injEq]
    by_cases equal : a.directive = b.directive
    · simp [equal]
    · simp [equal]
  tfae_finish

theorem compares (a b : Mode) : Compares a b where
  answered r := ⟨_, related_mode r a b⟩
  one := by
    simp only [bears_iff, Same, same_mode]
    rcases lt_trichotomy a b with below | rfl | above
    · exact .inl ⟨below, below.ne, below.not_gt⟩
    · exact .inr (.inl ⟨lt_irrefl a, rfl, lt_irrefl a⟩)
    · exact .inr (.inr ⟨above.not_gt, above.ne', above⟩)
  le := by
    simp only [bears_iff, Same, same_mode]
    exact le_iff_lt_or_eq
  ge := by
    simp only [bears_iff]
    exact Iff.rfl
  same := same_tfae a b

theorem sorts_mergeSort (modes : List Mode) : Sorts modes modes.mergeSort where
  perm := List.mergeSort_perm _ _
  ascending := (mergeSort_ascending modes).imp Mode.le_iff.mp
  sort := sortAscending_modes modes
  reverse := by
    rw [Value.sort, if_pos rfl, ← List.map_reverse, sortAscending_modes, mergeSort_reverse,
      List.map_reverse]
    rfl
  least := by
    rw [extreme?_lt, min?_eq_head? (List.mergeSort_perm _ _) (mergeSort_ascending modes)]
  greatest := by
    rw [extreme?_gt, max?_eq_getLast? (List.mergeSort_perm _ _) (mergeSort_ascending modes)]

/-- Modes are totally ordered, by kind and then by count, and equality, directives and sets of modes
agree with the order. Every list of modes can be sorted, and its least and its greatest element are
where the sorted list begins and ends. -/
theorem modes_ordered :
    (∀ a b, Compares a b) ∧
    (∀ a b c, Bears .lt a b → Bears .lt b c → Bears .lt a c) ∧
    (∀ l m, Bears .lt .single (.first l) ∧ Bears .lt .single (.random m) ∧
      Bears .lt (.first l) (.random m)) ∧
    ∀ modes, (∃ sorted, Sorts modes sorted) ∧
      distinct (modes.map .mode) = .ok (modes.map Mode.directive).dedup.length := by
  refine ⟨compares, fun a b c => ?_, fun l m => ?_, fun modes => ?_⟩
  · simp only [bears_iff]
    exact lt_trans
  · simp only [bears_iff]
    exact ⟨Mode.lt_iff.mpr (.inl Nat.zero_lt_one), Mode.lt_iff.mpr (.inl Nat.zero_lt_two),
      Mode.lt_iff.mpr (.inl Nat.one_lt_two)⟩
  · exact ⟨⟨_, sorts_mergeSort modes⟩, distinct_modes modes⟩

end Value

end IndexScan
