import IndexScan.Value
import Mathlib.Data.List.Basic
import Mathlib.Tactic.Tauto

/-!
Sorting what can be compared. Sorting asks for the order of two values many times over, and fails
where some two have none. Values every two of which have an order (`Comparable`) are sorted without
fail (`checkOrdered_of_comparable`): each step of the search only meets values of the list.
-/

namespace IndexScan.Value

/-- Every two of the values have an order. -/
def Comparable (values : List Value) : Prop :=
  ∀ v ∈ values, ∀ w ∈ values, ∃ below, related .lt v w = .ok below

theorem Comparable.subset {values few : List Value} (comparable : Comparable values)
    (sub : few ⊆ values) : Comparable few :=
  fun v memV w memW => comparable v (sub memV) w (sub memW)

/-- The place of a value among others that it can be compared with is found. By induction on the
fuel: every value that is looked at stands in the array. -/
theorem place_of_comparable {v : Value} {sorted : Array Value}
    (comparable : ∀ w ∈ sorted, ∃ below, related .lt v w = .ok below) (fuel low high : Nat)
    (inside : high ≤ sorted.size) : ∃ i, place v sorted fuel low high = .ok i := by
  induction fuel generalizing low high with
  | zero => exact ⟨low, rfl⟩
  | succ fuel ih =>
    rw [place]
    by_cases more : low < high
    · have within : (low + high) / 2 < sorted.size := by omega
      have mem : sorted.getD ((low + high) / 2) default ∈ sorted := by
        rw [Array.getD_eq_getD_getElem?, Array.getElem?_eq_getElem within]
        exact Array.getElem_mem within
      obtain ⟨below, answer⟩ := comparable _ mem
      rw [if_pos more]
      simp only [answer]
      cases below with
      | true => exact ih low ((low + high) / 2) (by omega)
      | false => exact ih ((low + high) / 2 + 1) high inside
    · rw [if_neg more]
      exact ⟨low, rfl⟩

theorem mem_of_mem_insert {sorted : Array Value} {i : Nat} {v w : Value}
    (mem : w ∈ sorted.insertIdxIfInBounds i v) : w = v ∨ w ∈ sorted := by
  rw [Array.insertIdxIfInBounds] at mem
  split at mem
  · exact Array.mem_insertIdx.mp mem
  · exact .inr mem

theorem insertAll_of_comparable {sorted : Array Value} {rest : List Value}
    (comparable : Comparable (sorted.toList ++ rest)) : ∃ all, insertAll sorted rest = .ok all := by
  induction rest generalizing sorted with
  | nil => exact ⟨sorted, rfl⟩
  | cons v rest ih =>
    have fits : ∀ w ∈ sorted, ∃ below, related .lt v w = .ok below := by
      intro w mem
      exact comparable v (by simp) w (by simp [mem])
    obtain ⟨i, found⟩ := place_of_comparable fits (sorted.size + 1) 0 sorted.size (Nat.le_refl _)
    rw [insertAll, found]
    refine ih (comparable.subset fun w mem => ?_)
    rcases List.mem_append.mp mem with inserted | later
    · rcases mem_of_mem_insert (Array.mem_toList_iff.mp inserted) with rfl | before
      · simp
      · simp [before]
    · simp [later]

/-- The run that begins a list is found, and nothing is lost: what it takes and what follows it are
values of the list. -/
theorem run_of_comparable (descending : Bool) (taken : List Value) {last : Value}
    {rest : List Value} (comparable : Comparable (last :: rest)) :
    ∃ ahead behind, run descending last taken rest = .ok (ahead, behind) ∧
      ahead ++ behind ⊆ taken ++ rest := by
  induction rest generalizing last taken with
  | nil => exact ⟨taken, [], rfl, fun _ mem => mem⟩
  | cons v rest ih =>
    obtain ⟨below, answer⟩ := comparable v (by simp) last (by simp)
    rw [run, answer]
    by_cases goesOn : (below == descending) = true
    · have fewer : Comparable (v :: rest) := comparable.subset (List.subset_cons_self _ _)
      obtain ⟨ahead, behind, ran, sub⟩ := ih (v :: taken) fewer
      refine ⟨ahead, behind, ?_, fun w mem => ?_⟩
      · exact (if_pos goesOn).trans ran
      · have := sub mem
        simp only [List.mem_append, List.mem_cons] at this ⊢
        tauto
    · exact ⟨taken, v :: rest, if_neg goesOn, fun _ mem => mem⟩

/-- Values every two of which have an order can be sorted. -/
theorem checkOrdered_of_comparable {values : List Value} (comparable : Comparable values) :
    checkOrdered values = .ok () := by
  match values with
  | [] => rfl
  | [_] => rfl
  | v :: w :: rest =>
    obtain ⟨descending, answer⟩ := comparable w (by simp) v (by simp)
    obtain ⟨ahead, behind, ran, sub⟩ := run_of_comparable descending [w, v]
      (comparable.subset (List.subset_cons_self _ _))
    have among : Comparable (ahead ++ behind) := comparable.subset fun u mem => by
      have := sub mem
      simp only [List.mem_append, List.mem_cons] at this ⊢
      tauto
    obtain ⟨all, inserted⟩ : ∃ all,
        insertAll (if descending then ahead else ahead.reverse).toArray behind = .ok all := by
      apply insertAll_of_comparable
      refine among.subset fun u mem => ?_
      cases descending <;> simpa using mem
    rw [checkOrdered, answer]
    simp only [bind, Except.bind, ran, inserted]
    rfl

end IndexScan.Value
