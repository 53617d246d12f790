import IndexScan.Json.Basic
import Mathlib.Data.List.Induction

/-!
Pairs of keys and values. Setting a key changes what is found under it and under no other key, and
pairs with distinct keys are what setting these keys one by one gives. Setting any keys one by one
leaves each at the place where it was set first (`keys_ofPairs`), with what it was set to last
(`lookup?_ofPairs`).
-/

namespace IndexScan.Json

variable {α : Type} {key other : String} {value : α} {pairs : List (String × α)}

theorem lookup?_nil : lookup? key ([] : List (String × α)) = none := rfl

theorem lookup?_cons {v : α} :
    lookup? key ((other, v) :: pairs) = if other = key then some v else lookup? key pairs := by
  by_cases same : other = key <;> simp [lookup?, same]

@[simp] theorem lookup?_insert_self : lookup? key (insert key value pairs) = some value := by
  induction pairs with
  | nil => simp [insert, lookup?_cons]
  | cons p rest ih =>
    obtain ⟨k, v⟩ := p
    by_cases same : k = key
    · simp [insert, same, lookup?_cons]
    · simp [insert, same, lookup?_cons, ih]

@[simp] theorem lookup?_insert_of_ne (differ : other ≠ key) :
    lookup? other (insert key value pairs) = lookup? other pairs := by
  induction pairs with
  | nil => simp [insert, lookup?_cons, lookup?_nil, Ne.symm differ]
  | cons p rest ih =>
    obtain ⟨k, v⟩ := p
    by_cases same : k = key
    · subst same
      simp [insert, lookup?_cons, Ne.symm differ]
    · simp [insert, same, lookup?_cons, ih]

/-- Pairs with other keys stay in front. -/
theorem insert_append_of_not_mem {front : List (String × α)} (fresh : key ∉ front.map (·.1)) :
    insert key value (front ++ pairs) = front ++ insert key value pairs := by
  induction front with
  | nil => rfl
  | cons p front ih =>
    obtain ⟨k, v⟩ := p
    simp only [List.map_cons, List.mem_cons, not_or] at fresh
    rw [List.cons_append, insert, if_neg (Ne.symm fresh.1), ih fresh.2, List.cons_append]

/-- A new key goes to the end. -/
theorem insert_of_not_mem (fresh : key ∉ pairs.map (·.1)) :
    insert key value pairs = pairs ++ [(key, value)] := by
  have last : insert key value (pairs ++ []) = pairs ++ insert key value [] :=
    insert_append_of_not_mem fresh
  rwa [List.append_nil] at last

/-- A key that is there keeps its place, and so do all others. -/
theorem keys_insert_of_mem (mem : key ∈ pairs.map (·.1)) :
    (insert key value pairs).map (·.1) = pairs.map (·.1) := by
  induction pairs with
  | nil => cases mem
  | cons p rest ih =>
    obtain ⟨k, v⟩ := p
    by_cases same : k = key
    · simp [insert, same]
    · have later : key ∈ rest.map (·.1) := (List.mem_cons.mp mem).resolve_left (Ne.symm same)
      rw [insert, if_neg same, List.map_cons, ih later, List.map_cons]

/-- Setting distinct new keys one after the other appends the pairs. -/
theorem foldl_insert (kept : List (String × α)) (distinct : ((kept ++ pairs).map (·.1)).Nodup) :
    pairs.foldl (fun kept p => insert p.1 p.2 kept) kept = kept ++ pairs := by
  induction pairs generalizing kept with
  | nil => simp
  | cons p rest ih =>
    obtain ⟨k, v⟩ := p
    have fresh : k ∉ kept.map (·.1) := by
      intro mem
      rw [List.map_append, List.nodup_append] at distinct
      exact distinct.2.2 k mem k (by simp) rfl
    rw [List.foldl_cons, insert_of_not_mem fresh, ih _ (by simpa using distinct)]
    simp

/-- Pairs with distinct keys are kept as they are. -/
theorem ofPairs_of_nodup (distinct : (pairs.map (·.1)).Nodup) : ofPairs pairs = pairs :=
  foldl_insert [] distinct

/-! ### Keys that are set again -/

theorem ofPairs_append (pairs later : List (String × α)) :
    ofPairs (pairs ++ later) = later.foldl (fun kept p => insert p.1 p.2 kept) (ofPairs pairs) :=
  List.foldl_append

/-- The keys stand in the order in which they were set first. -/
theorem keys_ofPairs (pairs : List (String × α)) :
    (ofPairs pairs).map (·.1) = (pairs.map (·.1)).eraseDups := by
  induction pairs using List.reverseRecOn with
  | nil => rfl
  | append_singleton pairs p ih =>
    rw [ofPairs_append, List.foldl_cons, List.foldl_nil, List.map_append, List.map_singleton,
      List.eraseDups_append]
    by_cases mem : p.1 ∈ pairs.map (·.1)
    · have kept : p.1 ∈ (ofPairs pairs).map (·.1) := by
        rw [ih]
        exact List.mem_eraseDups.mpr mem
      have none : [p.1].removeAll (pairs.map (·.1)) = [] := by simp [List.removeAll, mem]
      rw [keys_insert_of_mem kept, ih, none, List.eraseDups_nil, List.append_nil]
    · have fresh : p.1 ∉ (ofPairs pairs).map (·.1) := by
        rw [ih]
        exact fun kept => mem (List.mem_eraseDups.mp kept)
      have one : [p.1].removeAll (pairs.map (·.1)) = [p.1] := by simp [List.removeAll, mem]
      rw [insert_of_not_mem fresh, List.map_append, ih, one]
      rfl

/-- Under each key stands what it was set to last. -/
theorem lookup?_ofPairs (key : String) (pairs : List (String × α)) :
    lookup? key (ofPairs pairs) = lookup? key pairs.reverse := by
  induction pairs using List.reverseRecOn with
  | nil => rfl
  | append_singleton pairs p ih =>
    obtain ⟨k, v⟩ := p
    rw [ofPairs_append, List.foldl_cons, List.foldl_nil, List.reverse_append,
      List.reverse_singleton, List.singleton_append, lookup?_cons]
    by_cases same : k = key
    · rw [if_pos same, same, lookup?_insert_self]
    · rw [if_neg same, lookup?_insert_of_ne (Ne.symm same), ih]

theorem nodup_ofPairs (pairs : List (String × α)) : ((ofPairs pairs).map (·.1)).Nodup := by
  induction pairs using List.reverseRecOn with
  | nil => exact List.nodup_nil
  | append_singleton pairs p ih =>
    rw [ofPairs_append, List.foldl_cons, List.foldl_nil]
    by_cases mem : p.1 ∈ (ofPairs pairs).map (·.1)
    · rwa [keys_insert_of_mem mem]
    · rw [insert_of_not_mem mem, List.map_append, List.map_singleton]
      exact List.nodup_append.mpr ⟨ih, List.pairwise_singleton _ _, fun k old l new same =>
        mem (List.mem_singleton.mp new ▸ same ▸ old)⟩

theorem exists_mem_of_lookup? (found : lookup? key pairs = some value) :
    ∃ p ∈ pairs, p.2 = value := by
  obtain ⟨p, first, rfl⟩ := Option.map_eq_some_iff.mp found
  exact ⟨p, List.mem_of_find?_eq_some first, rfl⟩

/-- Among pairs with distinct keys each is found under its key. -/
theorem lookup?_of_mem (distinct : (pairs.map (·.1)).Nodup) {p : String × α} (mem : p ∈ pairs) :
    lookup? p.1 pairs = some p.2 := by
  induction pairs with
  | nil => cases mem
  | cons q rest ih =>
    obtain ⟨fresh, distinct⟩ := List.nodup_cons.mp distinct
    rcases List.mem_cons.mp mem with rfl | mem
    · rw [lookup?_cons, if_pos rfl]
    · have other : q.1 ≠ p.1 := fun same => fresh (List.mem_map.mpr ⟨p, mem, same.symm⟩)
      rw [lookup?_cons, if_neg other, ih distinct mem]

/-- What holds of all that some keys were set to last holds of all that is kept. -/
theorem forall_ofPairs_iff {P : α → Prop} : (∀ p ∈ ofPairs pairs, P p.2) ↔
    ∀ key value, lookup? key pairs.reverse = some value → P value := by
  simp only [← lookup?_ofPairs]
  constructor
  · intro all key value found
    obtain ⟨p, mem, rfl⟩ := exists_mem_of_lookup? found
    exact all p mem
  · intro all p mem
    exact all p.1 p.2 (lookup?_of_mem (nodup_ofPairs pairs) mem)

end IndexScan.Json
