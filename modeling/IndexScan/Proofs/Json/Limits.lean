import IndexScan.Proofs.Json.RoundTrip
import IndexScan.Proofs.Text.Numeral

/-!
Integers of documents. A document is written to its end exactly if no integer in it is too long, at
any depth (`render_complete_iff`). A reader that takes integers of at most `Decimal.limit` digits
gives such documents only (`read_writable`).
-/

namespace IndexScan.Json

/-- Documents without integers that are too long to be written. -/
inductive Writable : Json → Prop where
  | null : Writable .null
  | bool (b : Bool) : Writable (.bool b)
  | int {n : Int} (fits : Decimal.fits n = true) : Writable (.int n)
  | float (x : Binary64) : Writable (.float x)
  | str (s : String) : Writable (.str s)
  | brokenText (points : List Nat) : Writable (.brokenText points)
  | arr {items : List Json} (all : ∀ x ∈ items, Writable x) : Writable (.arr items)
  | obj {members : List (String × Json)} (all : ∀ m ∈ members, Writable m.2) :
      Writable (.obj members)

/-! ### Writing -/

section

variable {l : Layout}

theorem writable_arr_iff {xs : List Json} : Writable (.arr xs) ↔ ∀ x ∈ xs, Writable x :=
  ⟨fun | .arr all => all, .arr⟩

theorem writable_obj_iff {ms : List (String × Json)} :
    Writable (.obj ms) ↔ ∀ m ∈ ms, Writable m.2 :=
  ⟨fun | .obj all => all, .obj⟩

theorem writable_int_iff {n : Int} : Writable (.int n) ↔ Decimal.fits n = true :=
  ⟨fun | .int fits => fits, .int⟩

theorem writtenInt_complete_iff (n : Int) :
    (writtenInt true n).complete = true ↔ Writable (.int n) := by
  rw [writable_int_iff]
  cases short : Decimal.fits n <;> simp [writtenInt, short, Written.of, Written.broken]

mutual

/-- A writer that limits integers comes to the end of a document exactly if it can be written. -/
theorem written_complete_iff :
    ∀ (x : Json) (level : Nat), (written l true level x).complete = true ↔ Writable x
  | null, _ => iff_of_true rfl .null
  | bool b, _ => iff_of_true rfl (.bool b)
  | int n, _ => writtenInt_complete_iff n
  | float x, _ => iff_of_true rfl (.float x)
  | str s, _ => iff_of_true rfl (.str s)
  | brokenText points, _ => iff_of_true rfl (.brokenText points)
  | arr [], _ => iff_of_true (by simp [written]) (.arr (by simp))
  | arr (x :: xs), level => by
    rw [writable_arr_iff, List.forall_mem_cons, ← written_complete_iff x (level + 1),
      ← writtenItems_complete_iff xs level]
    simp [written, Written.append_complete]
  | obj [], _ => iff_of_true (by simp [written]) (.obj (by simp))
  | obj ((k, x) :: ms), level => by
    rw [writable_obj_iff, List.forall_mem_cons, ← written_complete_iff x (level + 1),
      ← writtenMembers_complete_iff ms level]
    simp [written, Written.append_complete]

theorem writtenItems_complete_iff :
    ∀ (xs : List Json) (level : Nat),
      (writtenItems l true level xs).complete = true ↔ ∀ x ∈ xs, Writable x
  | [], _ => by simp [writtenItems]
  | x :: xs, level => by
    rw [List.forall_mem_cons, ← written_complete_iff x (level + 1),
      ← writtenItems_complete_iff xs level]
    simp [writtenItems, Written.append_complete]

theorem writtenMembers_complete_iff :
    ∀ (ms : List (String × Json)) (level : Nat),
      (writtenMembers l true level ms).complete = true ↔ ∀ m ∈ ms, Writable m.2
  | [], _ => by simp [writtenMembers]
  | (k, x) :: ms, level => by
    rw [List.forall_mem_cons, ← written_complete_iff x (level + 1),
      ← writtenMembers_complete_iff ms level]
    simp [writtenMembers, Written.append_complete]

end

theorem render_complete_iff {x : Json} : x.render.complete = true ↔ Writable x :=
  written_complete_iff x 0

theorem writable_of_isPlain {x : Json} (plain : isPlain (some Decimal.limit) x = true) :
    Writable x :=
  render_complete_iff.mp (written_complete (fun _ => rfl) x 0 plain)

end

/-! ### Members -/

/-- What holds of all values of some pairs holds of all that are kept of them. -/
theorem forall_ofPairs {α : Type} {P : α → Prop} {pairs : List (String × α)}
    (all : ∀ p ∈ pairs, P p.2) : ∀ p ∈ ofPairs pairs, P p.2 := by
  refine forall_ofPairs_iff.mpr fun key value found => ?_
  obtain ⟨p, mem, rfl⟩ := exists_mem_of_lookup? found
  exact all p (List.mem_reverse.mp mem)

theorem Writable.get? {x y : Json} {key : String} (writable : Writable x)
    (found : x.get? key = some y) : Writable y := by
  cases writable with
  | obj all =>
    obtain ⟨p, mem, rfl⟩ := exists_mem_of_lookup? found
    exact all p mem
  | _ => cases found

/-! ### Numbers -/

variable {cs whole after rest : List Char} {x : Json} {negative : Bool}

theorem value_lt_of_length_le (digits : ∀ c ∈ whole, c.isDigit = true) {k : Nat}
    (short : whole.length ≤ k) : Decimal.value whole < Nat.pow 10 k :=
  Nat.lt_of_lt_of_le (Decimal.value_lt digits) (Nat.pow_le_pow_right (by decide) short)

theorem number_writable (digits : ∀ c ∈ whole, c.isDigit = true)
    (read : number (some Decimal.limit) negative whole after = .ok (x, rest)) : Writable x := by
  unfold number at read
  dsimp only at read
  split at read
  · cases read
    exact .float _
  · split_ifs at read with part long
    · cases read
      exact .float _
    all_goals
      have short : whole.length ≤ Decimal.limit := by simpa using long
      cases read
      refine .int ?_
      rw [Decimal.fits, decide_eq_true_eq]
    · rw [Int.natAbs_neg]
      exact value_lt_of_length_le digits short
    · exact value_lt_of_length_le digits short

theorem signed_writable {start : List Char}
    (read : signed (some Decimal.limit) start negative cs = .ok (x, rest)) : Writable x := by
  unfold signed at read
  split at read
  · exact number_writable (by simp) read
  · next c rest =>
    split_ifs at read with digit
    · refine number_writable (fun d mem => ?_) read
      rcases List.mem_cons.mp mem with rfl | mem
      · exact digit
      · exact List.mem_takeWhile_imp mem
    · cases read
  · cases read

/-! ### Reading -/

theorem map_eq_ok {ε α β : Type} {f : α → β} {result : Except ε α} {y : β} :
    result.map f = .ok y ↔ ∃ x, result = .ok x ∧ f x = y := by
  cases result <;> simp [Except.map]

theorem bind_eq_ok {ε α β : Type} {f : α → Except ε β} {result : Except ε α} {y : β} :
    result >>= f = .ok y ↔ ∃ x, result = .ok x ∧ f x = .ok y := by
  cases result <;> simp [bind, Except.bind]

theorem text_writable (read : text cs = .ok (x, rest)) : Writable x := by
  unfold text at read
  cases quoted : points (cs.length + 1) cs with
  | error why => rw [quoted] at read; cases read
  | ok result =>
    rw [quoted] at read
    cases read
    unfold ofPoints
    split
    · exact .str _
    · exact .brokenText _

/-- With so much fuel, whatever is read can be written. -/
structure ReadsWritable (fuel : Nat) : Prop where
  value {levels : Levels} {cs rest : List Char} {x : Json}
    (read : Json.value (some Decimal.limit) levels fuel cs = .ok (x, rest)) : Writable x
  items {levels : Levels} {cs rest : List Char} {xs : List Json}
    (read : Json.items (some Decimal.limit) levels fuel cs = .ok (xs, rest)) : ∀ x ∈ xs, Writable x
  members {levels : Levels} {cs rest : List Char} {ms : List (String × Json)}
    (read : Json.members (some Decimal.limit) levels fuel cs = .ok (ms, rest)) :
    ∀ m ∈ ms, Writable m.2

namespace ReadsWritable

variable {fuel : Nat} {levels : Levels}

theorem zero : ReadsWritable 0 := by
  refine ⟨fun read => ?_, fun read => ?_, fun read => ?_⟩ <;> cases read

theorem value_succ (inner : ReadsWritable fuel)
    (read : Json.value (some Decimal.limit) levels (fuel + 1) cs = .ok (x, rest)) : Writable x := by
  unfold Json.value at read
  split at read
  · cases read
    exact .null
  · cases read
    exact .bool _
  · cases read
    exact .bool _
  · cases read
    exact .float _
  · cases read
    exact .float _
  · cases read
    exact .float _
  · exact text_writable read
  · split at read
    · cases read
    · split at read
      · cases read
        exact .arr (by simp)
      · obtain ⟨found, items, same⟩ := map_eq_ok.mp read
        cases same
        exact .arr (inner.items items)
  · split at read
    · cases read
    · split at read
      · cases read
        exact .obj (by simp)
      · obtain ⟨found, members, same⟩ := map_eq_ok.mp read
        cases same
        exact .obj (forall_ofPairs (inner.members members))
  · exact signed_writable read
  · exact signed_writable read

theorem items_succ {xs : List Json} (inner : ReadsWritable fuel)
    (read : Json.items (some Decimal.limit) levels (fuel + 1) cs = .ok (xs, rest)) :
    ∀ x ∈ xs, Writable x := by
  obtain ⟨⟨x, after⟩, item, read⟩ := bind_eq_ok.mp read
  dsimp only at read
  split at read
  · cases read
    simpa using inner.value item
  · obtain ⟨⟨xs, last⟩, items, same⟩ := bind_eq_ok.mp read
    cases same
    exact List.forall_mem_cons.mpr ⟨inner.value item, inner.items items⟩
  · cases read

theorem members_succ {ms : List (String × Json)} (inner : ReadsWritable fuel)
    (read : Json.members (some Decimal.limit) levels (fuel + 1) cs = .ok (ms, rest)) :
    ∀ m ∈ ms, Writable m.2 := by
  obtain ⟨⟨key, colon⟩, name, read⟩ := bind_eq_ok.mp read
  obtain ⟨⟨x, after⟩, item, read⟩ := bind_eq_ok.mp read
  dsimp only at read
  split at read
  · cases read
    simpa using inner.value item
  · obtain ⟨⟨ms, last⟩, members, same⟩ := bind_eq_ok.mp read
    cases same
    exact List.forall_mem_cons.mpr ⟨inner.value item, inner.members members⟩
  · cases read

end ReadsWritable

theorem readsWritable (fuel : Nat) : ReadsWritable fuel := by
  induction fuel with
  | zero => exact .zero
  | succ fuel ih => exact ⟨ih.value_succ, ih.items_succ, ih.members_succ⟩

/-- A document that was read can be written. -/
theorem read_writable (read : Json.read (some Decimal.limit) cs = .ok x) : Writable x := by
  have document : document (some Decimal.limit) none cs = .ok x := by
    unfold Json.read readWithin at read
    cases result : Json.document (some Decimal.limit) none cs with
    | error why => rw [result] at read; cases read
    | ok y => rw [result] at read; cases read; rfl
  unfold Json.document at document
  split at document
  · cases document
  · obtain ⟨⟨y, rest⟩, value, document⟩ := bind_eq_ok.mp document
    dsimp only at document
    split at document
    · cases document
      exact (readsWritable _).value value
    · cases document

end IndexScan.Json
