import IndexScan.Json.Reader
import IndexScan.Proofs.Levels
import Mathlib.Tactic.Common

/-!
Nested documents on a stack. With so many levels a document is read as without a bound, or the
reader gives out (`readWithin_agrees`); without a bound it never does (`read_not_tooDeep`). No
finite number of levels is enough for every text: one that opens more arrays than there are levels
is too deep (`readWithin_brackets`).
-/

namespace IndexScan.Json

open Levels

variable {limit : Option Nat} {fuel : Nat}

/-! ### With levels and without -/

/-- That a reader gave out. -/
def Stop.IsTooDeep (s : Stop) : Prop := ∃ holder, s = .tooDeep holder

/-- That a reader gave out. -/
def Refusal.IsTooDeep (r : Refusal) : Prop := ∃ holder, r = .tooDeep holder

/-- With so much fuel, levels make no difference but that the reader can give out. -/
structure Leveled (limit : Option Nat) (fuel : Nat) : Prop where
  value (levels : Levels) (cs : List Char) :
    Agrees Stop.IsTooDeep (value limit levels fuel cs) (value limit none fuel cs)
  items (levels : Levels) (cs : List Char) :
    Agrees Stop.IsTooDeep (items limit levels fuel cs) (items limit none fuel cs)
  members (levels : Levels) (cs : List Char) :
    Agrees Stop.IsTooDeep (members limit levels fuel cs) (members limit none fuel cs)

namespace Leveled

theorem value_succ (inside : Leveled limit fuel) (levels : Levels) (cs : List Char) :
    Agrees Stop.IsTooDeep (Json.value limit levels (fuel + 1) cs)
      (Json.value limit none (fuel + 1) cs) := by
  unfold Json.value
  split
  -- Only an array and an object take a level.
  case h_8 =>
    cases levels.inner? with
    | none => exact .gaveOut ⟨_, rfl⟩ _
    | some inner =>
      simp only [inner?_none]
      split
      · exact .refl _
      · exact (inside.items inner _).map _
  case h_9 =>
    cases levels.inner? with
    | none => exact .gaveOut ⟨_, rfl⟩ _
    | some inner =>
      simp only [inner?_none]
      split
      · exact .refl _
      · exact (inside.members inner _).map _
  all_goals exact .refl _

theorem items_succ (inside : Leveled limit fuel) (levels : Levels) (cs : List Char) :
    Agrees Stop.IsTooDeep (Json.items limit levels (fuel + 1) cs)
      (Json.items limit none (fuel + 1) cs) := by
  unfold Json.items
  refine (inside.value levels cs).bind fun (x, rest) => ?_
  dsimp only
  split
  · exact .refl _
  · exact (inside.items levels _).bind fun _ => .refl _
  · exact .refl _

theorem members_succ (inside : Leveled limit fuel) (levels : Levels) (cs : List Char) :
    Agrees Stop.IsTooDeep (Json.members limit levels (fuel + 1) cs)
      (Json.members limit none (fuel + 1) cs) := by
  unfold Json.members
  refine (Agrees.refl (memberName cs)).bind fun (key, colon) => ?_
  refine (inside.value levels _).bind fun (x, rest) => ?_
  dsimp only
  split
  · exact .refl _
  · exact (inside.members levels _).bind fun _ => .refl _
  · exact .refl _

end Leveled

theorem leveled (limit : Option Nat) (fuel : Nat) : Leveled limit fuel := by
  induction fuel with
  | zero => exact ⟨fun _ _ => .refl _, fun _ _ => .refl _, fun _ _ => .refl _⟩
  | succ fuel inside => exact ⟨inside.value_succ, inside.items_succ, inside.members_succ⟩

/-- With so many levels a document is read as without a bound, or the reader gives out. -/
theorem readWithin_agrees (limit : Option Nat) (levels : Levels) (cs : List Char) :
    Agrees Refusal.IsTooDeep (readWithin limit levels cs) (read limit cs) := by
  have documents : Agrees Stop.IsTooDeep (document limit levels cs) (document limit none cs) := by
    unfold document
    split
    · exact .refl _
    · exact ((leveled limit _).value levels _).bind fun _ => .refl _
  refine documents.mapError ?_
  rintro _ ⟨holder, rfl⟩
  exact ⟨holder, rfl⟩

/-! ### Without a bound -/

/-- A reading that does not say that the reader gave out. -/
def Stays {α : Type} (reading : Except Stop α) : Prop :=
  ∀ s, reading = .error s → ¬ s.IsTooDeep

theorem stays_ok {α : Type} (a : α) : Stays (.ok a) := nofun

theorem stays_stop {α : Type} (cause : Cause) (cs : List Char) : Stays (α := α) (stop cause cs) := by
  rintro _ ⟨⟩ ⟨_, ⟨⟩⟩

theorem Stays.bind {α β : Type} {x : Except Stop α} {f : α → Except Stop β} (first : Stays x)
    (next : ∀ a, Stays (f a)) : Stays (x >>= f) := by
  cases x with
  | error s =>
    rintro _ ⟨⟩
    exact first s rfl
  | ok a => exact next a

theorem Stays.map {α β : Type} {x : Except Stop α} (stays : Stays x) (f : α → β) :
    Stays (x.map f) := by
  cases x with
  | error s =>
    rintro _ ⟨⟩
    exact stays s rfl
  | ok a => exact stays_ok _

theorem points_stays (left : Nat) (cs : List Char) : Stays (points left cs) := by
  fun_induction points left cs with
  | case1 => rintro _ ⟨⟩ ⟨_, ⟨⟩⟩
  | case2 => rintro _ ⟨⟩ ⟨_, ⟨⟩⟩
  | case3 => exact stays_ok _
  | _ => first | exact stays_stop _ _ | exact Stays.map ‹_› _

theorem text_stays (cs : List Char) : Stays (text cs) :=
  (points_stays _ cs).map _

theorem number_stays (limit : Option Nat) (negative : Bool) (whole after : List Char) :
    Stays (number limit negative whole after) := by
  unfold number
  dsimp only
  split
  · exact stays_ok _
  · split
    · exact stays_ok _
    · split
      · rintro _ ⟨⟩ ⟨_, ⟨⟩⟩
      · exact stays_ok _

theorem signed_stays (limit : Option Nat) (start : List Char) (negative : Bool) (cs : List Char) :
    Stays (signed limit start negative cs) := by
  unfold signed
  split
  · exact number_stays _ _ _ _
  · split_ifs
    · exact number_stays _ _ _ _
    · exact stays_stop _ _
  · exact stays_stop _ _

theorem memberName_stays (cs : List Char) : Stays (memberName cs) := by
  unfold memberName
  split
  · refine (points_stays _ _).bind fun (ns, rest) => ?_
    dsimp only
    split
    · exact stays_ok _
    · exact stays_stop _ _
  · exact stays_stop _ _

/-- With so much fuel, no reader gives out that has no bound. -/
structure Unbounded (limit : Option Nat) (fuel : Nat) : Prop where
  value (cs : List Char) : Stays (value limit none fuel cs)
  items (cs : List Char) : Stays (items limit none fuel cs)
  members (cs : List Char) : Stays (members limit none fuel cs)

namespace Unbounded

theorem value_succ (inside : Unbounded limit fuel) (cs : List Char) :
    Stays (Json.value limit none (fuel + 1) cs) := by
  unfold Json.value
  split
  case h_7 => exact text_stays _
  case h_8 =>
    simp only [inner?_none]
    split
    · exact stays_ok _
    · exact (inside.items _).map _
  case h_9 =>
    simp only [inner?_none]
    split
    · exact stays_ok _
    · exact (inside.members _).map _
  case h_10 => exact signed_stays _ _ _ _
  case h_11 => exact signed_stays _ _ _ _
  all_goals exact stays_ok _

theorem items_succ (inside : Unbounded limit fuel) (cs : List Char) :
    Stays (Json.items limit none (fuel + 1) cs) := by
  unfold Json.items
  refine (inside.value cs).bind fun (x, rest) => ?_
  dsimp only
  split
  · exact stays_ok _
  · exact (inside.items _).bind fun _ => stays_ok _
  · exact stays_stop _ _

theorem members_succ (inside : Unbounded limit fuel) (cs : List Char) :
    Stays (Json.members limit none (fuel + 1) cs) := by
  unfold Json.members
  refine (memberName_stays cs).bind fun (key, colon) => (inside.value _).bind fun (x, rest) => ?_
  dsimp only
  split
  · exact stays_ok _
  · exact (inside.members _).bind fun _ => stays_ok _
  · exact stays_stop _ _

end Unbounded

theorem unbounded (limit : Option Nat) (fuel : Nat) : Unbounded limit fuel := by
  induction fuel with
  | zero => exact ⟨stays_stop _, stays_stop _, stays_stop _⟩
  | succ fuel inside => exact ⟨inside.value_succ, inside.items_succ, inside.members_succ⟩

theorem read_not_tooDeep (limit : Option Nat) (cs : List Char) (holder : Holder) :
    read limit cs ≠ .error (.tooDeep holder) := by
  have stays : Stays (document limit none cs) := by
    unfold document
    split
    · exact stays_stop _ _
    · refine ((unbounded limit _).value _).bind fun (x, rest) => ?_
      dsimp only
      split
      · exact stays_ok _
      · exact stays_stop _ _
  intro gave
  unfold read readWithin at gave
  cases result : document limit none cs with
  | ok x =>
    rw [result] at gave
    cases gave
  | error s =>
    rw [result] at gave
    cases s with
    | tooDeep other => exact stays _ result ⟨other, rfl⟩
    | _ => cases gave

/-! ### Too deep -/

/-- Brackets that open one array more than there are levels are too many. The induction is on the
levels, and an array takes two of fuel. -/
theorem value_brackets (n : Nat) (rest : List Char) (enough : 2 * n < fuel) :
    value limit (some n) fuel (List.replicate (n + 1) '[' ++ rest) = .error (.tooDeep .array) := by
  induction n generalizing fuel with
  | zero =>
    obtain ⟨fuel, rfl⟩ := Nat.exists_eq_add_of_lt enough
    rfl
  | succ n ih =>
    obtain ⟨fuel, rfl⟩ : ∃ m, fuel = m + 2 := ⟨fuel - 2, by omega⟩
    have inside : items limit (some n) (fuel + 1) (List.replicate (n + 1) '[' ++ rest) =
        .error (.tooDeep .array) := by
      rw [items, ih (by omega)]
      rfl
    change Except.map _ (items limit (some n) (fuel + 1) (List.replicate (n + 1) '[' ++ rest)) = _
    rw [inside]
    rfl

/-- No finite number of levels is enough for every text. -/
theorem readWithin_brackets (limit : Option Nat) (n : Nat) (rest : List Char) :
    readWithin limit (some n) (List.replicate (n + 1) '[' ++ rest) = .error (.tooDeep .array) := by
  have enough : 2 * n < 2 * (List.replicate (n + 1) '[' ++ rest).length + 1 := by
    simp only [List.length_append, List.length_replicate]
    omega
  have read := @value_brackets limit _ n rest enough
  have solid : skipGap (List.replicate (n + 1) '[' ++ rest) = List.replicate (n + 1) '[' ++ rest :=
    rfl
  have marked : (List.replicate (n + 1) '[' ++ rest).head? ≠ some (Char.ofNat 0xFEFF) := by
    rw [List.replicate_succ, List.cons_append, List.head?_cons]
    decide
  rw [readWithin, document, if_neg marked, solid]
  simp only [read, bind, Except.bind]
  rfl

end IndexScan.Json
