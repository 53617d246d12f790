import IndexScan.Profile.File
import IndexScan.Proofs.Directive.Grammar
import Mathlib.Tactic.Common

/-!
Loaded profiles. What is read from a file is a profile only if its directive denotes a mode
(`resolverMode_of_load`) and it has branches (`branches_of_load`).
-/

namespace IndexScan.Profile

theorem isDirective_of_modeOf {d : Datum} {text : String} (read : modeOf d = .ok text) :
    Directive.IsDirective text := by
  simp only [modeOf, bind, Except.bind] at read
  split at read
  · cases read
  · next found _ =>
    split at read
    · next mode parse =>
      cases read
      exact ⟨mode, parse⟩
    · cases read

theorem located_eq_ok {α : Type} {place : Place} {found : Datum} {reading : Except Cause α}
    {value : α} (ok : located place found reading = .ok value) : reading = .ok value := by
  cases reading with
  | ok other => exact congrArg _ (Except.ok.inj ok)
  | error cause => cases ok

theorem mapError_eq_ok {α ε ζ : Type} {reading : Except ε α} {wording : ε → ζ} {value : α}
    (ok : reading.mapError wording = .ok value) : reading = .ok value := by
  cases reading with
  | ok other => exact congrArg _ (Except.ok.inj ok)
  | error e => cases ok

/-- The directive of entries that are a profile denotes a mode. -/
theorem resolverMode_of_entries {entries : List (Datum × Datum)} {p : Profile}
    (read : ofEntries entries = .ok p) : ∃ mode, p.resolverMode = .ok mode := by
  unfold ofEntries at read
  simp only at read
  split at read
  · next name mode branches description _ directive _ _ =>
    cases read
    show Directive.IsDirective mode
    cases given : Datum.lookup? Field.mode.key entries with
    | none =>
      rw [given] at directive
      cases directive
      exact Directive.isDirective_default
    | some d =>
      rw [given] at directive
      exact isDirective_of_modeOf (located_eq_ok directive)
  · cases read

/-- Branches that have been admitted are some, and each of them is an unhardened index. -/
theorem branches_of_all {branches found : List Int} (read : Branch.all branches = .ok found) :
    found = branches ∧ branches ≠ [] ∧
      ∀ b ∈ branches, ∃ n : Nat, b = n ∧ n < hardenedBoundary := by
  rw [Branch.all] at read
  split_ifs at read with empty
  split at read
  · cases read
  · next none =>
    cases read
    refine ⟨rfl, fun nil => empty (by rw [nil]; rfl), fun b mem => ?_⟩
    have admitted := List.findSome?_eq_none_iff.mp none b mem
    cases b with
    | ofNat n =>
      refine ⟨n, rfl, ?_⟩
      by_contra large
      rw [Branch.refusal?, UnhardenedIndex.ofInt?, dif_neg large] at admitted
      split_ifs at admitted
    | negSucc n =>
      rw [Branch.refusal?, UnhardenedIndex.ofInt?] at admitted
      split_ifs at admitted

theorem all_of_branchesOf {d : Datum} {branches : List Int} (read : branchesOf d = .ok branches) :
    Branch.all branches = .ok branches := by
  rw [branchesOf] at read
  split at read
  · cases read
  · next items _ =>
    cases integers : integersFrom 0 items with
    | error problems =>
      rw [integers] at read
      cases read
    | ok ns =>
      rw [integers] at read
      have all := located_eq_ok read
      obtain ⟨rfl, -, -⟩ := branches_of_all all
      exact all

/-- Data that is a profile has branches that are admitted. -/
theorem all_of_entries {entries : List (Datum × Datum)} {p : Profile}
    (read : ofEntries entries = .ok p) : Branch.all p.branches = .ok p.branches := by
  unfold ofEntries at read
  simp only at read
  split at read
  · next name mode branches description _ _ listed _ =>
    cases read
    cases given : Datum.lookup? Field.branches.key entries with
    | none =>
      rw [given] at listed
      cases listed
      rfl
    | some d =>
      rw [given] at listed
      exact all_of_branchesOf listed
  · cases read

/-- A profile that is loaded from a file is given by the entries of a mapping. -/
theorem entries_of_load {path : String} {file : FileState} {p : Profile}
    (loaded : load path file = .ok p) : ∃ entries, ofEntries entries = .ok p := by
  simp only [load, loadWithin, bind, Except.bind] at loaded
  split at loaded
  · cases loaded
  · split at loaded
    · cases loaded
    · simp only [ofDocument, bind, Except.bind] at loaded
      split at loaded
      · cases loaded
      · next d _ =>
        cases d with
        | map entries => exact ⟨entries, mapError_eq_ok loaded⟩
        | _ => cases loaded

/-- A profile that is loaded from a file has a directive that denotes a mode. -/
theorem resolverMode_of_load {path : String} {file : FileState} {p : Profile}
    (loaded : load path file = .ok p) : ∃ mode, p.resolverMode = .ok mode := by
  obtain ⟨entries, read⟩ := entries_of_load loaded
  exact resolverMode_of_entries read

/-- It also has a branch. -/
theorem branches_of_load {path : String} {file : FileState} {p : Profile}
    (loaded : load path file = .ok p) : p.branches ≠ [] := by
  obtain ⟨entries, read⟩ := entries_of_load loaded
  exact (branches_of_all (all_of_entries read)).2.1

end IndexScan.Profile
