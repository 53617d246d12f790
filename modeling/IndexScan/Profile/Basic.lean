import IndexScan.Directive
import IndexScan.Profile.Branch

/-!
Profiles: the directive and the branches of a scan under a name. Data is a profile if all its parts
are in order; otherwise every part that is not has its problems reported.
-/

namespace IndexScan

/-- A scan profile. Its parts can be changed freely; only one that is made from data is sure to have a
valid directive and valid branches. -/
structure Profile where
  name : String
  mode : String
  branches : List Int
  description? : Option String
  deriving DecidableEq, Repr

namespace Profile

/-- The directive of a profile that gives none. -/
def defaultMode : String := "first20"

/-- The branches of a profile that gives none. -/
def defaultBranches : List Int := [0, 1]

/-- The mode that the profile's directive denotes. -/
def resolverMode (p : Profile) : Except DirectiveError Mode :=
  Directive.parse p.mode

/-- The text that a value is. -/
def textOf : Datum → Except Cause String
  | .str s => .ok s
  | .brokenText _ => .error .badText
  | .bytes bs =>
    match Utf8.decode bs with
    | .ok cs => .ok (String.ofList cs)
    | .error _ => .error .badText
  | _ => .error .notText

/-- The directive that a value is. -/
def modeOf (d : Datum) : Except Cause String := do
  let text ← textOf d
  match Directive.parse text with
  | .ok _ => return text
  | .error e => throw (.refused e.message)

/-- The description that a value is, or that there is none. -/
def descriptionOf : Datum → Except Cause (Option String)
  | .null => .ok none
  | d => (textOf d).map some

/-- A reading of a part, with the place and the value added to what is wrong. -/
def located {α : Type} (place : Place) (found : Datum) : Except Cause α → Except (List Problem) α
  | .ok value => .ok value
  | .error cause => .error [⟨place, cause, found⟩]

/-- The integers that values count as, the first of which is number `index`; every one that counts as
none has its problem reported. -/
def integersFrom (index : Nat) : List Datum → Except (List Problem) (List Int)
  | [] => .ok []
  | d :: rest =>
    match located (.item .branches index) d (Branch.ofDatum d), integersFrom (index + 1) rest with
    | .ok n, .ok ns => .ok (n :: ns)
    | .ok _, .error problems => .error problems
    | .error problems, .ok _ => .error problems
    | .error problems, .error more => .error (problems ++ more)

/-- The items of a value that has items in an order. -/
def itemsOf? : Datum → Option (List Datum)
  | .list items => some items
  | .tuple items => some items
  | .set items => some items
  | _ => none

/-- The branches that a value lists. -/
def branchesOf (d : Datum) : Except (List Problem) (List Int) := do
  match itemsOf? d with
  | none => located (.field .branches) d (.error .notList)
  | some items =>
    let ns ← integersFrom 0 items
    located (.field .branches) d (Branch.all ns)

/-- The problems of a reading. -/
def problemsOf {α : Type} : Except (List Problem) α → List Problem
  | .ok _ => []
  | .error problems => problems

/-- The profile that the entries of a mapping give. Keys that name no part are passed over. -/
def ofEntries (entries : List (Datum × Datum)) : Except (List Problem) Profile :=
  let part {α : Type} (field : Field) (absent : Except (List Problem) α)
      (read : Datum → Except (List Problem) α) : Except (List Problem) α :=
    ((Datum.lookup? field.key entries).map read).getD absent
  let simple {α : Type} (field : Field) (read : Datum → Except Cause α) (d : Datum) :
      Except (List Problem) α :=
    located (.field field) d (read d)
  let name := part .name (located (.field .name) (.map entries) (.error .missing))
    (simple .name textOf)
  let mode := part .mode (.ok defaultMode) (simple .mode modeOf)
  let branches := part .branches (.ok defaultBranches) branchesOf
  let description := part .description (.ok none) (simple .description descriptionOf)
  match name, mode, branches, description with
  | .ok name, .ok mode, .ok branches, .ok description => .ok ⟨name, mode, branches, description⟩
  | _, _, _, _ =>
    .error (problemsOf name ++ problemsOf mode ++ problemsOf branches ++ problemsOf description)

/-- The profile that a value is. -/
def ofDatum : Datum → Except (List Problem) Profile
  | .map entries => ofEntries entries
  | d => .error [⟨.whole, .notMapping, d⟩]

end Profile

end IndexScan
