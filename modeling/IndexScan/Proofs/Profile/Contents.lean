import IndexScan.Profile.File
import IndexScan.Proofs.Yaml.Levels

/-!
What files hold. With so much room bytes are an error or a profile, as the relation `Loads` spells out
(`loads_iff`). With more room they are the same, unless they are nested too deep for less
(`loadWithin_agrees`).
-/

namespace IndexScan.Profile

open Levels

variable {room : Yaml.Room} {bytes : List UInt8} {result : Except LoadError Profile}

/-- What loading bytes comes to with so much room. -/
inductive Loads (room : Yaml.Room) (bytes : List UInt8) : Except LoadError Profile → Prop where
  | encoding {fault : Utf8.Fault} (undecoded : Utf8.decode bytes = .error fault) :
      Loads room bytes (.error (.encoding (pieceFault fault)))
  | document {cs : List Char} {e : Yaml.Error} (decoded : Utf8.decode bytes = .ok cs)
      (refused : Yaml.readWithin room (Lines.unify cs) = .error e) :
      Loads room bytes (.error (.document e))
  | notMapping {cs : List Char} {d : Datum} (decoded : Utf8.decode bytes = .ok cs)
      (read : Yaml.readWithin room (Lines.unify cs) = .ok d)
      (other : ∀ entries, d ≠ .map entries) : Loads room bytes (.error .notMapping)
  | invalid {cs : List Char} {entries : List (Datum × Datum)} {problems : List Problem}
      (decoded : Utf8.decode bytes = .ok cs)
      (read : Yaml.readWithin room (Lines.unify cs) = .ok (.map entries))
      (refused : ofEntries entries = .error problems) :
      Loads room bytes (.error (.invalid problems))
  | profile {cs : List Char} {entries : List (Datum × Datum)} {profile : Profile}
      (decoded : Utf8.decode bytes = .ok cs)
      (read : Yaml.readWithin room (Lines.unify cs) = .ok (.map entries))
      (given : ofEntries entries = .ok profile) : Loads room bytes (.ok profile)

theorem loadWithin_loads (room : Yaml.Room) (path : String) (bytes : List UInt8) :
    Loads room bytes (loadWithin room path (.regular bytes)) := by
  simp only [loadWithin, FileState.bytes?, Except.mapError, bind, Except.bind]
  cases decoded : Utf8.decode bytes with
  | error fault => exact .encoding decoded
  | ok cs =>
    simp only [ofDocument, bind, Except.bind, Except.mapError]
    cases read : Yaml.readWithin room (Lines.unify cs) with
    | error e => exact .document decoded read
    | ok d =>
      cases d with
      | map entries =>
        dsimp only
        cases given : ofEntries entries with
        | error problems => exact .invalid decoded read given
        | ok profile => exact .profile decoded read given
      | _ => exact .notMapping decoded read (by simp)

theorem Loads.loadWithin_eq (loads : Loads room bytes result) (path : String) :
    loadWithin room path (.regular bytes) = result := by
  cases loads with
  | encoding undecoded =>
    simp only [loadWithin, FileState.bytes?, Except.mapError, bind, Except.bind, undecoded]
  | document decoded refused =>
    simp only [loadWithin, FileState.bytes?, Except.mapError, bind, Except.bind, decoded,
      ofDocument, refused]
  | @notMapping cs d decoded read other =>
    simp only [loadWithin, FileState.bytes?, Except.mapError, bind, Except.bind, decoded,
      ofDocument, read]
    cases d with
    | map entries => exact absurd rfl (other entries)
    | _ => rfl
  | invalid decoded read refused =>
    simp only [loadWithin, FileState.bytes?, Except.mapError, bind, Except.bind, decoded,
      ofDocument, read, refused]
  | profile decoded read given =>
    simp only [loadWithin, FileState.bytes?, Except.mapError, bind, Except.bind, decoded,
      ofDocument, read, given]

/-- Bytes hold exactly what loading them gives, wherever they stand. -/
theorem loads_iff {path : String} :
    Loads room bytes result ↔ loadWithin room path (.regular bytes) = result := by
  constructor
  · intro loads
    exact loads.loadWithin_eq path
  · rintro rfl
    exact loadWithin_loads room path bytes

theorem Loads.unique {other : Except LoadError Profile} (loads : Loads room bytes result)
    (loads' : Loads room bytes other) : result = other :=
  (loads.loadWithin_eq "").symm.trans (loads'.loadWithin_eq "")

/-- That the reader gave out. -/
def LoadError.IsTooDeep (e : LoadError) : Prop := e = .document .tooDeep

/-- With so much room a profile is loaded as with room for everything, or the reader gives out. -/
theorem loadWithin_agrees (room : Yaml.Room) (path : String) (file : FileState) :
    Agrees LoadError.IsTooDeep (loadWithin room path file) (load path file) := by
  unfold load loadWithin
  refine (Agrees.refl _).bind fun bytes => (Agrees.refl _).bind fun cs => ?_
  have read : Agrees LoadError.IsTooDeep
      ((Yaml.readWithin room (Lines.unify cs)).mapError LoadError.document)
      ((Yaml.readWithin .ample (Lines.unify cs)).mapError LoadError.document) := by
    refine (Yaml.readWithin_agrees room _).mapError fun e deep => ?_
    exact congrArg LoadError.document deep
  exact read.bind fun _ => .refl _

/-- A result that is not that the reader gave out is the same with room for everything. -/
theorem load_of_loadWithin {path : String} {file : FileState}
    (loaded : loadWithin room path file = result) (shallow : result ≠ .error (.document .tooDeep)) :
    load path file = result := by
  rw [← loaded]
  refine ((loadWithin_agrees room path file).eq fun e gave deep => shallow ?_).symm
  rw [← loaded, gave, deep]

end IndexScan.Profile
