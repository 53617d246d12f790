import IndexScan.Proofs.Json.Printed
import IndexScan.Proofs.Settings.Layering

/-!
Saving and loading settings. What a file holds after settings were saved in it is these settings
(`stored_of_save`), which two levels are enough to read (`not_givesOut_of_save`), and settings in
force are what the file holds with the values of the environment in their place (`load_eq`).
-/

namespace IndexScan.Settings

open Directive

/-! ### Layers -/

/-- The environment without variables. -/
def bare (directory : String) : Environment := ⟨none, none, directory⟩

/-- The settings that a file gives by itself, wherever it lies. -/
def stored (file : FileState) : Settings :=
  (load file (bare "")).1

/-- The settings in force are the stored ones under those of the environment. -/
theorem load_eq (file : FileState) (e : Environment) :
    (load file e).1 = (stored file).overlay (environmentLayer e).1 := by
  show (default.overlay (fileLayer e.path file).1).overlay (environmentLayer e).1 = _
  rw [fileLayer_values e.path (bare "").path]
  rfl

/-- Without variables they are the stored ones. -/
theorem load_bare (file : FileState) (directory : String) :
    (load file (bare directory)).1 = stored file :=
  load_eq file (bare directory)

/-! ### Saving -/

/-- What is written completely has no seed that is too long. -/
theorem fits_of_complete {s : Settings} (complete : s.document.render.complete = true) (n : Int)
    (seed : s.seed = some n) : Decimal.fits n = true := by
  have written : (Json.writtenInt true n).complete = true := by
    simpa only [document, seed, Json.render, Json.written, Json.writtenMembers,
      Json.Written.append_complete, Json.Written.of_complete, Bool.true_and, Bool.and_true] using
      complete
  cases fits : Decimal.fits n with
  | true => rfl
  | false => simp [Json.writtenInt, fits, Json.Written.broken] at written

/-- Saving succeeds only with a seed that can be written. -/
theorem save_eq_none {s : Settings} {file after : FileState} (saved : s.save file = (none, after)) :
    (∀ n, s.seed = some n → Decimal.fits n = true) ∧ after = .ofText s.document.render.text := by
  have complete : s.document.render.complete = true ∧ FileState.ofText s.document.render.text =
      after := by
    unfold save at saved
    split at saved
    · cases saved
    · simpa using saved
  exact ⟨fits_of_complete complete.1, complete.2.symm⟩

/-- The document of settings with a short seed is plain. -/
theorem document_isPlain {s : Settings} (short : ∀ n, s.seed = some n → Decimal.fits n = true) :
    Json.isPlain (some Decimal.limit) s.document = true := by
  cases seed : s.seed with
  | none => simp [document, seed, Json.isPlain, Json.membersArePlain]
  | some n =>
    have fits := (Decimal.fits_iff n).mp (short n seed)
    simp [document, seed, Json.isPlain, Json.membersArePlain, Json.admits, fits]

/-- A plain document is read from a file of its text, where it is not too deep. -/
theorem fileDocumentWithin_ofText {x : Json} (plain : Json.isPlain (some Decimal.limit) x = true)
    {levels : Levels} (holds : levels.Holds x.depth) :
    fileDocumentWithin levels (.ofText x.render.text) = .ok (some x) := by
  have printed : IsPrinted (Json.written .indented true 0 x).text :=
    Json.written_printed Json.Layout.indented_spaced x 0 plain
  have decoded := Utf8.decode_encode printed
  have unified := Lines.unify_of_isPrinted printed
  have read : Json.readWithin (some Decimal.limit) levels
      ((Json.written .indented true 0 x).text ++ []) = .ok x :=
    Json.read_written Json.Layout.indented_spaced (fun _ => rfl) plain holds Json.isSpacing_nil
  rw [List.append_nil] at read
  simp only [Json.render, fileDocumentWithin, FileState.ofText, decoded, unified, read]

theorem fileDocument_ofText {x : Json} (plain : Json.isPlain (some Decimal.limit) x = true) :
    fileDocument (.ofText x.render.text) = .ok (some x) :=
  fileDocumentWithin_ofText plain (Levels.holds_none _)

/-- Settings are nested two deep. -/
theorem depth_document (s : Settings) : s.document.depth = 2 := by
  cases seed : s.seed <;> simp [document, seed, Json.depth, Json.membersDepth]

/-- So no reader that has two levels gives out on saved settings. -/
theorem not_givesOut_of_save {s : Settings} {file after : FileState} {levels : Levels}
    (saved : s.save file = (none, after)) (roomy : levels.Holds 2) (holder : Json.Holder) :
    ¬ GivesOut levels after holder := by
  obtain ⟨short, rfl⟩ := save_eq_none saved
  have read := fileDocumentWithin_ofText (document_isPlain short)
    (show levels.Holds s.document.depth by rwa [depth_document])
  rw [← overflow?_eq_some_iff, overflow?, read]
  intro none
  cases none

/-- The document of settings gives these settings. -/
theorem documentLayer_document {s : Settings} (valid : IsDirective s.mode) (path : String) :
    documentLayer path s.document = (⟨some s.mode, some s.seed⟩, []) := by
  obtain ⟨mode, parse⟩ := valid
  cases seed : s.seed with
  | none =>
    have found : s.document.get? "scan" =
        some (.obj [("mode", .str s.mode), ("seed", .null)]) := by
      rw [document, seed]
      rfl
    simp [documentLayer, found, Json.lookup?, accepted, fileMode, parse, fileSeed]
  | some n =>
    have found : s.document.get? "scan" =
        some (.obj [("mode", .str s.mode), ("seed", .int n)]) := by
      rw [document, seed]
      rfl
    simp [documentLayer, found, Json.lookup?, accepted, fileMode, parse, fileSeed]

/-- Saved settings are the stored ones. -/
theorem stored_of_save {s : Settings} {file after : FileState} (valid : IsDirective s.mode)
    (saved : s.save file = (none, after)) : stored after = s := by
  obtain ⟨short, rfl⟩ := save_eq_none saved
  have layer : fileLayer (bare "").path (.ofText s.document.render.text) =
      (⟨some s.mode, some s.seed⟩, []) := by
    simp only [fileLayer, fileDocument_ofText (document_isPlain short),
      documentLayer_document valid]
  show default.overlay (fileLayer (bare "").path (.ofText s.document.render.text)).1 = s
  rw [layer]
  rfl

end IndexScan.Settings
