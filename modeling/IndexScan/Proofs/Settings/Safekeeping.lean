import IndexScan.Proofs.Json.Unfinished
import IndexScan.Proofs.Settings.Seeds

/-!
What saving makes of a settings file. Settings that were loaded are saved whole: what is loaded
afterwards is what was saved, with the environment or without it, and saving it again writes the
same bytes (`load_stable`).

Settings made by hand may have a seed of any length, and a seed that is too long to be written
breaks the text off. The old text is gone by then: all that is left is the opening of the document
(`save_of_long`), which no reader takes (`not_holds_opening`). Where such a seed meets a file that
can be written, and only there, saving can fall short of all or nothing (`save_whole_iff`).
-/

namespace IndexScan.Settings

open Directive

/-! ### Saving what was loaded -/

/-- Values that are put in place twice are put in place once. -/
theorem overlay_overlay (s : Settings) (l : Layer) : (s.overlay l).overlay l = s.overlay l := by
  obtain ⟨mode?, seed?⟩ := l
  cases mode? <;> cases seed? <;> rfl

/-- Loading again behind a save gives what was saved, if that held the values of the environment. -/
theorem load_of_stored {s : Settings} {after : FileState} {e : Environment}
    (stored : stored after = s.overlay (environmentLayer e).1) :
    (load after e).1 = s.overlay (environmentLayer e).1 := by
  rw [load_eq, stored, overlay_overlay]

/-- Whatever is loaded can be saved wherever no directory is in the way. The file then holds the
whole document, and what is loaded from it is what was saved, under the same environment and without
its variables; saving that once more leaves every byte as it is. -/
theorem load_stable (file : FileState) (e : Environment) (free : file ≠ .directory) :
    let s := (load file e).1
    ∃ after, s.save file = (none, after) ∧ Holds after s.document ∧ (load after e).1 = s ∧
      ∀ directory, (load after ⟨none, none, directory⟩).1 = s ∧
        (load after ⟨none, none, directory⟩).1.save after = (none, after) := by
  intro s
  have short : ∀ n, s.seed = some n → Decimal.fits n = true := fun n => fits_load
  have saved : s.save file = (none, .ofText s.document.render.text) := save_of_fits short free
  have stored : stored (.ofText s.document.render.text) = s :=
    stored_of_save (isDirective_load file e) saved
  refine ⟨_, saved, ?_, load_of_stored stored, fun directory => ?_⟩
  · exact fileDocument_eq_ok_iff.mp (fileDocument_ofText (document_isPlain short))
  · have again : (load (.ofText s.document.render.text) ⟨none, none, directory⟩).1 = s :=
      (load_bare _ directory).trans stored
    rw [again]
    exact ⟨rfl, save_of_fits short nofun⟩

/-- A file whose mode has zeros in front of its count and whose seed is the text of a number. -/
def paddedFile : FileState :=
  .ofText "\x7b\"scan\": \x7b\"mode\": \"first007\", \"seed\": \" 1_0 \"\x7d\x7d".toList

/-- Loaded under a mode that is no directive and an empty seed, it gives its own mode as it is
spelled and its seed as a number, and both outlast a save. -/
theorem load_stable_padded :
    (load paddedFile ⟨some "last", some "", "config"⟩).1 = ⟨"first007", some 10⟩ ∧
      ∃ after, (⟨"first007", some 10⟩ : Settings).save paddedFile = (none, after) ∧
        (load after ⟨some "last", some "", "config"⟩).1 = ⟨"first007", some 10⟩ ∧
        (load after ⟨none, none, "config"⟩).1 = ⟨"first007", some 10⟩ := by
  have loaded : (load paddedFile ⟨some "last", some "", "config"⟩).1 = ⟨"first007", some 10⟩ := by
    decide +kernel
  obtain ⟨after, saved, -, again, bare⟩ :=
    load_stable paddedFile ⟨some "last", some "", "config"⟩ nofun
  have bare := (bare "config").1
  rw [loaded] at saved again bare
  exact ⟨loaded, after, saved, again, bare⟩

/-! ### Saving what cannot be written -/

/-- The text of the settings as a document, whatever the length of the seed. -/
def wholeText (s : Settings) : List Char :=
  (Json.written .indented false 0 s.document).text

/-- The text of the settings up to the seed. -/
def opening (s : Settings) : List Char :=
  "\x7b\n  \"scan\": \x7b\n    \"mode\": ".toList ++ Json.quoted s.mode ++
    ",\n    \"seed\": ".toList

/-- A seed that is too long to be written. -/
def LongSeed (s : Settings) : Prop :=
  ∃ n, s.seed = some n ∧ Decimal.fits n = false

theorem not_longSeed_iff {s : Settings} :
    ¬ s.LongSeed ↔ ∀ n, s.seed = some n → Decimal.fits n = true := by
  simp only [LongSeed, not_exists, not_and, Bool.not_eq_false]

/-- What is written without a seed that is too long is the whole text. -/
theorem render_of_fits {s : Settings} (short : ∀ n, s.seed = some n → Decimal.fits n = true) :
    s.document.render.text = s.wholeText := by
  cases seed : s.seed with
  | none => simp only [wholeText, document, seed, Json.render, Json.written, Json.writtenMembers]
  | some n =>
    simp only [wholeText, document, seed, Json.render, Json.written, Json.writtenMembers,
      Json.writtenInt, short n seed, Bool.not_true, Bool.and_false]

/-- What is written of settings with a seed that is too long is their opening. -/
theorem render_of_long {s : Settings} (long : s.LongSeed) :
    s.document.render = .cut s.opening := by
  obtain ⟨n, seed, tooLong⟩ := long
  have unwritten : Json.writtenInt true n = .broken := by
    rw [Json.writtenInt, tooLong]
    rfl
  have before : '\x7b' :: Json.Layout.indented.newline 1 ++ Json.quoted "scan" ++
      Json.Layout.indented.afterKey ++ ('\x7b' :: Json.Layout.indented.newline 2 ++
      Json.quoted "mode" ++ Json.Layout.indented.afterKey) =
        "\x7b\n  \"scan\": \x7b\n    \"mode\": ".toList := rfl
  have behind : Json.Layout.indented.betweenItems ++ Json.Layout.indented.newline 2 ++
      Json.quoted "seed" ++ Json.Layout.indented.afterKey = ",\n    \"seed\": ".toList := rfl
  simp only [document, seed, Json.render, Json.written, Json.writtenMembers]
  rw [unwritten]
  unfold opening
  simp only [← before, ← behind, Json.Written.of_append_of, Json.Written.of_append_broken,
    Json.Written.of_append_cut, Json.Written.cut_append, List.append_assoc, List.cons_append,
    Nat.reduceAdd]

theorem save_of_long {s : Settings} {file : FileState} (long : s.LongSeed)
    (free : file ≠ .directory) : s.save file = (some .tooLong, .ofText s.opening) := by
  cases file with
  | directory => exact absurd rfl free
  | _ => simp [save, render_of_long long, Json.Written.cut]

theorem opening_printed (s : Settings) : IsPrinted s.opening := by
  have before : IsPrinted "\x7b\n  \"scan\": \x7b\n    \"mode\": ".toList := by decide +kernel
  have behind : IsPrinted ",\n    \"seed\": ".toList := by decide +kernel
  exact (before.append (Json.quoted_printed s.mode)).append behind

open Json in
/-- An opening is no document: the text ends where the seed should begin. -/
theorem read_opening (s : Settings) (x : Json) :
    Json.read (some Decimal.limit) s.opening ≠ .ok x := by
  have seed : Unreadable (members (some Decimal.limit) none · (quoted "seed" ++ ": ".toList)) :=
    unreadable_member (memberName_quoted "seed" " ".toList) unreadable_nil
  have mode : Unreadable (members (some Decimal.limit) none ·
      (quoted "mode" ++ ':' :: ' ' :: (quoted s.mode ++ ",\n    \"seed\": ".toList))) :=
    unreadable_later (memberName_quoted "mode" _) (fun fuel => value_quoted s.mode) rfl seed
  have scan : Unreadable (members (some Decimal.limit) none · (quoted "scan" ++ ':' :: ' ' :: '\x7b' ::
      ("\n    ".toList ++ quoted "mode" ++ ':' :: ' ' ::
        (quoted s.mode ++ ",\n    \"seed\": ".toList)))) :=
    unreadable_member (memberName_quoted "scan" _) (unreadable_obj rfl mode)
  exact read_of_unreadable (unreadable_obj rfl scan) x

/-- So a file that was left with an opening holds no document. -/
theorem not_holds_opening (s : Settings) (x : Json) : ¬ Holds (.ofText s.opening) x := by
  rintro ⟨bytes, cs, regular, decoded, read⟩
  cases regular
  rw [Utf8.decode_encode s.opening_printed] at decoded
  cases decoded
  rw [Lines.unify_of_isPrinted s.opening_printed] at read
  exact read_opening s x read

/-- What such a file gave before is lost: loading finds what it finds without a file. -/
theorem load_opening (s : Settings) (e : Environment) :
    (load (.ofText s.opening) e).1 = (load .absent e).1 := by
  have empty : (fileLayer e.path (.ofText s.opening)).1 = .empty := by
    rw [fileLayer]
    split
    · rfl
    · rfl
    · next x found => exact absurd (fileDocument_eq_ok_iff.mp found) (not_holds_opening s x)
  simp only [load, empty]
  rfl

/-! ### All or nothing -/

/-- Saving to a file that is in the state `file` ends with the whole document in the file, or with
an error and the file as it was. -/
def SavesWhole (s : Settings) (file : FileState) : Prop :=
  match s.save file with
  | (none, after) => after = .ofText s.wholeText ∧ Holds after s.document
  | (some _, after) => after = file

theorem savesWhole_of_fits {s : Settings} {file : FileState}
    (short : ∀ n, s.seed = some n → Decimal.fits n = true) (free : file ≠ .directory) :
    s.SavesWhole file := by
  have held := fileDocument_eq_ok_iff.mp (fileDocument_ofText (document_isPlain short))
  rw [SavesWhole, save_of_fits short free]
  rw [render_of_fits short] at held ⊢
  exact ⟨rfl, held⟩

theorem savesWhole_iff_of_long {s : Settings} {file : FileState} (long : s.LongSeed)
    (free : file ≠ .directory) : s.SavesWhole file ↔ file = .ofText s.opening := by
  rw [SavesWhole, save_of_long long free]
  exact eq_comm

/-- Saving is all or nothing exactly where no text is opened (a directory is in the way), where the
seed can be written, or where the file was left with the same opening before. Everywhere else the
old text gives way to the opening of the new one: no document is left, and loading finds what it
finds without a file. -/
theorem save_whole_iff (s : Settings) (file : FileState) :
    (s.SavesWhole file ↔ file = .directory ∨ (∀ n, s.seed = some n → Decimal.fits n = true) ∨
      file = .ofText s.opening) ∧
    (¬ s.SavesWhole file → s.save file = (some .tooLong, .ofText s.opening) ∧
      (∀ x, ¬ Holds (.ofText s.opening) x) ∧
      ∀ e, (load (.ofText s.opening) e).1 = (load .absent e).1) := by
  by_cases blocked : file = .directory
  · subst blocked
    have whole : s.SavesWhole .directory := rfl
    exact ⟨iff_of_true whole (.inl rfl), fun not => absurd whole not⟩
  by_cases long : s.LongSeed
  · have short := mt not_longSeed_iff.mpr (not_not_intro long)
    refine ⟨?_, fun _ => ⟨save_of_long long blocked, not_holds_opening s, load_opening s⟩⟩
    rw [savesWhole_iff_of_long long blocked]
    exact ⟨fun same => .inr (.inr same), fun any => (any.resolve_left blocked).resolve_left short⟩
  · have short := not_longSeed_iff.mp long
    have whole := savesWhole_of_fits short blocked
    exact ⟨iff_of_true whole (.inr (.inl short)), fun not => absurd whole not⟩

/-- The smallest seed that is too long puts an opening in the place of complete settings. -/
theorem save_loses :
    ¬ SavesWhole ⟨"first20", some ((10 ^ Decimal.limit : Nat) : Int)⟩
      (.ofText (wholeText ⟨"while", some 3⟩)) := by
  have tooLong : Decimal.fits ((10 ^ Decimal.limit : Nat) : Int) = false := by
    generalize bound : 10 ^ Decimal.limit = k
    rw [Decimal.fits, Int.natAbs_natCast, Nat.pow_eq, bound]
    exact decide_eq_false (lt_irrefl k)
  rw [savesWhole_iff_of_long ⟨_, rfl, tooLong⟩ (by rintro ⟨⟩)]
  decide +kernel

end IndexScan.Settings
