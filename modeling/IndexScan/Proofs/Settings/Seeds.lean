import IndexScan.Proofs.Json.Limits
import IndexScan.Proofs.Settings.Saving

/-!
Seeds in force. Files and variables give seeds of at most `Decimal.limit` digits, so whatever was
loaded can be saved again (`fits_load`, `save_of_fits`).
-/

namespace IndexScan.Settings

/-- A seed that a member of a file gives is short enough to be written. -/
theorem fits_of_member {file : FileState} {x : Json} {n : Int} (member : Member file "seed" x)
    (value : SeedValue x (some n)) : Decimal.fits n = true := by
  obtain ⟨document, members, ⟨bytes, cs, -, -, read⟩, object, found⟩ := member
  have writable : Json.Writable x := by
    cases (Json.read_writable read).get? object with
    | obj all =>
      obtain ⟨p, mem, rfl⟩ := Json.exists_mem_of_lookup? found
      exact all p mem
  rcases value with ⟨-, none⟩ | ⟨m, rfl, same⟩ | ⟨text, m, rfl, numeral, same⟩
  · cases none
  · cases same
    cases writable with
    | int fits => exact fits
  · cases same
    exact Numeral.fits_of_read numeral

/-- A seed that was loaded is short enough to be written. -/
theorem fits_load {file : FileState} {e : Environment} {n : Int}
    (seed : (load file e).1.seed = some n) : Decimal.fits n = true := by
  rcases isFirst_seed file e with given | ⟨-, x, member, value⟩ | ⟨-, -, none⟩
  · obtain ⟨text, m, -, -, numeral, same⟩ := given
    rw [seed] at same
    cases same
    exact Numeral.fits_of_read numeral
  · rw [seed] at value
    exact fits_of_member member value
  · rw [seed] at none
    cases none

/-- Settings with a short seed are saved wherever no directory is in the way. -/
theorem save_of_fits {s : Settings} {file : FileState}
    (short : ∀ n, s.seed = some n → Decimal.fits n = true) (free : file ≠ .directory) :
    s.save file = (none, .ofText s.document.render.text) := by
  have complete : s.document.render.complete = true :=
    Json.written_complete (fun _ => rfl) s.document 0 (document_isPlain short)
  cases file with
  | directory => exact absurd rfl free
  | _ => simp [save, complete]

end IndexScan.Settings
