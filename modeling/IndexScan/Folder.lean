import IndexScan.File
import IndexScan.Text.Pieces

/-!
Folders: what stands at which path of a working directory. A file stands in directories only, and
these stay when it goes.
-/

namespace IndexScan

/-- A path: where it starts, and its parts. Empty parts and those that stay in place are left out. -/
structure Path where
  root : String
  parts : List String
  deriving DecidableEq, Repr

namespace Path

/-- The path that a text spells. Two slashes at the start are kept, more count as one. -/
def ofText (s : String) : Path :=
  let slashes := (s.toList.takeWhile fun c => c = '/').length
  let root := if slashes = 0 then "" else if slashes = 2 then "//" else "/"
  let parts := (Text.pieces '/' s.toList).map String.ofList
  ⟨root, parts.filter fun part => part ≠ "" ∧ part ≠ "."⟩

/-- The text of a path. -/
def text (p : Path) : String :=
  if p.root.isEmpty ∧ p.parts.isEmpty then "." else p.root ++ "/".intercalate p.parts

end Path

/-- What stands at the places of a folder, by the parts of their paths, and what is known to stand at
paths that lead out of it. -/
structure Folder where
  entries : List (List String × FileState)
  outside : List (Path × FileState)
  deriving Repr

namespace Folder

/-- The folder without entries. -/
def empty : Folder := ⟨[], []⟩

/-- The longest name of a file, in bytes. -/
def nameLimit : Nat := 255

/-- The bytes that no path reaches. -/
def pathLimit : Nat := 4096

/-- What stands at a place of the folder; the folder itself is a directory. -/
def entry (f : Folder) (place : List String) : FileState :=
  if place.isEmpty then .directory
  else ((f.entries.find? fun e => e.1 = place).map (·.2)).getD .absent

/-- What stands at a path that leads on from a directory that the folder stands in. There is nothing
but these directories. -/
def followOutside : List String → Except FileError FileState
  | [] => .ok .directory
  | ".." :: rest => followOutside rest
  | part :: _ => if nameLimit < part.utf8ByteSize then .error (.nameTooLong part) else .ok .absent

/-- What stands at a path that leads on from a place. -/
def follow (f : Folder) (place : List String) : List String → Except FileError FileState
  | [] => .ok (f.entry place)
  | ".." :: rest =>
    match f.entry place with
    | .directory =>
      if place.isEmpty then followOutside rest else follow f place.dropLast rest
    | _ => .ok .absent
  | part :: rest =>
    match f.entry place with
    | .directory =>
      if nameLimit < part.utf8ByteSize then .error (.nameTooLong part)
      else follow f (place ++ [part]) rest
    | _ => .ok .absent

/-- What stands at a path. -/
def find (f : Folder) (path : Path) : Except FileError FileState :=
  match f.outside.find? fun e => e.1 = path with
  | some (_, state) => .ok state
  | none =>
    let reached :=
      if pathLimit ≤ path.text.utf8ByteSize then .error (.nameTooLong path.text)
      else if path.root.isEmpty then f.follow [] path.parts
      else followOutside path.parts
    reached.mapError fun _ => .nameTooLong path.text

/-- The folder with something else at one place. -/
def set (f : Folder) (place : List String) (state : FileState) : Folder :=
  { f with entries := (place, state) :: f.entries.filter fun e => e.1 ≠ place }

/-- The folder with something at a place, and with the directories that it stands in. -/
def put (f : Folder) (place : List String) (state : FileState) : Folder :=
  let outer := (List.range place.length).map fun n => place.take n
  (outer.foldl (fun f above => f.set above .directory) f).set place state

end Folder

end IndexScan
