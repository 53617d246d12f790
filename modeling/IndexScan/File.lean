import IndexScan.Text.Lines
import IndexScan.Text.Quoted
import IndexScan.Text.Utf8

/-!
What can stand at a path, and what reading it as text gives.
-/

namespace IndexScan

/-- What stands at a path. -/
inductive FileState where
  | absent
  | directory
  | regular (bytes : List UInt8)
  deriving DecidableEq, Repr, Inhabited

/-- Why a file cannot be used as asked. -/
inductive FileError where
  | notFound (path : String)
  | isDirectory (path : String)
  /-- A file stands where a directory should be. -/
  | exists (path : String)
  | nameTooLong (path : String)
  deriving DecidableEq, Repr

/-- The wording of a file error. -/
def FileError.message : FileError → String
  | notFound path => "[Errno 2] No such file or directory: " ++ Quoted.text path
  | isDirectory path => "[Errno 21] Is a directory: " ++ Quoted.text path
  | .exists path => "[Errno 17] File exists: " ++ Quoted.text path
  | nameTooLong path => "[Errno 36] File name too long: " ++ Quoted.text path

namespace FileState

/-- A file that holds a text. -/
def ofText (cs : List Char) : FileState :=
  .regular (Utf8.encode cs)

/-- Whether something stands at the path. -/
def isPresent : FileState → Bool
  | absent => false
  | _ => true

/-- The bytes of the file at `path`. -/
def bytes? (path : String) : FileState → Except FileError (List UInt8)
  | absent => .error (.notFound path)
  | directory => .error (.isDirectory path)
  | regular bytes => .ok bytes

/-- The text of a regular file, every line end a line feed; none if there is no regular file. -/
def text? : FileState → Option (Except Utf8.Fault (List Char))
  | regular bytes => some ((Utf8.decode bytes).map Lines.unify)
  | _ => none

end FileState

end IndexScan
