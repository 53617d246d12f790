/-!
Line ends. Text that is read has one kind of line end, whatever the file uses; a text that is laid
out is also split at the other vertical separators.
-/

namespace IndexScan.Lines

/-- `cs` with a carriage return, alone or before a line feed, replaced by a line feed. -/
def unify : List Char → List Char
  | [] => []
  | '\r' :: '\n' :: rest => '\n' :: unify rest
  | c :: rest => (if c = '\r' then '\n' else c) :: unify rest

/-- Whether `c` ends a line of laid-out text. -/
def isBreak (c : Char) : Bool :=
  (0x0A ≤ c.toNat && c.toNat ≤ 0x0D) || (0x1C ≤ c.toNat && c.toNat ≤ 0x1E) ||
    c.toNat == 0x85 || c.toNat == 0x2028 || c.toNat == 0x2029

/-- The lines of laid-out text; a break at the very end begins no further line. -/
def ofText (cs : List Char) : List (List Char) :=
  go [] cs
where
  /-- `line` holds the line being read, last character first. -/
  go (line : List Char) : List Char → List (List Char)
    | [] => if line.isEmpty then [] else [line.reverse]
    | '\r' :: '\n' :: rest => line.reverse :: go [] rest
    | c :: rest => if isBreak c then line.reverse :: go [] rest else go (c :: line) rest

end IndexScan.Lines
