import IndexScan.Yaml.Cursor

/-!
Tokens: the indicators, names and scalars that a text consists of.
-/

namespace IndexScan.Yaml

/-- A text that may hold unpaired surrogates, as its code points. -/
abbrev Points := List Nat

/-- What a tag token says: its handle, if it has one, and its suffix. -/
structure TagText where
  handle : Option String
  suffix : String
  deriving DecidableEq, Repr

/-- What a directive says. -/
inductive Instruction where
  | version (major minor : Nat)
  | handle (handle expansion : String)
  | other
  deriving DecidableEq, Repr

/-- The kinds of token. -/
inductive TokenKind where
  | streamEnd
  | directive (instruction : Instruction)
  | documentStart
  | documentEnd
  | blockSequenceStart
  | blockMappingStart
  | blockEnd
  | flowSequenceStart
  | flowMappingStart
  | flowSequenceEnd
  | flowMappingEnd
  | key
  | value
  | blockEntry
  | flowEntry
  | reference (name : String)
  | anchor (name : String)
  | tag (text : TagText)
  | scalar (text : Points) (isPlain : Bool)
  deriving DecidableEq, Repr, Inhabited

/-- The name of a kind of token in messages. -/
def TokenKind.name : TokenKind → String
  | streamEnd => "<stream end>"
  | directive _ => "<directive>"
  | documentStart => "<document start>"
  | documentEnd => "<document end>"
  | blockSequenceStart => "<block sequence start>"
  | blockMappingStart => "<block mapping start>"
  | blockEnd => "<block end>"
  | flowSequenceStart => "["
  | flowMappingStart => "\x7b"
  | flowSequenceEnd => "]"
  | flowMappingEnd => "\x7d"
  | key => "?"
  | value => ":"
  | blockEntry => "-"
  | flowEntry => ","
  | reference _ => "<alias>"
  | anchor _ => "<anchor>"
  | tag _ => "<tag>"
  | scalar .. => "<scalar>"

/-- A token, where it begins and where it ends. -/
structure Token where
  kind : TokenKind
  start : Mark
  stop : Mark
  deriving DecidableEq, Repr, Inhabited

end IndexScan.Yaml
