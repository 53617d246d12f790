import IndexScan.Yaml.Token.Basic

/-!
Tags: the types that nodes claim to have. A plain scalar without a tag has the type that its text
looks like.
-/

namespace IndexScan.Yaml

/-- The type that a node claims to have. -/
inductive Tag where
  | null
  | bool
  | int
  | float
  | binary
  | timestamp
  | orderedMap
  | pairs
  | set
  | str
  | seq
  | map
  /-- The key under which mappings are merged in. -/
  | merge
  /-- The key of a mapping's own value. -/
  | value
  | other (text : String)
  deriving DecidableEq, Repr, Inhabited

namespace Tag

/-- What the texts of known tags begin with. -/
def common : String := "tag:yaml.org,2002:"

/-- The known tags with the words that end their texts. -/
def known : List (String × Tag) :=
  [("null", null), ("bool", bool), ("int", int), ("float", float), ("binary", binary),
   ("timestamp", timestamp), ("omap", orderedMap), ("pairs", pairs), ("set", set), ("str", str),
   ("seq", seq), ("map", map), ("merge", merge), ("value", value)]

/-- The text of a tag. -/
def text : Tag → String
  | other text => text
  | tag => common ++ ((known.find? fun k => k.2 = tag).map (·.1)).getD ""

/-- The tag with a text. -/
def ofText (text : String) : Tag :=
  ((known.find? fun k => common ++ k.1 = text).map (·.2)).getD (other text)

end Tag

/-! ### What plain scalars look like -/

/-- `ps` without the line feed behind its other characters, if there is one. -/
def withoutFinalBreak (ps : Points) : Points :=
  if 1 < ps.length ∧ ps.getLast? = some '\n'.toNat then ps.dropLast else ps

/-- Digits, with underscores among them. -/
def isDigitOrUnderscore (c : Char) : Bool := c.isDigit || c == '_'

/-- `cs` without the sign at its start. -/
def unsigned (cs : List Char) : List Char :=
  match cs with
  | '+' :: rest => rest
  | '-' :: rest => rest
  | _ => cs

/-- Whether `cs` consists of `:` and one or two digits below sixty, one or more times; with
`fraction`, a point and digits follow. -/
def isSexagesimalTail (fraction : Bool) : Nat → List Char → Bool
  | 0, _ => false
  | fuel + 1, cs =>
    let continues (rest : List Char) : Bool :=
      isSexagesimalTail fraction fuel rest ||
        match rest with
        | [] => !fraction
        | '.' :: digits => fraction && digits.all isDigitOrUnderscore
        | _ => false
    match cs with
    | ':' :: a :: b :: rest =>
      ('0' ≤ a && a ≤ '5' && b.isDigit && continues rest) || (a.isDigit && continues (b :: rest))
    | [':', a] => a.isDigit && continues []
    | _ => false

/-- Whether a scalar looks like a truth value. -/
def looksBool (cs : List Char) : Bool :=
  ["yes", "Yes", "YES", "no", "No", "NO", "true", "True", "TRUE", "false", "False", "FALSE",
    "on", "On", "ON", "off", "Off", "OFF"].any fun w => w.toList = cs

/-- Whether a scalar looks like nothing. -/
def looksNull (cs : List Char) : Bool :=
  ["~", "null", "Null", "NULL", ""].any fun w => w.toList = cs

/-- Whether `cs` is an exponent with a sign, or nothing. -/
def isExponent (cs : List Char) : Bool :=
  match cs with
  | [] => true
  | e :: sign :: digits =>
    (e == 'e' || e == 'E') && (sign == '+' || sign == '-') && !digits.isEmpty
      && digits.all Char.isDigit
  | _ => false

/-- Whether a scalar looks like a number with a point. -/
def looksFloat (cs : List Char) : Bool :=
  let body := unsigned cs
  let whole := body.takeWhile isDigitOrUnderscore
  let after := body.drop whole.length
  let pointed := match after with
    | '.' :: rest => isExponent (rest.dropWhile isDigitOrUnderscore)
    | _ => false
  let bare := match cs with
    | '.' :: d :: rest => d.isDigit && isExponent (rest.dropWhile isDigitOrUnderscore)
    | _ => false
  let named := [".inf", ".Inf", ".INF"].any fun w => w.toList = body
  let notNumber := [".nan", ".NaN", ".NAN"].any fun w => w.toList = cs
  (whole.head?.any Char.isDigit && (pointed || isSexagesimalTail true (after.length + 1) after))
    || bare || named || notNumber

/-- Whether a scalar looks like an integer: binary, octal, decimal, hexadecimal or in base sixty. -/
def looksInt (cs : List Char) : Bool :=
  let body := unsigned cs
  let isBit (c : Char) : Bool := c == '0' || c == '1' || c == '_'
  let isOctal (c : Char) : Bool := ('0' ≤ c && c ≤ '7') || c == '_'
  let isHex (c : Char) : Bool :=
    c.isDigit || ('a' ≤ c && c ≤ 'f') || ('A' ≤ c && c ≤ 'F') || c == '_'
  match body with
  | ['0'] => true
  | '0' :: 'b' :: rest => !rest.isEmpty && rest.all isBit
  | '0' :: 'x' :: rest => !rest.isEmpty && rest.all isHex
  | '0' :: rest => rest.all isOctal
  | c :: _ =>
    let whole := body.takeWhile isDigitOrUnderscore
    let after := body.drop whole.length
    c.isDigit && (after.isEmpty || isSexagesimalTail false (after.length + 1) after)
  | [] => false

/-- Reads between `least` and `most` digits, as many as there are. -/
def digits? (least most : Nat) (cs : List Char) : Option (List Char × List Char) :=
  let ds := (cs.take most).takeWhile Char.isDigit
  if least ≤ ds.length then some (ds, cs.drop ds.length) else none

/-- Reads one character. -/
def char? (c : Char) (cs : List Char) : Option (List Char) :=
  match cs with
  | d :: rest => if c = d then some rest else none
  | [] => none

/-- A written time: a day, and a time of day with its zone, if it has them. -/
structure WrittenTime where
  year : List Char
  month : List Char
  day : List Char
  clock : Option (List Char × List Char × List Char × List Char)
  zone : Option (Option (Bool × List Char × List Char))
  deriving Repr

/-- Reads the zone at the end of a written time: nothing, `Z`, or an offset. -/
def zone? (cs : List Char) : Option (Option (Option (Bool × List Char × List Char))) :=
  if cs.isEmpty then some none
  else
    match cs.dropWhile fun c => c == ' ' || c == '\t' with
    | ['Z'] => some (some none)
    | sign :: rest =>
      if sign = '+' ∨ sign = '-' then do
        let (hours, rest) ← digits? 1 2 rest
        match rest with
        | [] => some (some (some (sign == '-', hours, [])))
        | _ => do
          let rest ← char? ':' rest
          let (minutes, rest) ← digits? 2 2 rest
          if rest.isEmpty then some (some (some (sign == '-', hours, minutes))) else none
      else none
    | [] => none

/-- Reads a written time. -/
def writtenTime? (cs : List Char) : Option WrittenTime := do
  let (year, rest) ← digits? 4 4 cs
  let rest ← char? '-' rest
  let (month, rest) ← digits? 1 2 rest
  let rest ← char? '-' rest
  let (day, rest) ← digits? 1 2 rest
  if rest.isEmpty then return ⟨year, month, day, none, none⟩
  let rest ← match rest with
    | 'T' :: rest => some rest
    | 't' :: rest => some rest
    | c :: _ =>
      if c = ' ' ∨ c = '\t' then some (rest.dropWhile fun c => c == ' ' || c == '\t') else none
    | [] => none
  let (hour, rest) ← digits? 1 2 rest
  let rest ← char? ':' rest
  let (minute, rest) ← digits? 2 2 rest
  let rest ← char? ':' rest
  let (second, rest) ← digits? 2 2 rest
  let (fraction, rest) := match rest with
    | '.' :: rest => (rest.takeWhile Char.isDigit, rest.dropWhile Char.isDigit)
    | _ => ([], rest)
  let zone ← zone? rest
  return ⟨year, month, day, some (hour, minute, second, fraction), zone⟩

/-- Whether a scalar looks like a time. A day alone has two digits for month and day. -/
def looksTime (cs : List Char) : Bool :=
  match writtenTime? cs with
  | none => false
  | some t => t.clock.isSome || (t.month.length == 2 && t.day.length == 2)

/-- The type that the text of a plain scalar looks like. -/
def Tag.ofPlain (ps : Points) : Tag :=
  if ps.any fun n => 0xD800 ≤ n && n < 0xE000 then .str
  else
    let cs := ps.map Char.ofNat
    if looksBool cs then .bool
    else if looksFloat cs then .float
    else if looksInt cs then .int
    else if cs = ['<', '<'] then .merge
    else if looksNull cs then .null
    else if looksTime cs then .timestamp
    else if cs = ['='] then .value
    else .str

end IndexScan.Yaml
