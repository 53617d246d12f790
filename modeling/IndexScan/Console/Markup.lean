import IndexScan.Console.EmojiName
import IndexScan.Console.Style

/-!
Console markup: text with tags in square brackets, and names of emoji between colons. A tag begins
with a lower-case letter, `#`, `/` or `@`; other brackets are text. A backslash in front of a tag
makes it text, and two backslashes there are one. The parameters of a tag are evaluated by somebody
else, who may complain of them (`complaint?`).
-/

namespace IndexScan.Console

open IndexScan.Text

namespace Markup

/-- Whether `c` may begin a tag. -/
def beginsTag (c : Char) : Bool :=
  ('a' ≤ c && c ≤ 'z') || c == '#' || c == '/' || c == '@'

/-- The content of the tag whose opening bracket stands in front of `cs`. -/
def tag? (cs : List Char) : Option (List Char) :=
  match cs with
  | [] => none
  | c :: rest =>
    let body := rest.takeWhile fun d => d != ']' && d != '['
    if beginsTag c && (rest.drop body.length).head? = some ']' then some (c :: body) else none

/-- A part of marked-up text: text, or a tag with its place, its name and what follows an equals
sign in it. -/
inductive Piece where
  | text (cs : List Char)
  | tag (position : Nat) (name : List Char) (parameters : Option (List Char))
  deriving DecidableEq, Repr

/-- The tag with the given content. -/
def Piece.ofTag (position : Nat) (content : List Char) : Piece :=
  let name := content.takeWhile (· != '=')
  let rest := content.drop name.length
  .tag position name (if rest.isEmpty then none else some (rest.drop 1))

/-- A text piece, unless it is empty. -/
def Piece.ofText (cs : List Char) : List Piece :=
  if cs.isEmpty then [] else [.text cs]

/-- The pieces of marked-up text. The next character stands at `position`, the first `skip`
characters are already dealt with, and in front stand the text `plain`, last character first, and
`slashes` backslashes after it. -/
def pieces (position skip slashes : Nat) (plain : List Char) : List Char → List Piece
  | [] => Piece.ofText (List.replicate slashes '\\' ++ plain).reverse
  | c :: rest =>
    match skip with
    | skip + 1 => pieces (position + 1) skip 0 [] rest
    | 0 =>
      if c = '\\' then pieces (position + 1) 0 (slashes + 1) plain rest
      else
        match (if c = '[' then tag? rest else none) with
        | none =>
          pieces (position + 1) 0 0 (c :: (List.replicate slashes '\\' ++ plain)) rest
        | some content =>
          let before := Piece.ofText plain.reverse
            ++ Piece.ofText (List.replicate (slashes / 2) '\\')
          let this := if slashes % 2 = 1 then Piece.text ('[' :: content ++ [']'])
            else Piece.ofTag (position - slashes + slashes / 2 * 2) content
          before ++ this :: pieces (position + 1) (content.length + 1) 0 [] rest

/-- `cs` with a bracket in place of every bracket that has a backslash in front. -/
def openBrackets : List Char → List Char
  | '\\' :: '[' :: rest => '[' :: openBrackets rest
  | c :: rest => c :: openBrackets rest
  | [] => []

/-- The name and variant that stand between two colons. -/
def emojiOf? (body : List Char) : Option (List Char) :=
  let ends (suffix : String) : Option (List Char) :=
    if suffix.toList.isSuffixOf body then some (body.take (body.length - suffix.length)) else none
  match ends "-emoji" with
  | some name => (emoji? (lower name)).map (· ++ [Char.ofNat 0xFE0F])
  | none =>
    match ends "-text" with
    | some name => (emoji? (lower name)).map (· ++ [Char.ofNat 0xFE0E])
    | none => emoji? (lower body)

/-- `cs` with emoji in place of their names; the first `skip` characters are left out. A name that
no emoji has is kept, and the colon behind it begins no other name. -/
def replaceEmoji (skip : Nat) : List Char → List Char
  | [] => []
  | c :: rest =>
    match skip with
    | skip + 1 => replaceEmoji skip rest
    | 0 =>
      if c = ':' then
        let body := rest.takeWhile fun d => d != ':' && !isBlank d
        if (rest.drop body.length).head? = some ':' then
          (emojiOf? body).getD (':' :: body ++ [':']) ++ replaceEmoji (body.length + 1) rest
        else c :: replaceEmoji 0 rest
      else c :: replaceEmoji 0 rest

/-- Whether `c` is a control that text never keeps: bell, backspace, vertical tab, form feed and
carriage return. -/
def isDropped (c : Char) : Bool :=
  c.toNat == 7 || c.toNat == 8 || c.toNat == 11 || c.toNat == 12 || c.toNat == 13

/-- The text that a text piece shows. -/
def shown (cs : List Char) : List Char :=
  (replaceEmoji 0 (openBrackets cs)).filter fun c => !isDropped c

/-- What is wrong with marked-up text. -/
inductive Fault where
  /-- A closing tag that matches no open one. -/
  | unmatched (tag : List Char) (position : Nat)
  /-- A closing tag without a name where no tag is open. -/
  | nothingOpen (position : Nat)
  /-- A colour with an empty component. -/
  | badComponent
  deriving DecidableEq, Repr

/-- The wording of a fault. -/
def Fault.message : Fault → String
  | unmatched tag position =>
    "closing tag '[" ++ String.ofList tag ++ "]' at position " ++ Decimal.text position
      ++ " doesn't match any open tag"
  | nothingOpen position =>
    "closing tag '[/]' at position " ++ Decimal.text position ++ " has nothing to close"
  | badComponent => "invalid literal for int() with base 10: ''"

/-- The canonical name of a tag. -/
def normalize (name : List Char) : Except Fault (List Char) :=
  (Style.normalize name).mapError fun _ => .badComponent

/-- The text that pieces show, while the tags `opened` are open, last one first. -/
def interpret (opened : List (List Char)) : List Piece → Except Fault (List Char)
  | [] => .ok []
  | .text cs :: rest => do
    let later ← interpret opened rest
    return shown cs ++ later
  | .tag position name parameters :: rest =>
    match name with
    | '/' :: closed => do
      let closed := trim isBlank closed
      if closed.isEmpty then
        match opened with
        | [] => throw (.nothingOpen position)
        | _ :: opened => interpret opened rest
      else
        let style ← normalize closed
        if opened.contains style then interpret (opened.erase style) rest
        else
          throw (.unmatched (name ++ parameters.elim [] fun p => '=' :: p) position)
    | _ => do
      let style ← normalize name
      interpret (style :: opened) rest

/-- The text that marked-up text shows. -/
def render (markup : List Char) : Except Fault (List Char) :=
  interpret [] (pieces 0 0 0 [] markup)

/-! ### Parameters of tags -/

/-- What the evaluation of a tag's parameters complains of. Only those of a tag whose name begins with
an at sign are evaluated. -/
def complaintOf? (evaluate : List Char → Option String) (name parameters : List Char) :
    Option String :=
  if name.head? = some '@' ∧ parameters ≠ [] then evaluate parameters else none

/-- What the evaluation of parameters complains of first, before anything else is wrong with the
pieces. The tags `opened` are open with their parameters, last one first; parameters are evaluated
when their tag is closed. -/
def complaint? (evaluate : List Char → Option String) (opened : List (List Char × List Char)) :
    List Piece → Option String
  | [] => none
  | .text _ :: rest => complaint? evaluate opened rest
  | .tag _ name parameters :: rest =>
    match name with
    | '/' :: closed =>
      let closed := trim isBlank closed
      let tag? := if closed.isEmpty then opened.head?
        else
          match normalize closed with
          | .error _ => none
          | .ok style => opened.find? fun tag => tag.1 = style
      match tag? with
      | none => none
      | some tag =>
        (complaintOf? evaluate tag.1 tag.2).or (complaint? evaluate (opened.erase tag) rest)
    | _ =>
      match normalize name with
      | .error _ => none
      | .ok style => complaint? evaluate ((style, parameters.getD []) :: opened) rest

/-! ### Escaping -/

/-- Marked-up text that shows `cs`, its tags taken as text. The first `skip` characters are copied,
and `slashes` backslashes stand in front. -/
def escapeTags (skip slashes : Nat) : List Char → List Char
  | [] => []
  | c :: rest =>
    match skip with
    | skip + 1 => c :: escapeTags skip 0 rest
    | 0 =>
      if c = '\\' then c :: escapeTags 0 (slashes + 1) rest
      else
        match (if c = '[' then tag? rest else none) with
        | none => c :: escapeTags 0 0 rest
        | some content =>
          List.replicate (slashes + 1) '\\' ++ c :: escapeTags (content.length + 1) 0 rest

/-- `escapeTags`, with a single backslash at the end doubled. -/
def escape (cs : List Char) : List Char :=
  let escaped := escapeTags 0 0 cs
  if ['\\'].isSuffixOf escaped && !(['\\', '\\'].isSuffixOf escaped) then escaped ++ ['\\']
  else escaped

end Markup

end IndexScan.Console
