import IndexScan.Json.Basic
import IndexScan.Levels
import IndexScan.Yaml.Tag
import IndexScan.Yaml.Token.Lexer

/-!
Nodes: the graph that a document describes. An alias stands for the node that has its anchor, so a
node can have several parents and can even be its own ancestor. Building a graph takes one level for
every collection that is entered, and gives out where none is left.
-/

namespace IndexScan.Yaml

/-- What a node holds; the parts of a collection are given by their places in the graph. -/
inductive Content where
  | scalar (text : Points)
  | sequence (items : List Nat)
  | mapping (entries : List (Nat × Nat))
  deriving DecidableEq, Repr, Inhabited

/-- The kind of a content. -/
def Content.kind : Content → NodeKind
  | scalar _ => .scalar
  | sequence _ => .sequence
  | mapping _ => .mapping

/-- A node: the type it claims, what it holds, and where it begins. -/
structure Node where
  tag : Tag
  content : Content
  start : Mark
  deriving DecidableEq, Repr, Inhabited

/-- A graph under construction: the tokens ahead, the nodes found, the places of those that have
anchors, and the expansions of tag handles. -/
structure Builder where
  lexer : Lexer
  nodes : Array Node
  anchors : List (String × Nat)
  handles : List (String × String)

/-- A step of building a graph. -/
abbrev Build := StateT Builder (Except Error)

namespace Build

/-- The next token. -/
def peek : Build Token := fun b => do
  let (token, lexer) ← b.lexer.peek
  return (token, { b with lexer := lexer })

/-- Passes over the next token. -/
def drop : Build Unit :=
  modify fun b => { b with lexer := b.lexer.drop }

/-- Refuses what stands at a place. -/
def refuse {α : Type} (context : Option (Context × Option Mark)) (flaw : Flaw) (mark : Mark) :
    Build α :=
  throw (.marked .structural context flaw mark)

/-- Adds a node to the graph. -/
def add (n : Node) : Build Nat := do
  let b ← get
  set { b with nodes := b.nodes.push n }
  return b.nodes.size

/-- Adds the empty scalar at a place. -/
def addEmpty (mark : Mark) : Build Nat :=
  add ⟨.null, .scalar [], mark⟩

/-- Puts the content of a collection into its node. -/
def fill (id : Nat) (content : Content) : Build Unit :=
  modify fun b => { b with nodes := b.nodes.modify id fun n => { n with content := content } }

/-- Gives an anchor to the node that is added next. No two nodes have the same anchor. -/
def nameNext (anchor? : Option String) (start : Mark) : Build Unit := do
  if let some anchor := anchor? then
    let b ← get
    match Json.lookup? anchor b.anchors with
    | some id =>
      let first := ((b.nodes[id]?).map (·.start)).getD default
      throw (.marked .reference (some (.duplicateAnchor anchor, some first)) .secondOccurrence
        start)
    | none => set { b with anchors := (anchor, b.nodes.size) :: b.anchors }

/-- The handles that are known without directives. -/
def commonHandles : List (String × String) := [("!", "!"), ("!!", Tag.common)]

/-- What stands in front of a node's content: its anchor, its tag, and where the first of them
begins. -/
structure Properties where
  anchor? : Option String
  tag? : Option TagText
  start? : Option Mark
  tagStart? : Option Mark

/-- Reads anchor and tag, in either order. -/
def properties : Build Properties := do
  let t ← peek
  match t.kind with
  | .anchor name =>
    drop
    let u ← peek
    match u.kind with
    | .tag text => do drop; return ⟨some name, some text, some t.start, some u.start⟩
    | _ => return ⟨some name, none, some t.start, none⟩
  | .tag text =>
    drop
    let u ← peek
    match u.kind with
    | .anchor name => do drop; return ⟨some name, some text, some t.start, some t.start⟩
    | _ => return ⟨none, some text, some t.start, some t.start⟩
  | _ => return ⟨none, none, none, none⟩

/-- The full text of a tag, its handle expanded. -/
def tagText? (p : Properties) : Build (Option String) := do
  match p.tag? with
  | none => return none
  | some ⟨none, suffix⟩ => return some suffix
  | some ⟨some handle, suffix⟩ =>
    match Json.lookup? handle (← get).handles with
    | some expansion => return some (expansion ++ suffix)
    | none =>
      refuse (some (.node, p.start?)) (.undefinedHandle handle) (p.tagStart?.getD default)

/-- The tag of a node whose tag text is given; one that claims no type has the type `otherwise`. -/
def tagOr (text? : Option String) (otherwise : Tag) : Tag :=
  match text? with
  | none => otherwise
  | some text => if text = "!" then otherwise else .ofText text

/-- The tag of a scalar. -/
def scalarTag (text? : Option String) (ps : Points) (isPlain : Bool) : Tag :=
  match text? with
  | none => if isPlain then .ofPlain ps else .str
  | some text => if text = "!" then .ofPlain (withoutFinalBreak ps) else .ofText text

mutual

/-- Reads a node. Block collections may begin where `block` is set, and a sequence without
indentation where `indentless` is. -/
def node (levels : Levels) (block indentless : Bool) : Nat → Build Nat
  | 0 => refuse none (.expectedContent TokenKind.streamEnd.name) default
  | fuel + 1 => do
    let t ← peek
    if let .reference name := t.kind then
      drop
      match Json.lookup? name (← get).anchors with
      | some id => return id
      | none => throw (.marked .reference none (.undefinedAlias name) t.start)
    let p ← properties
    let text? ← tagText? p
    let t ← peek
    let start := p.start?.getD t.start
    let collection (empty : Content) (tag : Tag) (read : Levels → Build Content) : Build Nat := do
      nameNext p.anchor? start
      let id ← add ⟨tagOr text? tag, empty, start⟩
      match levels.inner? with
      | none => throw .tooDeep
      | some inner =>
        let content ← read inner
        fill id content
        return id
    match t.kind, block with
    | .blockEntry, _ =>
      if indentless then
        collection (.sequence []) .seq fun inner => do
          return .sequence (← indentlessItems inner fuel)
      else absent p text? start t
    | .scalar ps isPlain, _ =>
      drop
      nameNext p.anchor? start
      add ⟨scalarTag text? ps isPlain, .scalar ps, start⟩
    | .flowSequenceStart, _ =>
      collection (.sequence []) .seq fun inner => do
        drop
        return .sequence (← flowItems inner t.start true fuel)
    | .flowMappingStart, _ =>
      collection (.mapping []) .map fun inner => do
        drop
        return .mapping (← flowEntries inner t.start true fuel)
    | .blockSequenceStart, true =>
      collection (.sequence []) .seq fun inner => do
        drop
        return .sequence (← blockItems inner t.start fuel)
    | .blockMappingStart, true =>
      collection (.mapping []) .map fun inner => do
        drop
        return .mapping (← blockEntries inner t.start fuel)
    | _, _ => absent p text? start t
where
  /-- A node without content: empty if it has an anchor or a tag, and refused otherwise. -/
  absent (p : Properties) (text? : Option String) (start : Mark) (t : Token) : Build Nat := do
    if p.anchor?.isSome || text?.isSome then
      nameNext p.anchor? start
      add ⟨tagOr text? .null, .scalar [], start⟩
    else
      refuse (some (if block then .blockNode else .flowNode, some start))
        (.expectedContent t.kind.name) t.start

/-- Reads the entries of a block sequence up to its end. -/
def blockItems (levels : Levels) (start : Mark) : Nat → Build (List Nat)
  | 0 => return []
  | fuel + 1 => do
    let t ← peek
    match t.kind with
    | .blockEntry =>
      drop
      let u ← peek
      let item ← match u.kind with
        | .blockEntry | .blockEnd => addEmpty t.stop
        | _ => node levels true false fuel
      return item :: (← blockItems levels start fuel)
    | .blockEnd => do drop; return []
    | _ => refuse (some (.blockCollection, some start)) (.expectedBlockEnd t.kind.name) t.start

/-- Reads the entries of a sequence without indentation. -/
def indentlessItems (levels : Levels) : Nat → Build (List Nat)
  | 0 => return []
  | fuel + 1 => do
    let t ← peek
    match t.kind with
    | .blockEntry =>
      drop
      let u ← peek
      let item ← match u.kind with
        | .blockEntry | .key | .value | .blockEnd => addEmpty t.stop
        | _ => node levels true false fuel
      return item :: (← indentlessItems levels fuel)
    | _ => return []

/-- Reads the entries of a block mapping up to its end. -/
def blockEntries (levels : Levels) (start : Mark) : Nat → Build (List (Nat × Nat))
  | 0 => return []
  | fuel + 1 => do
    let t ← peek
    match t.kind with
    | .key =>
      drop
      let u ← peek
      let key ← match u.kind with
        | .key | .value | .blockEnd => addEmpty t.stop
        | _ => node levels true true fuel
      let value ← blockValue levels fuel
      return (key, value) :: (← blockEntries levels start fuel)
    | .blockEnd => do drop; return []
    | _ => refuse (some (.blockMapping, some start)) (.expectedBlockEnd t.kind.name) t.start

/-- Reads the value of an entry of a block mapping. -/
def blockValue (levels : Levels) : Nat → Build Nat
  | 0 => addEmpty default
  | fuel + 1 => do
    let t ← peek
    match t.kind with
    | .value =>
      drop
      let u ← peek
      match u.kind with
      | .key | .value | .blockEnd => addEmpty t.stop
      | _ => node levels true true fuel
    | _ => addEmpty t.start

/-- Reads the items of a flow sequence up to its end. -/
def flowItems (levels : Levels) (start : Mark) (first : Bool) : Nat → Build (List Nat)
  | 0 => return []
  | fuel + 1 => do
    let t ← peek
    if t.kind = .flowSequenceEnd then
      drop
      return []
    if !first then
      if t.kind = .flowEntry then drop
      else
        refuse (some (.flowSequence, some start)) (.expectedSequenceEnd t.kind.name) t.start
    let t ← peek
    match t.kind with
    | .flowSequenceEnd => do drop; return []
    | .key =>
      let id ← add ⟨.map, .mapping [], t.start⟩
      match levels.inner? with
      | none => throw .tooDeep
      | some inner =>
        drop
        let u ← peek
        let key ← match u.kind with
          | .value | .flowEntry | .flowSequenceEnd => addEmpty t.stop
          | _ => node inner false false fuel
        let value ← flowPairValue inner fuel
        fill id (.mapping [(key, value)])
        return id :: (← flowItems levels start false fuel)
    | _ =>
      let item ← node levels false false fuel
      return item :: (← flowItems levels start false fuel)

/-- Reads the value of a single pair in a flow sequence. -/
def flowPairValue (levels : Levels) : Nat → Build Nat
  | 0 => addEmpty default
  | fuel + 1 => do
    let t ← peek
    match t.kind with
    | .value =>
      drop
      let u ← peek
      match u.kind with
      | .flowEntry | .flowSequenceEnd => addEmpty t.stop
      | _ => node levels false false fuel
    | _ => addEmpty t.start

/-- Reads the entries of a flow mapping up to its end. -/
def flowEntries (levels : Levels) (start : Mark) (first : Bool) :
    Nat → Build (List (Nat × Nat))
  | 0 => return []
  | fuel + 1 => do
    let t ← peek
    if t.kind = .flowMappingEnd then
      drop
      return []
    if !first then
      if t.kind = .flowEntry then drop
      else
        refuse (some (.flowMapping, some start)) (.expectedMappingEnd t.kind.name) t.start
    let t ← peek
    match t.kind with
    | .flowMappingEnd => do drop; return []
    | .key =>
      drop
      let u ← peek
      let key ← match u.kind with
        | .value | .flowEntry | .flowMappingEnd => addEmpty t.stop
        | _ => node levels false false fuel
      let value ← flowValue levels fuel
      return (key, value) :: (← flowEntries levels start false fuel)
    | _ =>
      let key ← node levels false false fuel
      let u ← peek
      let value ← addEmpty u.start
      return (key, value) :: (← flowEntries levels start false fuel)

/-- Reads the value of an entry of a flow mapping. -/
def flowValue (levels : Levels) : Nat → Build Nat
  | 0 => addEmpty default
  | fuel + 1 => do
    let t ← peek
    match t.kind with
    | .value =>
      drop
      let u ← peek
      match u.kind with
      | .flowEntry | .flowMappingEnd => addEmpty t.stop
      | _ => node levels false false fuel
    | _ => addEmpty t.start

end

/-- Passes over the ends of documents. -/
def skipDocumentEnds : Nat → Build Unit
  | 0 => return ()
  | fuel + 1 => do
    let t ← peek
    if t.kind = .documentEnd then
      drop
      skipDocumentEnds fuel

/-- Reads directives, and with them the handles of the document; `version` says whether one of them
gave a version. -/
def directives (version : Bool) (handles : List (String × String)) :
    Nat → Build (List (String × String))
  | 0 => return handles
  | fuel + 1 => do
    let t ← peek
    match t.kind with
    | .directive (.version major _) =>
      drop
      if version then refuse none .duplicateVersion t.start
      else if major ≠ 1 then refuse none .wrongVersion t.start
      else directives true handles fuel
    | .directive (.handle handle expansion) =>
      drop
      if (Json.lookup? handle handles).isSome then
        refuse none (.duplicateHandle handle) t.start
      else directives version (handles ++ [(handle, expansion)]) fuel
    | .directive .other => do drop; directives version handles fuel
    | _ => return handles ++ commonHandles

/-- Reads the start of a document that is marked as one; says where it begins, or that no document
follows. -/
def documentStart (fuel : Nat) : Build (Option Mark) := do
  skipDocumentEnds fuel
  let t ← peek
  if t.kind = .streamEnd then return none
  let handles ← directives false [] fuel
  modify fun b => { b with handles := handles }
  let u ← peek
  if u.kind = .documentStart then
    drop
    return some t.start
  else refuse none (.expectedDocumentStart u.kind.name) u.start

/-- Reads the only document of a text, if it has one. -/
def document (levels : Levels) (fuel : Nat) : Build (Option Nat) := do
  let t ← peek
  let root? ← match t.kind with
    | .streamEnd => pure none
    | .directive _ | .documentStart => do
      let _ ← documentStart fuel
      let u ← peek
      match u.kind with
      | .directive _ | .documentStart | .documentEnd | .streamEnd =>
        some <$> addEmpty u.start
      | _ => some <$> node levels true false fuel
    | _ => some <$> node levels true false fuel
  match root? with
  | none => return none
  | some root =>
    match ← documentStart fuel with
    | none => return some root
    | some second =>
      let first := (((← get).nodes[root]?).map (·.start)).getD default
      throw (.marked .reference (some (.singleDocument, some first)) .anotherDocument second)

end Build

/-- The graph of a document: its nodes and the place of the root. -/
structure Graph where
  nodes : Array Node
  root : Nat
  deriving Repr

/-- The graph that a text describes, if it describes one, built with so many levels. -/
def Graph.ofText? (levels : Levels) (cs : List Char) : Except Error (Option Graph) := do
  let start : Builder := ⟨.ofText cs, #[], [], Build.commonHandles⟩
  let (root?, b) ← Build.document levels (8 * cs.length + 64) start
  return root?.map fun root => ⟨b.nodes, root⟩

end IndexScan.Yaml
