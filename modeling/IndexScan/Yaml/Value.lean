import IndexScan.Yaml.Node
import IndexScan.Yaml.Scalar

/-!
The value of a document. Every node of the graph is resolved once, breadth first: a scalar at
once, a collection when its turn comes. Mappings that ask for others to be merged into them get
their entries in front of their own, so that their own win. Merges within merges take levels, and so
do mappings that stand for scalars; one that stands for itself takes all there are.
-/

namespace IndexScan.Yaml

/-- What a node stands for; the parts of a collection are given by their places in the graph. -/
inductive Part where
  | value (d : Datum)
  | list (items : List Nat)
  | pairs (entries : List (Nat × Nat))
  | set (entries : List (Nat × Nat))
  | map (entries : List (Nat × Nat))
  deriving Repr, Inhabited

/-- Whether a part can be a key. -/
def Part.isHashable : Part → Bool
  | value d => d.isHashable
  | _ => false

/-- The levels that a reader has for collections in collections, for merges within merges, and for
mappings that stand for scalars. -/
structure Room where
  collections : Levels
  merges : Levels
  scalars : Levels
  deriving DecidableEq, Repr

/-- Room for everything. -/
def Room.ample : Room := ⟨none, none, none⟩

/-- A graph whose nodes are being resolved: the parts found so far, the collections that wait for
their turn, the last first, and the levels that there are. -/
structure Resolver where
  nodes : Array Node
  parts : Array (Option Part)
  waiting : List Nat
  room : Room

/-- A step of resolving a graph. -/
abbrev Resolve := StateT Resolver (Except Error)

namespace Resolve

/-- Refuses what stands at a place. -/
def refuse {α : Type} (context : Option (Context × Option Mark)) (flaw : Flaw) (mark : Mark) :
    Resolve α :=
  throw (.marked .value context flaw mark)

/-- The node at a place of the graph. -/
def node (id : Nat) : Resolve Node :=
  return ((← get).nodes[id]?).getD default

/-- Changes the node at a place of the graph. -/
def change (id : Nat) (f : Node → Node) : Resolve Unit :=
  modify fun r => { r with nodes := r.nodes.modify id f }

/-- Says what a node stands for. -/
def setPart (id : Nat) (part : Part) : Resolve Unit :=
  modify fun r => { r with parts := r.parts.setIfInBounds id (some part) }

/-- The text of a scalar. A mapping with a value of its own stands for the scalar that this is. No
more than `fuel` nodes can be passed without one coming again. -/
def scalarText (levels : Levels) : Nat → Nat → Resolve Points
  | 0, _ => throw .tooDeep
  | fuel + 1, id => do
    let n ← node id
    match n.content with
    | .scalar ps => return ps
    | .sequence _ => refuse none (.expectedNode .scalar .sequence) n.start
    | .mapping entries =>
      let nodes := (← get).nodes
      let own? := entries.find? fun e => ((nodes[e.1]?).map (·.tag)) = some .value
      match own? with
      | some (_, value) =>
        match levels.inner? with
        | none => throw .tooDeep
        | some inner => scalarText inner fuel value
      | none => refuse none (.expectedNode .scalar .mapping) n.start

/-- A value that a scalar denotes. -/
def denoted {α : Type} (reading : Except BadScalar α) : Resolve α :=
  liftM (reading.mapError Error.scalar)

/-- The value of a scalar with a known tag. -/
def scalarValue (id : Nat) (n : Node) : Resolve Datum := do
  let ps ← scalarText (← get).room.scalars ((← get).nodes.size + 1) id
  match n.tag with
  | .null => return .null
  | .bool => return .bool (← denoted (Scalar.truth ps))
  | .int => return .int (← denoted (Scalar.integer ps))
  | .float => return .float (← denoted (Scalar.float ps))
  | .binary =>
    match Scalar.bytes ps with
    | .ok bytes => return .bytes bytes
    | .error flaw => refuse none flaw n.start
  | .timestamp =>
    match n.content with
    | .scalar _ => denoted (Scalar.time ps)
    | _ => throw (.scalar .timeOfMapping)
  | _ => return Scalar.text ps

/-- Resolves a node that may be resolved already. A collection is left to wait. -/
def resolve (id : Nat) : Resolve Part := do
  match ((← get).parts[id]?).join with
  | some part => return part
  | none =>
    let n ← node id
    let wait (empty : Part) : Resolve Part := do
      setPart id empty
      modify fun r => { r with waiting := id :: r.waiting }
      return empty
    match n.tag with
    | .orderedMap => wait (.pairs [])
    | .pairs => wait (.pairs [])
    | .set => wait (.set [])
    | .seq => wait (.list [])
    | .map => wait (.map [])
    | .other text => refuse none (.unknownTag text) n.start
    | .merge => refuse none (.unknownTag Tag.merge.text) n.start
    | .value => refuse none (.unknownTag Tag.value.text) n.start
    | _ =>
      let part := Part.value (← scalarValue id n)
      setPart id part
      return part

/-- The entries of a mapping; none if the node is no mapping. -/
def entries (id : Nat) : Resolve (List (Nat × Nat)) := do
  match (← node id).content with
  | .mapping entries => return entries
  | _ => return []

/-- Puts the entries that are merged into a mapping in front of its own, and makes plain texts of the
keys of values of its own. What is merged has its own merges done first, and every merge is done
once. -/
def flatten (levels : Levels) : Nat → Nat → Resolve Unit
  | 0, _ => return ()
  | fuel + 1, id => do
    let n ← node id
    let nodes := (← get).nodes
    let hasTag (tag : Tag) (e : Nat × Nat) : Bool := ((nodes[e.1]?).map (·.tag)) = some tag
    let (merges, own) := (← entries id).partition (hasTag .merge)
    for e in own.filter (hasTag .value) do
      change e.1 fun key => { key with tag := .str }
    let setEntries (es : List (Nat × Nat)) : Resolve Unit :=
      change id fun n => { n with content := .mapping es }
    let context := some (Context.mappingValue, some n.start)
    if n.content.kind = .mapping then setEntries own
    let flattenInner (other : Nat) : Resolve Unit :=
      match levels.inner? with
      | none => throw .tooDeep
      | some inner => flatten inner fuel other
    let merged ← merges.mapM fun e => do
      let source ← node e.2
      match source.content with
      | .mapping _ =>
        flattenInner e.2
        entries e.2
      | .sequence items =>
        let lists ← items.mapM fun item => do
          let m ← node item
          if m.content.kind ≠ .mapping then
            refuse context (.mergedNode m.content.kind) m.start
          flattenInner item
          entries item
        return lists.reverse.flatten
      | .scalar _ => refuse context (.mergedValue .scalar) source.start
    if !merged.flatten.isEmpty then setEntries (merged.flatten ++ own)

/-- The number of entries that all mappings have together. -/
def entryCount (nodes : Array Node) : Nat :=
  nodes.foldl (fun count n => match n.content with
    | .mapping entries => count + entries.length
    | _ => count) 0

/-- The entries of a mapping, merges done and every key and value resolved. -/
def mappingEntries (id : Nat) (n : Node) : Resolve (List (Nat × Nat)) := do
  if n.content.kind ≠ .mapping then
    refuse none (.expectedNode .mapping n.content.kind) n.start
  flatten (← get).room.merges (entryCount (← get).nodes + 1) id
  let es ← entries id
  for (key, value) in es do
    let part ← resolve key
    if !part.isHashable then
      refuse (some (.mappingValue, some n.start)) .unhashableKey (← node key).start
    let _ ← resolve value
  return es

/-- The entries of a sequence of mappings with one entry each. -/
def singleEntries (context : Context) (n : Node) : Resolve (List (Nat × Nat)) := do
  let context := some (context, some n.start)
  match n.content with
  | .sequence items =>
    items.mapM fun item => do
      let m ← node item
      match m.content with
      | .mapping [(key, value)] =>
        let _ ← resolve key
        let _ ← resolve value
        return (key, value)
      | .mapping es => refuse context (.itemCount es.length) m.start
      | content => refuse context (.expectedSingleMapping content.kind) m.start
  | content => refuse context (.expectedSequence content.kind) n.start

/-- Resolves what a collection that waited holds. -/
def settle (id : Nat) : Resolve Unit := do
  let n ← node id
  match n.tag with
  | .orderedMap => setPart id (.pairs (← singleEntries .orderedMap n))
  | .pairs => setPart id (.pairs (← singleEntries .pairs n))
  | .set => setPart id (.set (← mappingEntries id n))
  | .map => setPart id (.map (← mappingEntries id n))
  | _ =>
    match n.content with
    | .sequence items =>
      for item in items do
        let _ ← resolve item
      setPart id (.list items)
    | content => refuse none (.expectedNode .sequence content.kind) n.start

/-- Settles the collections that wait, and those that come to wait meanwhile. -/
def settleAll : Nat → Resolve Unit
  | 0 => return ()
  | fuel + 1 => do
    let round := (← get).waiting.reverse
    if !round.isEmpty then
      modify fun r => { r with waiting := [] }
      round.forM settle
      settleAll fuel

end Resolve

/-- The members of a set in their order: that of their remainders by the set's width, where all of
them are natural numbers. -/
def setOrder (members : List Datum) : List Datum :=
  let width := if members.length < 5 then 8 else Nat.pow 2 ((2 * members.length).log2 + 1)
  let place? (d : Datum) : Option Nat := match d.asInt? with
    | some (.ofNat n) => some (n % width)
    | _ => none
  if members.all fun d => (place? d).isSome then
    members.mergeSort fun a b => (place? a).getD 0 ≤ (place? b).getD 0
  else members

/-- The value of a resolved node. A node among those `above` it holds itself; `fuel` bounds the
depth. -/
def Part.toDatum (parts : Array (Option Part)) : Nat → List Nat → Nat → Datum
  | 0, _, _ => .null
  | fuel + 1, above, id =>
    let inner (child : Nat) : Datum := toDatum parts fuel (id :: above) child
    match (parts[id]?).join with
    | none => .null
    | some (.value d) => d
    | some (.list items) =>
      if above.contains id then .enclosingList else .list (items.map inner)
    | some (.pairs entries) =>
      if above.contains id then .enclosingList
      else .list (entries.map fun e => .tuple [inner e.1, inner e.2])
    | some (.set entries) =>
      let member := entries.map fun e => (inner e.1, Datum.null)
      .set (setOrder ((member.foldl (fun es e => Datum.insertEntry e.1 e.2 es) []).map (·.1)))
    | some (.map entries) =>
      if above.contains id then .enclosingMap
      else .map (entries.foldl (fun es e => Datum.insertEntry (inner e.1) (inner e.2) es) [])

/-- The value that a graph describes. -/
def Graph.value (room : Room) (g : Graph) : Except Error Datum := do
  let start : Resolver := ⟨g.nodes, Array.replicate g.nodes.size none, [], room⟩
  let steps : Resolve Unit := do
    let _ ← Resolve.resolve g.root
    Resolve.settleAll (g.nodes.size + 1)
  let (_, r) ← steps.run start
  return Part.toDatum r.parts (g.nodes.size + 2) [] g.root

/-- Whether a text may hold a character. -/
def isAllowed (c : Char) : Bool :=
  let n := c.toNat
  n == 0x09 || n == 0x0A || n == 0x0D || (0x20 ≤ n && n ≤ 0x7E) || n == 0x85
    || (0xA0 ≤ n && n ≤ 0xFFFD) || 0x10000 ≤ n

/-- The value that a text describes, read with the levels of `room`; a text without a document
describes nothing. -/
def readWithin (room : Room) (cs : List Char) : Except Error Datum := do
  if let some position := cs.findIdx? fun c => !isAllowed c then
    throw (.unprintable (cs.getD position endMark) position)
  match ← Graph.ofText? room.collections cs with
  | none => return .null
  | some g => g.value room

/-- The value that a text describes, however deep. -/
def read (cs : List Char) : Except Error Datum :=
  readWithin .ample cs

end IndexScan.Yaml
