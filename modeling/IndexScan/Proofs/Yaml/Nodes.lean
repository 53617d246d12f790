import IndexScan.Proofs.Yaml.Tokens
import IndexScan.Yaml.Node
import Mathlib.Data.List.Forall2

/-!
The nodes of outlines. An outline is a mapping of scalars to scalars and to lists of scalars. From its
tokens, a graph is built that holds it (`document_of_gives`): every scalar has its node, and so has
every list, with the nodes of its items. Nodes that have been found stay as they are while more are
added (`Extends`).
-/

namespace IndexScan.Yaml

/-- In a state in which `x` gives `a`, `x` followed by `f` is `f a` in the next state. -/
theorem bind_ok {σ ε α β : Type} {x : StateT σ (Except ε) α} {f : α → StateT σ (Except ε) β}
    {s s' : σ} {a : α} (gives : x s = .ok (a, s')) : (x >>= f) s = f a s' := by
  simp [bind, StateT.bind, gives, Except.bind]

/-! ### Outlines -/

/-- A scalar of an outline, as its token has it. -/
structure Leaf where
  points : Points
  isPlain : Bool

/-- What stands behind a key of an outline. -/
inductive Branching where
  | leaf (x : Leaf)
  /-- A list of one scalar or more. -/
  | list (first : Leaf) (more : List Leaf)

/-- Keys, and what stands behind them. -/
abbrev Outline := List (Leaf × Branching)

namespace Leaf

def kind (x : Leaf) : TokenKind := .scalar x.points x.isPlain

/-- The tag of the scalar, which has none written in front of it. -/
def tag (x : Leaf) : Tag := Build.scalarTag none x.points x.isPlain

def node (x : Leaf) (mark : Mark) : Node := ⟨x.tag, .scalar x.points, mark⟩

/-- The node at `id` is that of the scalar. -/
def At (x : Leaf) (nodes : Array Node) (id : Nat) : Prop :=
  ∃ mark, nodes[id]? = some (x.node mark)

end Leaf

namespace Branching

/-- The tokens behind the colon. -/
def kinds : Branching → List TokenKind
  | leaf x => [x.kind]
  | list first more => (first :: more).flatMap fun x => [.blockEntry, x.kind]

/-- The node at `id` is that of a scalar, or that of a list with the nodes of its items. -/
def At (v : Branching) (nodes : Array Node) (id : Nat) : Prop :=
  match v with
  | leaf x => x.At nodes id
  | list first more => ∃ mark ids, nodes[id]? = some ⟨.seq, .sequence ids, mark⟩ ∧
      List.Forall₂ (fun x id => x.At nodes id) (first :: more) ids

end Branching

namespace Outline

/-- The tokens of the entries. -/
def kinds (es : Outline) : List TokenKind :=
  es.flatMap fun e => .key :: e.1.kind :: .value :: e.2.kinds

/-- The pairs of nodes are those of the entries. -/
def At (es : Outline) (nodes : Array Node) (pairs : List (Nat × Nat)) : Prop :=
  List.Forall₂ (fun e p => e.1.At nodes p.1 ∧ e.2.At nodes p.2) es pairs

end Outline

/-! ### Growing graphs -/

/-- Every node is also in the larger graph, at the same place. -/
def Extends (nodes nodes' : Array Node) : Prop :=
  ∀ (id : Nat) (n : Node), nodes[id]? = some n → nodes'[id]? = some n

section Extends

variable {nodes nodes' nodes'' : Array Node} {id : Nat} {n m : Node} {f : Node → Node}

theorem Extends.refl (nodes : Array Node) : Extends nodes nodes :=
  fun _ _ here => here

theorem Extends.trans (first : Extends nodes nodes') (second : Extends nodes' nodes'') :
    Extends nodes nodes'' :=
  fun id n here => second id n (first id n here)

theorem extends_push (nodes : Array Node) (n : Node) : Extends nodes (nodes.push n) := by
  intro id m here
  obtain ⟨inside, -⟩ := Array.getElem?_eq_some_iff.mp here
  rw [Array.getElem?_push_lt inside, ← here, Array.getElem?_eq_getElem inside]

/-- Filling in a node leaves the others as they are. -/
theorem getElem?_fill (here : nodes[id]? = some n) {other : Nat} (there : nodes[other]? = some m)
    (differ : n ≠ m) : (nodes.modify other f)[id]? = some n := by
  rw [Array.getElem?_modify, if_neg, here]
  rintro rfl
  rw [here] at there
  exact differ (Option.some.inj there)

/-- Filling in a new node leaves the old ones as they are. -/
theorem Extends.fill (grows : Extends nodes nodes') : Extends nodes (nodes'.modify nodes.size f) := by
  intro id n here
  obtain ⟨inside, -⟩ := Array.getElem?_eq_some_iff.mp here
  rw [Array.getElem?_modify, if_neg (by omega), grows id n here]

theorem Leaf.At.mono {x : Leaf} (at_ : x.At nodes id) (grows : Extends nodes nodes') :
    x.At nodes' id := by
  obtain ⟨mark, here⟩ := at_
  exact ⟨mark, grows _ _ here⟩

theorem Branching.At.mono {v : Branching} (at_ : v.At nodes id) (grows : Extends nodes nodes') :
    v.At nodes' id := by
  cases v with
  | leaf x => exact Leaf.At.mono at_ grows
  | list first more =>
    obtain ⟨mark, ids, here, items⟩ := at_
    exact ⟨mark, ids, grows _ _ here, items.imp fun _ _ item => item.mono grows⟩

/-- Filling in a collection leaves scalars as they are. -/
theorem Leaf.At.fill {x : Leaf} (at_ : x.At nodes id) {other : Nat}
    (there : nodes[other]? = some n) (collection : n.content.kind ≠ .scalar) :
    x.At (nodes.modify other f) id := by
  obtain ⟨mark, here⟩ := at_
  refine ⟨mark, getElem?_fill here there ?_⟩
  rintro rfl
  exact collection rfl

/-- Filling in a mapping leaves scalars and lists as they are. -/
theorem Branching.At.fill {v : Branching} (at_ : v.At nodes id) {other : Nat}
    (there : nodes[other]? = some n) (mapping : n.content.kind = .mapping) :
    v.At (nodes.modify other f) id := by
  have collection : n.content.kind ≠ .scalar := by rw [mapping]; decide
  cases v with
  | leaf x => exact Leaf.At.fill at_ there collection
  | list first more =>
    obtain ⟨mark, ids, here, items⟩ := at_
    refine ⟨mark, ids, getElem?_fill here there ?_, items.imp fun _ _ item =>
      item.fill there collection⟩
    rintro rfl
    cases mapping

end Extends

/-! ### Looking at tokens -/

namespace Build

variable {b : Builder} {kind : TokenKind} {kinds : List TokenKind} {t : Token} {fuel : Nat}

/-- The next token is `t`, and the tokens behind it are of the given kinds. -/
def Sees (b : Builder) (t : Token) (kinds : List TokenKind) : Prop :=
  peek b = .ok (t, b) ∧ b.lexer.drop.Gives kinds

/-- Looking at the next token changes nothing but the lexer. -/
theorem exists_sees (gives : b.lexer.Gives (kind :: kinds)) :
    ∃ t l, peek b = .ok (t, { b with lexer := l }) ∧ t.kind = kind ∧
      l.Gives (kind :: kinds) ∧ Sees { b with lexer := l } t kinds := by
  obtain ⟨t, l, first, again, same, more⟩ := gives
  refine ⟨t, l, ?_, same, ⟨t, l, again, again, same, more⟩, ?_, more⟩
  · simp [peek, first, bind, Except.bind, pure, Except.pure]
  · simp [peek, again, bind, Except.bind, pure, Except.pure]

/-- No anchor and no tag stands in front of a scalar, an entry or a block mapping. -/
theorem properties_of_sees (sees : Sees b t kinds)
    (bare : (∃ ps isPlain, t.kind = .scalar ps isPlain) ∨ t.kind = .blockEntry ∨
      t.kind = .blockMappingStart) : properties b = .ok (⟨none, none, none, none⟩, b) := by
  rw [properties, bind_ok sees.1]
  rcases bare with ⟨ps, isPlain, same⟩ | same | same <;> rw [same] <;> rfl

theorem tagText?_none : tagText? ⟨none, none, none, none⟩ b = .ok (none, b) := rfl

/-- Reading a scalar adds its node. -/
theorem node_leaf {x : Leaf} (gives : b.lexer.Gives (x.kind :: kinds)) (block indentless : Bool)
    (fuel : Nat) :
    ∃ l mark, l.Gives kinds ∧ node none block indentless (fuel + 1) b =
      .ok (b.nodes.size, { b with lexer := l, nodes := b.nodes.push (x.node mark) }) := by
  obtain ⟨t, l, seen, same, -, sees⟩ := exists_sees gives
  refine ⟨l.drop, t.start, sees.2, ?_⟩
  have kind : t.kind = .scalar x.points x.isPlain := same
  rw [node, bind_ok seen]
  simp only [kind]
  rw [bind_ok (properties_of_sees sees (.inl ⟨_, _, kind⟩)), bind_ok tagText?_none, bind_ok sees.1]
  simp only [kind]
  rfl

/-- So does reading one behind a key sign or a dash, which is dropped first. -/
theorem leaf_behind {x : Leaf} (gives : b.lexer.Gives (kind :: x.kind :: kinds))
    (indentless : Bool) (fuel : Nat) :
    ∃ t u l l' l'' mark, t.kind = kind ∧ u.kind = x.kind ∧ l''.Gives kinds ∧
      peek b = .ok (t, { b with lexer := l }) ∧
      peek { b with lexer := l.drop } = .ok (u, { b with lexer := l' }) ∧
      node none true indentless (fuel + 1) { b with lexer := l' } =
        .ok (b.nodes.size, { b with lexer := l'', nodes := b.nodes.push (x.node mark) }) := by
  obtain ⟨t, l, seen, same, -, sees⟩ := exists_sees gives
  obtain ⟨u, l', seen', same', gives', -⟩ := exists_sees (b := { b with lexer := l.drop }) sees.2
  obtain ⟨l'', mark, more, read⟩ :=
    node_leaf (b := { b with lexer := l' }) gives' true indentless fuel
  exact ⟨t, u, l, l', l'', mark, same, same', more, seen, seen', read⟩

/-- Reading the entries of a list adds the nodes of its items. The induction is on the items. -/
theorem items_of_gives {xs : List Leaf} (other : kind ≠ .blockEntry)
    (gives : b.lexer.Gives ((xs.flatMap fun x => [.blockEntry, x.kind]) ++ kind :: kinds))
    (enough : xs.length < fuel) :
    ∃ l nodes ids, l.Gives (kind :: kinds) ∧
      indentlessItems none fuel b = .ok (ids, { b with lexer := l, nodes := nodes }) ∧
      Extends b.nodes nodes ∧ List.Forall₂ (fun x id => x.At nodes id) xs ids := by
  induction xs generalizing b fuel with
  | nil =>
    obtain ⟨fuel, rfl⟩ := Nat.exists_eq_add_of_lt enough
    obtain ⟨t, l, seen, same, again, sees⟩ := exists_sees gives
    refine ⟨l, b.nodes, [], again, ?_, Extends.refl _, .nil⟩
    rw [indentlessItems, bind_ok seen, same]
    cases kind with
    | blockEntry => exact absurd rfl other
    | _ => rfl
  | cons x xs ih =>
    rw [List.length_cons] at enough
    obtain ⟨fuel, rfl⟩ : ∃ m, fuel = m + 2 := ⟨fuel - 2, by omega⟩
    obtain ⟨t, u, l, l', l'', mark, same, kind, more, seen, seen', read⟩ :=
      leaf_behind gives false fuel
    have dropping : drop { b with lexer := l } = .ok ((), { b with lexer := l.drop }) := rfl
    obtain ⟨last, nodes, ids, left, items, grows, rest⟩ :=
      @ih { b with lexer := l'', nodes := b.nodes.push (x.node mark) } (fuel + 1) more (by omega)
    have first : x.At nodes b.nodes.size := ⟨mark, grows _ _ Array.getElem?_push_size⟩
    refine ⟨last, nodes, b.nodes.size :: ids, left, ?_, (extends_push _ _).trans grows,
      .cons first rest⟩
    rw [indentlessItems, bind_ok seen]
    simp only [same]
    rw [bind_ok dropping, bind_ok seen']
    simp only [kind, Leaf.kind]
    rw [bind_ok read, bind_ok items]
    rfl

/-- Reading what stands behind a key adds its nodes. -/
theorem node_of_gives {v : Branching} (other : kind ≠ .blockEntry)
    (gives : b.lexer.Gives (v.kinds ++ kind :: kinds)) (enough : v.kinds.length + 1 < fuel) :
    ∃ l nodes id, l.Gives (kind :: kinds) ∧
      node none true true fuel b = .ok (id, { b with lexer := l, nodes := nodes }) ∧
      Extends b.nodes nodes ∧ v.At nodes id := by
  obtain ⟨fuel, rfl⟩ : ∃ m, fuel = m + 1 := ⟨fuel - 1, by omega⟩
  cases v with
  | leaf x =>
    obtain ⟨l, mark, more, read⟩ := node_leaf gives true true fuel
    exact ⟨l, _, _, more, read, extends_push _ _, mark, Array.getElem?_push_size⟩
  | list first more =>
    have shorter : (first :: more).length < fuel := by
      simp [Branching.kinds, List.length_flatMap] at enough ⊢
      omega
    obtain ⟨t, l, seen, same, gives', sees⟩ := exists_sees gives
    let empty : Node := ⟨.seq, .sequence [], t.start⟩
    let added : Builder := { b with lexer := l, nodes := b.nodes.push empty }
    have adding : add empty { b with lexer := l } = .ok (b.nodes.size, added) := rfl
    have gives : added.lexer.Gives
        (((first :: more).flatMap fun x => [.blockEntry, x.kind]) ++ kind :: kinds) := gives'
    obtain ⟨last, nodes, ids, left, items, grows, at_⟩ := items_of_gives other gives shorter
    have here : nodes[b.nodes.size]? = some empty := grows _ _ Array.getElem?_push_size
    let filled := nodes.modify b.nodes.size fun n => { n with content := .sequence ids }
    have list : filled[b.nodes.size]? = some ⟨.seq, .sequence ids, t.start⟩ := by
      rw [Array.getElem?_modify, if_pos rfl, here]
      rfl
    refine ⟨last, filled, b.nodes.size, left, ?_, ((extends_push _ _).trans grows).fill, t.start, ids,
      list, at_.imp fun _ _ item => item.fill here nofun⟩
    rw [node, bind_ok seen]
    simp only [same]
    rw [bind_ok (properties_of_sees sees (.inr (.inl same))), bind_ok tagText?_none,
      bind_ok sees.1]
    simp only [same, if_true, Option.getD_none, tagOr]
    have naming : nameNext none t.start { b with lexer := l } = .ok ((), { b with lexer := l }) := rfl
    have reading : (do return .sequence (← indentlessItems none fuel) : Build Content) added =
        .ok (.sequence ids, { b with lexer := last, nodes := nodes }) := by
      rw [bind_ok items]
      rfl
    rw [bind_ok naming, bind_ok adding]
    simp only [Levels.inner?_none]
    rw [bind_ok reading]
    rfl

/-- What stands behind a colon begins with a scalar or with an entry. -/
theorem kinds_head (v : Branching) : ∃ first more, v.kinds = first :: more ∧
    (first = .blockEntry ∨ ∃ ps isPlain, first = .scalar ps isPlain) := by
  cases v with
  | leaf x => exact ⟨_, _, rfl, .inr ⟨_, _, rfl⟩⟩
  | list first more => exact ⟨_, _, rfl, .inl rfl⟩

/-- Reading a colon and what stands behind it adds its nodes. -/
theorem value_of_gives {v : Branching} (other : kind ≠ .blockEntry)
    (gives : b.lexer.Gives (.value :: (v.kinds ++ kind :: kinds)))
    (enough : v.kinds.length + 2 < fuel) :
    ∃ l nodes id, l.Gives (kind :: kinds) ∧
      blockValue none fuel b = .ok (id, { b with lexer := l, nodes := nodes }) ∧
      Extends b.nodes nodes ∧ v.At nodes id := by
  obtain ⟨fuel, rfl⟩ : ∃ m, fuel = m + 1 := ⟨fuel - 1, by omega⟩
  obtain ⟨t, l, seen, same, -, sees⟩ := exists_sees gives
  let dropped : Builder := { b with lexer := l.drop }
  have dropping : drop { b with lexer := l } = .ok ((), dropped) := rfl
  have behind : dropped.lexer.Gives (v.kinds ++ kind :: kinds) := sees.2
  obtain ⟨first, more, split, begins⟩ := kinds_head v
  have ahead := behind
  rw [split] at ahead
  obtain ⟨u, l', seen', same', gives', -⟩ := exists_sees ahead
  have gives' : l'.Gives (v.kinds ++ kind :: kinds) := by
    rw [split]
    exact gives'
  have shorter : v.kinds.length + 1 < fuel := by omega
  obtain ⟨last, nodes, id, left, read, grows, at_⟩ :=
    node_of_gives (b := { dropped with lexer := l' }) other gives' shorter
  refine ⟨last, nodes, id, left, ?_, grows, at_⟩
  rw [blockValue, bind_ok seen]
  simp only [same]
  rw [bind_ok dropping, bind_ok seen']
  rcases begins with rfl | ⟨ps, isPlain, rfl⟩ <;> simp only [same'] <;> exact read

/-- Behind an entry, another one or the end of the mapping follows. -/
theorem kinds_end (es : Outline) (kinds : List TokenKind) :
    ∃ kind more, es.kinds ++ .blockEnd :: kinds = kind :: more ∧ kind ≠ .blockEntry := by
  cases es with
  | nil => exact ⟨_, _, rfl, nofun⟩
  | cons e es => exact ⟨_, _, rfl, nofun⟩

/-- Reading the entries of a mapping adds their nodes. The induction is on the entries. -/
theorem entries_of_gives {es : Outline} (start : Mark)
    (gives : b.lexer.Gives (es.kinds ++ .blockEnd :: kinds)) (enough : es.kinds.length < fuel) :
    ∃ l nodes pairs, l.Gives kinds ∧
      blockEntries none start fuel b = .ok (pairs, { b with lexer := l, nodes := nodes }) ∧
      Extends b.nodes nodes ∧ es.At nodes pairs := by
  induction es generalizing b fuel with
  | nil =>
    obtain ⟨fuel, rfl⟩ := Nat.exists_eq_add_of_lt enough
    obtain ⟨t, l, seen, same, -, sees⟩ := exists_sees gives
    refine ⟨l.drop, b.nodes, [], sees.2, ?_, Extends.refl _, .nil⟩
    rw [blockEntries, bind_ok seen]
    simp only [same]
    rfl
  | cons e es ih =>
    obtain ⟨x, v⟩ := e
    have long : Outline.kinds ((x, v) :: es) =
        .key :: x.kind :: .value :: (v.kinds ++ Outline.kinds es) := by
      simp [Outline.kinds]
    rw [long] at enough gives
    simp only [List.length_cons, List.length_append] at enough
    simp only [List.cons_append, List.append_assoc] at gives
    obtain ⟨fuel, rfl⟩ : ∃ m, fuel = m + 2 := ⟨fuel - 2, by omega⟩
    obtain ⟨t, u, l, l', l'', mark, same, same', more, seen, seen', key⟩ :=
      leaf_behind gives true fuel
    have dropping : drop { b with lexer := l } = .ok ((), { b with lexer := l.drop }) := rfl
    obtain ⟨kind, behind, split, other⟩ := kinds_end es kinds
    rw [split] at more
    have shorter : v.kinds.length + 2 < fuel + 1 := by omega
    obtain ⟨l₃, nodes, id, gives₃, value, grows, at_⟩ := value_of_gives
      (b := { b with lexer := l'', nodes := b.nodes.push (x.node mark) }) other more shorter
    rw [← split] at gives₃
    obtain ⟨last, nodes', pairs, left, entries, grows', rest⟩ :=
      @ih { b with lexer := l₃, nodes := nodes } (fuel + 1) gives₃ (by omega)
    have first : x.At nodes b.nodes.size := ⟨mark, grows _ _ Array.getElem?_push_size⟩
    refine ⟨last, nodes', (b.nodes.size, id) :: pairs, left, ?_,
      ((extends_push _ _).trans grows).trans grows',
      .cons ⟨first.mono grows', at_.mono grows'⟩ rest⟩
    rw [blockEntries, bind_ok seen]
    simp only [same]
    rw [bind_ok dropping, bind_ok seen']
    simp only [same', Leaf.kind]
    rw [bind_ok key, bind_ok value, bind_ok entries]
    rfl

/-- Reading the mapping of a document adds its nodes, and first of all its own. -/
theorem root_of_gives {es : Outline}
    (gives : b.lexer.Gives (.blockMappingStart :: (es.kinds ++ .blockEnd :: kinds)))
    (enough : es.kinds.length + 1 < fuel) :
    ∃ l nodes mark pairs, l.Gives kinds ∧
      node none true false fuel b = .ok (b.nodes.size, { b with lexer := l, nodes := nodes }) ∧
      nodes[b.nodes.size]? = some ⟨.map, .mapping pairs, mark⟩ ∧ es.At nodes pairs := by
  obtain ⟨fuel, rfl⟩ : ∃ m, fuel = m + 1 := ⟨fuel - 1, by omega⟩
  obtain ⟨t, l, seen, same, -, sees⟩ := exists_sees gives
  let empty : Node := ⟨.map, .mapping [], t.start⟩
  let added : Builder := { b with lexer := l, nodes := b.nodes.push empty }
  let dropped : Builder := { added with lexer := l.drop }
  have adding : add empty { b with lexer := l } = .ok (b.nodes.size, added) := rfl
  have dropping : drop added = .ok ((), dropped) := rfl
  have shorter : es.kinds.length < fuel := by omega
  obtain ⟨last, nodes, pairs, left, entries, grows, at_⟩ :=
    entries_of_gives (b := dropped) t.start sees.2 shorter
  have here : nodes[b.nodes.size]? = some empty := grows _ _ Array.getElem?_push_size
  let filled := nodes.modify b.nodes.size fun n => { n with content := .mapping pairs }
  have mapping : filled[b.nodes.size]? = some ⟨.map, .mapping pairs, t.start⟩ := by
    rw [Array.getElem?_modify, if_pos rfl, here]
    rfl
  refine ⟨last, filled, t.start, pairs, left, ?_, mapping, at_.imp fun _ _ entry =>
    ⟨entry.1.fill here nofun, entry.2.fill here rfl⟩⟩
  rw [node, bind_ok seen]
  simp only [same]
  rw [bind_ok (properties_of_sees sees (.inr (.inr same))), bind_ok tagText?_none, bind_ok sees.1]
  simp only [same, Option.getD_none, tagOr]
  have naming : nameNext none t.start { b with lexer := l } = .ok ((), { b with lexer := l }) := rfl
  have reading : (do drop; return .mapping (← blockEntries none t.start fuel) : Build Content) added =
      .ok (.mapping pairs, { b with lexer := last, nodes := nodes }) := by
    rw [bind_ok dropping, bind_ok entries]
    rfl
  rw [bind_ok naming, bind_ok adding]
  simp only [Levels.inner?_none]
  rw [bind_ok reading]
  rfl

/-- At the end of the text, no document begins. -/
theorem documentStart_end (gives : b.lexer.Gives [.streamEnd]) (fuel : Nat) :
    ∃ l, documentStart (fuel + 1) b = .ok (none, { b with lexer := l }) := by
  obtain ⟨t, l, seen, same, -, sees⟩ := exists_sees gives
  have skipped : skipDocumentEnds (fuel + 1) b = .ok ((), { b with lexer := l }) := by
    rw [skipDocumentEnds, bind_ok seen, if_neg (by rw [same]; decide)]
    rfl
  refine ⟨l, ?_⟩
  rw [documentStart, bind_ok skipped, bind_ok sees.1, if_pos same]
  rfl

/-- From the tokens of an outline, a graph is built that holds it. -/
theorem document_of_gives {es : Outline}
    (gives : b.lexer.Gives (.blockMappingStart :: (es.kinds ++ [.blockEnd, .streamEnd])))
    (enough : es.kinds.length + 1 < fuel) :
    ∃ b' mark pairs, document none fuel b = .ok (some b.nodes.size, b') ∧
      b'.nodes[b.nodes.size]? = some ⟨.map, .mapping pairs, mark⟩ ∧ es.At b'.nodes pairs := by
  obtain ⟨t, l, seen, same, gives', sees⟩ := exists_sees gives
  obtain ⟨last, nodes, mark, pairs, left, root, here, at_⟩ :=
    root_of_gives (b := { b with lexer := l }) gives' enough
  obtain ⟨fuel, rfl⟩ : ∃ m, fuel = m + 1 := ⟨fuel - 1, by omega⟩
  obtain ⟨l', ended⟩ :=
    documentStart_end (b := { b with lexer := last, nodes := nodes }) left fuel
  refine ⟨{ b with lexer := l', nodes := nodes }, mark, pairs, ?_, here, at_⟩
  have found : (some <$> node none true false (fuel + 1)) { b with lexer := l } =
      .ok (some b.nodes.size, { b with lexer := last, nodes := nodes }) := by
    rw [← bind_pure_comp, bind_ok root]
    rfl
  rw [document, bind_ok seen]
  simp only [same]
  rw [bind_ok found]
  simp only
  rw [bind_ok ended]
  rfl

end Build
end IndexScan.Yaml
