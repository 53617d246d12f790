import IndexScan.Proofs.Yaml.Nodes
import IndexScan.Yaml.Value

/-!
The values of outlines. What a graph that holds an outline describes is the mapping that the outline
denotes (`value_of_graph`). While the graph is being resolved, every part that has been found is the
one that its node stands for, except for the collections that still wait (`Halfway`).
-/

namespace IndexScan.Yaml

/-! ### What outlines denote -/

/-- A scalar denotes its text, or the integer that it looks like. -/
def Leaf.Denotes (x : Leaf) (d : Datum) : Prop :=
  (x.tag = .str ∧ d = Scalar.text x.points) ∨
    ∃ n, x.tag = .int ∧ Scalar.integer x.points = .ok n ∧ d = .int n

def Branching.Denotes (v : Branching) (d : Datum) : Prop :=
  match v with
  | leaf x => x.Denotes d
  | list first more => ∃ ds, List.Forall₂ Leaf.Denotes (first :: more) ds ∧ d = .list ds

/-- The keys and what stands behind them denote the keys and values of `entries`. -/
def Outline.Denotes (es : Outline) (entries : List (Datum × Datum)) : Prop :=
  List.Forall₂ (fun e p => e.1.Denotes p.1 ∧ e.2.Denotes p.2) es entries

variable {nodes : Array Node} {id : Nat} {d : Datum} {ids : List Nat} {ds : List Datum}

/-- The node at `id` is that of a scalar that denotes `d`. -/
def IsValue (nodes : Array Node) (id : Nat) (d : Datum) : Prop :=
  ∃ x : Leaf, x.At nodes id ∧ x.Denotes d

/-- The node at `id` is that of a list whose items denote `ds`. -/
def IsList (nodes : Array Node) (id : Nat) (ids : List Nat) (ds : List Datum) : Prop :=
  (∃ mark, nodes[id]? = some ⟨.seq, .sequence ids, mark⟩) ∧ List.Forall₂ (IsValue nodes) ids ds

theorem IsValue.tag (value : IsValue nodes id d) :
    ∃ tag ps mark, nodes[id]? = some ⟨tag, .scalar ps, mark⟩ ∧
      ((tag = .str ∧ d = Scalar.text ps) ∨
        ∃ n, tag = .int ∧ Scalar.integer ps = .ok n ∧ d = .int n) := by
  obtain ⟨x, ⟨mark, here⟩, denotes⟩ := value
  exact ⟨x.tag, x.points, mark, here, denotes⟩

/-- A scalar denotes one value. -/
theorem IsValue.unique (one : IsValue nodes id d) {d' : Datum} (other : IsValue nodes id d') :
    d = d' := by
  obtain ⟨tag, ps, mark, here, denotes⟩ := one.tag
  obtain ⟨tag', ps', mark', here', denotes'⟩ := other.tag
  rw [here] at here'
  cases here'
  rcases denotes with ⟨rfl, rfl⟩ | ⟨n, rfl, read, rfl⟩
  · rcases denotes' with ⟨-, rfl⟩ | ⟨n, same, -⟩
    · rfl
    · cases same
  · rcases denotes' with ⟨same, -⟩ | ⟨n', -, read', rfl⟩
    · cases same
    · rw [read] at read'
      cases read'
      rfl

/-- No node is both. -/
theorem IsValue.not_list (value : IsValue nodes id d) : ¬ IsList nodes id ids ds := by
  rintro ⟨⟨mark, there⟩, -⟩
  obtain ⟨tag, ps, mark', here, -⟩ := value.tag
  rw [there] at here
  cases here

/-- Neither is a mapping. -/
theorem IsValue.not_map (value : IsValue nodes id d) {pairs : List (Nat × Nat)} {mark : Mark} :
    ¬ nodes[id]? = some ⟨.map, .mapping pairs, mark⟩ := by
  obtain ⟨tag, ps, mark', here, -⟩ := value.tag
  rw [here]
  exact nofun

theorem IsList.not_map (list : IsList nodes id ids ds) {pairs : List (Nat × Nat)} {mark : Mark} :
    ¬ nodes[id]? = some ⟨.map, .mapping pairs, mark⟩ := by
  obtain ⟨mark', here⟩ := list.1
  rw [here]
  exact nofun

theorem IsList.items_unique (one : IsList nodes id ids ds) {ids' : List Nat} {ds' : List Datum}
    (other : IsList nodes id ids' ds') : ids = ids' := by
  obtain ⟨mark, here⟩ := one.1
  obtain ⟨mark', there⟩ := other.1
  rw [here] at there
  cases there
  rfl

/-- A scalar can be a key. -/
theorem IsValue.isHashable (value : IsValue nodes id d) : d.isHashable = true := by
  obtain ⟨tag, ps, mark, -, ⟨-, rfl⟩ | ⟨n, -, -, rfl⟩⟩ := value.tag
  · rw [Scalar.text]
    split <;> rfl
  · rfl

/-- The node at `id` is that of a scalar or a list that denotes `d`. -/
def IsBranching (nodes : Array Node) (id : Nat) (d : Datum) : Prop :=
  IsValue nodes id d ∨ ∃ ids ds, IsList nodes id ids ds ∧ d = .list ds

/-- The pairs of nodes are those of entries that denote `entries`. -/
def IsEntries (nodes : Array Node) (pairs : List (Nat × Nat)) (entries : List (Datum × Datum)) :
    Prop :=
  List.Forall₂ (fun p e => IsValue nodes p.1 e.1 ∧ IsBranching nodes p.2 e.2) pairs entries

section IsEntries

variable {pairs : List (Nat × Nat)} {entries : List (Datum × Datum)}

theorem IsEntries.key (isEntries : IsEntries nodes pairs entries) :
    ∀ p ∈ pairs, ∃ d, IsValue nodes p.1 d := by
  induction isEntries with
  | nil => exact nofun
  | cons entry isEntries ih =>
    intro p mem
    rcases List.mem_cons.mp mem with rfl | mem
    · exact ⟨_, entry.1⟩
    · exact ih p mem

/-- The keys of outlines ask for no merges. -/
theorem IsEntries.key_tag (isEntries : IsEntries nodes pairs entries) (tag : Tag) {p : Nat × Nat}
    (mem : p ∈ pairs) (other : tag ≠ .str ∧ tag ≠ .int) :
    decide (((nodes[p.1]?).map (·.tag)) = some tag) = false := by
  obtain ⟨d, value⟩ := isEntries.key p mem
  obtain ⟨tag', ps, mark, here, ⟨rfl, -⟩ | ⟨n, rfl, -⟩⟩ := value.tag <;> rw [here]
  · simpa using other.1.symm
  · simpa using other.2.symm

end IsEntries

/-! ### Parts found so far -/

/-- The part that has been found for a node. -/
def known (r : Resolver) (id : Nat) : Option Part :=
  (r.parts[id]?).join

/-- What has been found in `r` has been found in `r'`, and only scalars and lists have got other
parts. -/
structure Keeps (nodes : Array Node) (r r' : Resolver) : Prop where
  found : ∀ id, (known r id).isSome → (known r' id).isSome
  frame : ∀ id, (∀ d, ¬ IsValue nodes id d) → (∀ ids ds, ¬ IsList nodes id ids ds) →
    known r' id = known r id

theorem Keeps.refl (nodes : Array Node) (r : Resolver) : Keeps nodes r r :=
  ⟨fun _ found => found, fun _ _ _ => rfl⟩

theorem Keeps.trans {r r' r'' : Resolver} (first : Keeps nodes r r') (second : Keeps nodes r' r'') :
    Keeps nodes r r'' where
  found id found := second.found id (first.found id found)
  frame id value list := (second.frame id value list).trans (first.frame id value list)

/-- With another part for a node. -/
def withPart (r : Resolver) (id : Nat) (part : Part) : Resolver :=
  { r with parts := r.parts.setIfInBounds id (some part) }

theorem known_withPart {r : Resolver} (inside : id < r.parts.size) (part : Part) (other : Nat) :
    known (withPart r id part) other = if id = other then some part else known r other := by
  rw [known, withPart, Array.getElem?_setIfInBounds]
  split_ifs with same
  · rfl
  · rfl

theorem found_withPart {r : Resolver} (inside : id < r.parts.size) (part : Part) {other : Nat}
    (found : (known r other).isSome) : (known (withPart r id part) other).isSome := by
  rw [known_withPart inside]
  split_ifs
  · rfl
  · exact found

theorem keeps_withPart {r : Resolver} (inside : id < r.parts.size) (part : Part)
    (held : (∃ d, IsValue nodes id d) ∨ ∃ ids ds, IsList nodes id ids ds) :
    Keeps nodes r (withPart r id part) where
  found _ found := found_withPart inside part found
  frame other value list := by
    rw [known_withPart inside, if_neg]
    rintro rfl
    rcases held with ⟨d, held⟩ | ⟨ids, ds, held⟩
    · exact value d held
    · exact list ids ds held

/-- Halfway through the graph: what has been found is what the nodes stand for, except for the lists
of this round and those that wait, whose items may be missing. -/
structure Halfway (nodes : Array Node) (round : List Nat) (r : Resolver) : Prop where
  nodes_eq : r.nodes = nodes
  size_eq : r.parts.size = nodes.size
  values : ∀ {id d part}, IsValue nodes id d → known r id = some part → part = .value d
  lists : ∀ {id ids ds part}, IsList nodes id ids ds → known r id = some part →
    (part = .list ids ∧ ∀ item ∈ ids, (known r item).isSome) ∨ id ∈ round ∨ id ∈ r.waiting
  waits : ∀ id ∈ r.waiting, ∃ ids ds, IsList nodes id ids ds

section Halfway

variable {round : List Nat} {r : Resolver}

theorem IsValue.lt (value : IsValue nodes id d) (half : Halfway nodes round r) :
    id < r.parts.size := by
  obtain ⟨tag, ps, mark, here, -⟩ := value.tag
  rw [half.size_eq]
  exact (Array.getElem?_eq_some_iff.mp here).1

theorem IsList.lt (list : IsList nodes id ids ds) (half : Halfway nodes round r) :
    id < r.parts.size := by
  obtain ⟨mark, here⟩ := list.1
  rw [half.size_eq]
  exact (Array.getElem?_eq_some_iff.mp here).1

/-- The value of a scalar is found at once. -/
theorem Halfway.withValue (half : Halfway nodes round r) (value : IsValue nodes id d) :
    Halfway nodes round (withPart r id (.value d)) := by
  have inside := value.lt half
  refine ⟨half.nodes_eq, ?_, ?_, ?_, half.waits⟩
  · rw [withPart, Array.size_setIfInBounds, half.size_eq]
  · intro other d' part value' found
    rw [known_withPart inside] at found
    split_ifs at found with same
    · subst same
      cases found
      rw [value.unique value']
    · exact half.values value' found
  · intro other ids ds part list found
    rw [known_withPart inside] at found
    split_ifs at found with same
    · subst same
      exact absurd list value.not_list
    · rcases half.lists list found with ⟨rfl, items⟩ | later
      · exact .inl ⟨rfl, fun item mem => found_withPart inside _ (items item mem)⟩
      · exact .inr later

/-- A list is left to wait. -/
theorem Halfway.withWaiting (half : Halfway nodes round r) (list : IsList nodes id ids ds) :
    Halfway nodes round { withPart r id (.list []) with waiting := id :: r.waiting } := by
  have inside := list.lt half
  refine ⟨half.nodes_eq, ?_, ?_, ?_, ?_⟩
  · rw [withPart, Array.size_setIfInBounds, half.size_eq]
  · intro other d part value found
    change known (withPart r id _) other = _ at found
    rw [known_withPart inside] at found
    split_ifs at found with same
    · subst same
      exact absurd list value.not_list
    · exact half.values value found
  · intro other ids' ds' part list' found
    change known (withPart r id _) other = _ at found
    rw [known_withPart inside] at found
    split_ifs at found with same
    · subst same
      exact .inr (.inr (List.mem_cons_self ..))
    · rcases half.lists list' found with ⟨rfl, items⟩ | now | later
      · exact .inl ⟨rfl, fun item mem => found_withPart inside _ (items item mem)⟩
      · exact .inr (.inl now)
      · exact .inr (.inr (List.mem_cons_of_mem _ later))
  · intro other mem
    rcases List.mem_cons.mp mem with rfl | mem
    · exact ⟨ids, ds, list⟩
    · exact half.waits other mem

/-- A list whose items have been found is done. -/
theorem Halfway.withList (half : Halfway nodes (id :: round) r) (list : IsList nodes id ids ds)
    (items : ∀ item ∈ ids, (known r item).isSome) :
    Halfway nodes round (withPart r id (.list ids)) := by
  have inside := list.lt half
  refine ⟨half.nodes_eq, ?_, ?_, ?_, half.waits⟩
  · rw [withPart, Array.size_setIfInBounds, half.size_eq]
  · intro other d part value found
    rw [known_withPart inside] at found
    split_ifs at found with same
    · subst same
      exact absurd list value.not_list
    · exact half.values value found
  · intro other ids' ds' part list' found
    rw [known_withPart inside] at found
    split_ifs at found with same
    · subst same
      cases found
      obtain rfl := list.items_unique list'
      exact .inl ⟨rfl, fun item mem => found_withPart inside _ (items item mem)⟩
    · rcases half.lists list' found with ⟨rfl, items'⟩ | now | later
      · exact .inl ⟨rfl, fun item mem => found_withPart inside _ (items' item mem)⟩
      · rcases List.mem_cons.mp now with rfl | now
        · exact absurd rfl same
        · exact .inr (.inl now)
      · exact .inr (.inr later)

/-- The lists that wait have their turn in the next round. -/
theorem Halfway.nextRound (half : Halfway nodes [] r) :
    Halfway nodes r.waiting.reverse { r with waiting := [] } := by
  refine ⟨half.nodes_eq, half.size_eq, half.values, ?_, nofun⟩
  intro id ids ds part list found
  rcases half.lists list found with done | now | later
  · exact .inl done
  · cases now
  · exact .inr (.inl (List.mem_reverse.mpr later))

/-- Nothing is asked of the part of a mapping. -/
theorem Halfway.withMap (half : Halfway nodes round r) {pairs : List (Nat × Nat)} {mark : Mark}
    (here : nodes[id]? = some ⟨.map, .mapping pairs, mark⟩) (part : Part) :
    Halfway nodes round (withPart r id part) := by
  have inside : id < r.parts.size := by
    rw [half.size_eq]
    exact (Array.getElem?_eq_some_iff.mp here).1
  refine ⟨half.nodes_eq, ?_, ?_, ?_, half.waits⟩
  · rw [withPart, Array.size_setIfInBounds, half.size_eq]
  · intro other d part' value found
    rw [known_withPart inside, if_neg] at found
    · exact half.values value found
    · rintro rfl
      exact value.not_map here
  · intro other ids ds part' list found
    rw [known_withPart inside, if_neg] at found
    · rcases half.lists list found with ⟨rfl, items⟩ | later
      · exact .inl ⟨rfl, fun item mem => found_withPart inside _ (items item mem)⟩
      · exact .inr later
    · rintro rfl
      exact list.not_map here

/-- Nothing has been found at first. -/
theorem halfway_start (nodes : Array Node) (room : Room) :
    Halfway nodes [] ⟨nodes, Array.replicate nodes.size none, [], room⟩ := by
  have nothing (id : Nat) : known ⟨nodes, Array.replicate nodes.size none, [], room⟩ id = none := by
    rw [known, Array.getElem?_replicate]
    split_ifs <;> rfl
  refine ⟨rfl, Array.size_replicate, ?_, ?_, nofun⟩
  · intro id d part value found
    rw [nothing] at found
    cases found
  · intro id ids ds part list found
    rw [nothing] at found
    cases found

end Halfway

/-! ### One node -/

namespace Resolve

variable {round : List Nat} {r : Resolver} {n : Node}

theorem node_ok (here : r.nodes[id]? = some n) : node id r = .ok (n, r) := by
  change Except.ok ((r.nodes[id]?).getD default, r) = _
  rw [here]
  rfl

theorem scalarText_ok {tag : Tag} {ps : Points} {mark : Mark}
    (here : r.nodes[id]? = some ⟨tag, .scalar ps, mark⟩) (levels : Levels) (fuel : Nat) :
    scalarText levels (fuel + 1) id r = .ok (ps, r) := by
  rw [scalarText, bind_ok (node_ok here)]
  rfl

/-- A scalar is resolved at once. -/
theorem resolve_value (half : Halfway nodes round r) (value : IsValue nodes id d) :
    ∃ r', resolve id r = .ok (.value d, r') ∧ Halfway nodes round r' ∧ Keeps nodes r r' ∧
      (known r' id).isSome ∧ r'.waiting = r.waiting := by
  have getting : (get : Resolve Resolver) r = .ok (r, r) := rfl
  rw [resolve, bind_ok getting]
  cases found : (r.parts[id]?).join with
  | some part =>
    have known_ : known r id = some part := found
    cases half.values value known_
    exact ⟨r, rfl, half, Keeps.refl _ r, by rw [known_]; rfl, rfl⟩
  | none =>
    obtain ⟨tag, ps, mark, here, denotes⟩ := value.tag
    have inside := value.lt half
    rw [← half.nodes_eq] at here
    have keeps := keeps_withPart inside (.value d) (.inl ⟨d, value⟩)
    refine ⟨withPart r id (.value d), ?_, half.withValue value, keeps, ?_, rfl⟩
    · simp only
      rw [bind_ok (node_ok here)]
      have valued : scalarValue id ⟨tag, .scalar ps, mark⟩ r = .ok (d, r) := by
        rw [scalarValue, bind_ok getting, bind_ok getting, bind_ok (scalarText_ok here _ _)]
        rcases denotes with ⟨rfl, rfl⟩ | ⟨n, rfl, read, rfl⟩
        · rfl
        · simp only [read]
          rfl
      rcases denotes with ⟨rfl, -⟩ | ⟨n, rfl, -⟩ <;>
      · simp only
        rw [bind_ok valued]
        rfl
    · rw [known_withPart inside, if_pos rfl]
      rfl

/-- A list is left to wait, unless it has been met before. -/
theorem resolve_list (half : Halfway nodes round r) (list : IsList nodes id ids ds) :
    ∃ part r', resolve id r = .ok (part, r') ∧ Halfway nodes round r' ∧ Keeps nodes r r' ∧
      (known r' id).isSome := by
  have getting : (get : Resolve Resolver) r = .ok (r, r) := rfl
  rw [resolve, bind_ok getting]
  cases found : (r.parts[id]?).join with
  | some part =>
    have known_ : known r id = some part := found
    exact ⟨part, r, rfl, half, Keeps.refl _ r, by rw [known_]; rfl⟩
  | none =>
    obtain ⟨mark, here⟩ := list.1
    have inside := list.lt half
    rw [← half.nodes_eq] at here
    have keeps := keeps_withPart inside (.list []) (.inr ⟨ids, ds, list⟩)
    refine ⟨.list [], _, ?_, half.withWaiting list, ⟨keeps.found, keeps.frame⟩, ?_⟩
    · simp only
      rw [bind_ok (node_ok here)]
      rfl
    · change (known (withPart r id _) id).isSome
      rw [known_withPart inside, if_pos rfl]
      rfl

/-! ### Lists -/

/-- The items of a list are resolved one by one. -/
theorem resolve_items (half : Halfway nodes round r)
    (items : List.Forall₂ (IsValue nodes) ids ds) :
    ∃ r', (forIn ids PUnit.unit fun item _ => do
        let _ ← resolve item
        pure (ForInStep.yield PUnit.unit) : Resolve PUnit) r = .ok (PUnit.unit, r') ∧
      Halfway nodes round r' ∧ Keeps nodes r r' ∧ (∀ item ∈ ids, (known r' item).isSome) ∧
      r'.waiting = r.waiting := by
  induction items generalizing r with
  | nil => exact ⟨r, rfl, half, Keeps.refl _ r, nofun, rfl⟩
  | @cons item d ids ds value items ih =>
    obtain ⟨r', first, half', keeps, found, waiting⟩ := resolve_value half value
    obtain ⟨last, rest, half'', keeps', all, waiting'⟩ := ih half'
    refine ⟨last, ?_, half'', keeps.trans keeps', ?_, waiting'.trans waiting⟩
    · rw [List.forIn_cons, bind_assoc, bind_ok first]
      exact rest
    · intro other mem
      rcases List.mem_cons.mp mem with rfl | mem
      · exact keeps'.found _ found
      · exact all other mem

/-- When its turn comes, a list is done. -/
theorem settle_list (half : Halfway nodes (id :: round) r) (list : IsList nodes id ids ds) :
    ∃ r', settle id r = .ok ((), r') ∧ Halfway nodes round r' ∧ Keeps nodes r r' ∧
      r'.waiting = r.waiting := by
  obtain ⟨mark, here⟩ := list.1
  obtain ⟨r', items, half', keeps, found, waiting⟩ := resolve_items half list.2
  have inside := list.lt half'
  refine ⟨withPart r' id (.list ids), ?_, half'.withList list found,
    keeps.trans (keeps_withPart inside _ (.inr ⟨ids, ds, list⟩)), waiting⟩
  rw [← half.nodes_eq] at here
  rw [settle, bind_ok (node_ok here)]
  simp only
  rw [bind_ok items]
  rfl

/-- The lists of a round are done one by one. -/
theorem settle_round (half : Halfway nodes round r)
    (lists : ∀ id ∈ round, ∃ ids ds, IsList nodes id ids ds) :
    ∃ r', round.forM settle r = .ok ((), r') ∧ Halfway nodes [] r' ∧ Keeps nodes r r' ∧
      r'.waiting = r.waiting := by
  induction round generalizing r with
  | nil => exact ⟨r, rfl, half, Keeps.refl _ r, rfl⟩
  | cons id round ih =>
    obtain ⟨ids, ds, list⟩ := lists id (List.mem_cons_self ..)
    obtain ⟨r', first, half', keeps, waiting⟩ := settle_list half list
    obtain ⟨last, rest, half'', keeps', waiting'⟩ :=
      ih half' fun other mem => lists other (List.mem_cons_of_mem _ mem)
    refine ⟨last, ?_, half'', keeps.trans keeps', waiting'.trans waiting⟩
    change (settle id >>= fun _ => round.forM settle) r = _
    rw [bind_ok first]
    exact rest

/-! ### The mapping -/

variable {entries : List (Datum × Datum)} {pairs : List (Nat × Nat)}

theorem resolve_branching (half : Halfway nodes round r) (branching : IsBranching nodes id d) :
    ∃ part r', resolve id r = .ok (part, r') ∧ Halfway nodes round r' ∧ Keeps nodes r r' ∧
      (known r' id).isSome := by
  rcases branching with value | ⟨ids, ds, list, -⟩
  · obtain ⟨r', resolved, half', keeps, found, -⟩ := resolve_value half value
    exact ⟨_, r', resolved, half', keeps, found⟩
  · exact resolve_list half list

/-- The entries of a mapping are resolved one by one. -/
theorem resolve_entries (start : Mark) (half : Halfway nodes round r)
    (isEntries : IsEntries nodes pairs entries) :
    ∃ r', (forIn pairs PUnit.unit fun x _ => do
        let part ← resolve x.1
        if !part.isHashable then
          refuse (some (.mappingValue, some start)) .unhashableKey (← node x.1).start
        let _ ← resolve x.2
        pure (ForInStep.yield PUnit.unit) : Resolve PUnit) r = .ok (PUnit.unit, r') ∧
      Halfway nodes round r' ∧ Keeps nodes r r' ∧
      ∀ p ∈ pairs, (known r' p.1).isSome ∧ (known r' p.2).isSome := by
  induction isEntries generalizing r with
  | nil => exact ⟨r, rfl, half, Keeps.refl _ r, nofun⟩
  | @cons p e pairs entries entry isEntries ih =>
    obtain ⟨r₁, key, half₁, keeps₁, found₁, -⟩ := resolve_value half entry.1
    obtain ⟨part, r₂, value, half₂, keeps₂, found₂⟩ := resolve_branching half₁ entry.2
    obtain ⟨last, rest, half', keeps', all⟩ := ih half₂
    refine ⟨last, ?_, half', (keeps₁.trans keeps₂).trans keeps', ?_⟩
    · have hashable : (!(Part.value e.1).isHashable) = false := by
        rw [Part.isHashable, entry.1.isHashable]
        rfl
      rw [List.forIn_cons, bind_assoc, bind_ok key]
      simp only [hashable, Bool.false_eq_true, if_false]
      rw [bind_assoc, bind_ok value]
      exact rest
    · intro other mem
      rcases List.mem_cons.mp mem with rfl | mem
      · exact ⟨keeps'.found _ (keeps₂.found _ found₁), keeps'.found _ found₂⟩
      · exact all other mem

/-- A node is as it was if it is changed into itself. -/
theorem modify_self {f : Node → Node} (here : nodes[id]? = some n) (same : f n = n) :
    nodes.modify id f = nodes := by
  apply Array.ext_getElem?
  intro other
  rw [Array.getElem?_modify]
  split_ifs with equal
  · subst equal
    rw [here, Option.map_some, same]
  · rfl

theorem entries_ok {tag : Tag} {mark : Mark}
    (here : r.nodes[id]? = some ⟨tag, .mapping pairs, mark⟩) :
    Resolve.entries id r = .ok (pairs, r) := by
  rw [Resolve.entries, bind_ok (node_ok here)]
  rfl

/-- Nothing is merged into the mapping of an outline. -/
theorem flatten_ok {tag : Tag} {mark : Mark} (isEntries : IsEntries r.nodes pairs entries)
    (here : r.nodes[id]? = some ⟨tag, .mapping pairs, mark⟩) (levels : Levels) (fuel : Nat) :
    flatten levels (fuel + 1) id r = .ok ((), r) := by
  have getting : (get : Resolve Resolver) r = .ok (r, r) := rfl
  have unmerged : pairs.partition (fun e => decide (((r.nodes[e.1]?).map (·.tag)) = some .merge)) =
      ([], pairs) := by
    rw [List.partition_eq_filter_filter, List.filter_eq_nil_iff.mpr, List.filter_eq_self.mpr]
    · intro p mem
      simp only [Function.comp, isEntries.key_tag .merge mem ⟨nofun, nofun⟩, Bool.not_false]
    · intro p mem
      rw [isEntries.key_tag .merge mem ⟨nofun, nofun⟩]
      exact nofun
  have unvalued : pairs.filter (fun e => decide (((r.nodes[e.1]?).map (·.tag)) = some .value)) =
      [] := by
    rw [List.filter_eq_nil_iff]
    intro p mem
    rw [isEntries.key_tag .value mem ⟨nofun, nofun⟩]
    exact nofun
  have changed : change id (fun n => { n with content := .mapping pairs }) r = .ok ((), r) := by
    have same := modify_self (f := fun n => { n with content := .mapping pairs }) here rfl
    cases r
    exact congrArg (fun nodes => Except.ok ((), Resolver.mk nodes _ _ _)) same
  have mapping : (Content.mapping pairs).kind = .mapping := rfl
  rw [flatten, bind_ok (node_ok here), bind_ok getting, bind_ok (entries_ok here)]
  simp only [unmerged, unvalued]
  rw [List.forIn_nil, pure_bind, if_pos mapping, bind_ok changed, List.mapM_nil, pure_bind]
  rfl

/-- When its turn comes, the mapping is done, and the lists in it wait. -/
theorem settle_map {mark : Mark} (half : Halfway nodes round r)
    (isEntries : IsEntries nodes pairs entries)
    (here : nodes[id]? = some ⟨.map, .mapping pairs, mark⟩) :
    ∃ r', settle id r = .ok ((), withPart r' id (.map pairs)) ∧ Halfway nodes round r' ∧
      ∀ p ∈ pairs, (known r' p.1).isSome ∧ (known r' p.2).isSome := by
  have getting : (get : Resolve Resolver) r = .ok (r, r) := rfl
  obtain ⟨r', resolved, half', -, found⟩ := resolve_entries mark half isEntries
  refine ⟨r', ?_, half', found⟩
  rw [← half.nodes_eq] at here isEntries
  have mapping : ¬ (Content.mapping pairs).kind ≠ .mapping := not_not.mpr rfl
  have entered : mappingEntries id ⟨.map, .mapping pairs, mark⟩ r = .ok (pairs, r') := by
    rw [mappingEntries, if_neg mapping]
    dsimp only
    rw [bind_ok getting, bind_ok getting, bind_ok (flatten_ok isEntries here _ _),
      bind_ok (entries_ok here)]
    exact bind_ok resolved
  rw [settle, bind_ok (node_ok here)]
  simp only
  rw [bind_ok entered]
  rfl

/-! ### The graph -/

/-- Where nothing waits, all is done. -/
theorem settleAll_done (idle : r.waiting = []) (fuel : Nat) : settleAll fuel r = .ok ((), r) := by
  have getting : (get : Resolve Resolver) r = .ok (r, r) := rfl
  cases fuel with
  | zero => rfl
  | succ fuel =>
    rw [settleAll, bind_ok getting, idle]
    rfl

/-- The lists that wait are done in one more round. -/
theorem settleAll_lists (half : Halfway nodes [] r) (fuel : Nat) :
    ∃ r', settleAll (fuel + 1) r = .ok ((), r') ∧ Halfway nodes [] r' ∧ r'.waiting = [] ∧
      Keeps nodes r r' := by
  have getting : (get : Resolve Resolver) r = .ok (r, r) := rfl
  by_cases idle : r.waiting = []
  · exact ⟨r, settleAll_done idle _, half, idle, Keeps.refl _ r⟩
  · have next := half.nextRound
    obtain ⟨r', settled, half', keeps, waiting⟩ := settle_round next fun id mem =>
      half.waits id (List.mem_reverse.mp mem)
    have some : (!r.waiting.reverse.isEmpty) = true := by simpa using idle
    refine ⟨r', ?_, half', waiting, ⟨keeps.found, keeps.frame⟩⟩
    have clearing : (modify fun r => { r with waiting := [] } : Resolve Unit) r =
        .ok ((), { r with waiting := [] }) := rfl
    rw [settleAll, bind_ok getting]
    simp only [some, if_true]
    rw [bind_ok clearing, bind_ok settled]
    exact settleAll_done waiting fuel

/-- The mapping and the lists in it are done in two rounds. -/
theorem settleAll_map {mark : Mark} (half : Halfway nodes [] { r with waiting := [] })
    (waiting : r.waiting = [id]) (isEntries : IsEntries nodes pairs entries)
    (here : nodes[id]? = some ⟨.map, .mapping pairs, mark⟩) (fuel : Nat) :
    ∃ r', settleAll (fuel + 2) r = .ok ((), r') ∧ Halfway nodes [] r' ∧ r'.waiting = [] ∧
      known r' id = some (.map pairs) ∧
      ∀ p ∈ pairs, (known r' p.1).isSome ∧ (known r' p.2).isSome := by
  have getting : (get : Resolve Resolver) r = .ok (r, r) := rfl
  obtain ⟨r₁, settled, half₁, found⟩ := settle_map half isEntries here
  have inside : id < r₁.parts.size := by
    rw [half₁.size_eq]
    exact (Array.getElem?_eq_some_iff.mp here).1
  obtain ⟨r₂, rest, half₂, idle, keeps⟩ := settleAll_lists (half₁.withMap here (.map pairs)) fuel
  refine ⟨r₂, ?_, half₂, idle, ?_, fun p mem => ?_⟩
  · have some : (!List.isEmpty [id].reverse) = true := rfl
    have clearing : (modify fun r => { r with waiting := [] } : Resolve Unit) r =
        .ok ((), { r with waiting := [] }) := rfl
    have round : [id].reverse.forM settle { r with waiting := [] } =
        .ok ((), withPart r₁ id (.map pairs)) := bind_ok settled
    rw [settleAll, bind_ok getting, waiting]
    simp only [some, if_true]
    rw [bind_ok clearing, bind_ok round]
    exact rest
  · rw [keeps.frame id (fun d value => value.not_map here) fun ids ds list => list.not_map here,
      known_withPart inside, if_pos rfl]
  · obtain ⟨key, value⟩ := found p mem
    exact ⟨keeps.found _ (found_withPart inside _ key), keeps.found _ (found_withPart inside _ value)⟩

end Resolve

section Datum

variable {r : Resolver} {pairs : List (Nat × Nat)} {entries : List (Datum × Datum)}

/-- The value of a scalar that has been found. -/
theorem toDatum_value (half : Halfway nodes [] r) (value : IsValue nodes id d)
    (found : (known r id).isSome) (fuel : Nat) (above : List Nat) :
    Part.toDatum r.parts (fuel + 1) above id = d := by
  obtain ⟨part, found⟩ := Option.isSome_iff_exists.mp found
  cases half.values value found
  rw [known] at found
  rw [Part.toDatum, found]

/-- The value of a list that is done. -/
theorem toDatum_list (half : Halfway nodes [] r) (idle : r.waiting = [])
    (list : IsList nodes id ids ds) (found : (known r id).isSome) {above : List Nat}
    (outside : id ∉ above) (fuel : Nat) :
    Part.toDatum r.parts (fuel + 2) above id = .list ds := by
  obtain ⟨part, found⟩ := Option.isSome_iff_exists.mp found
  rcases half.lists list found with ⟨rfl, items⟩ | now | later
  · rw [known] at found
    have values : ids.map (Part.toDatum r.parts (fuel + 1) (id :: above)) = ds := by
      have forall₂ := list.2
      clear list found
      induction forall₂ with
      | nil => rfl
      | cons value _ ih =>
        rw [List.map_cons, toDatum_value half value (items _ (List.mem_cons_self ..)),
          ih fun item mem => items item (List.mem_cons_of_mem _ mem)]
    rw [Part.toDatum, found]
    simp [outside, values]
  · cases now
  · rw [idle] at later
    cases later

/-- The value of the mapping. -/
theorem toDatum_map (half : Halfway nodes [] r) (idle : r.waiting = []) {mark : Mark}
    (here : nodes[id]? = some ⟨.map, .mapping pairs, mark⟩)
    (isEntries : IsEntries nodes pairs entries) (found : known r id = some (.map pairs))
    (all : ∀ p ∈ pairs, (known r p.1).isSome ∧ (known r p.2).isSome) (fuel : Nat) :
    Part.toDatum r.parts (fuel + 3) [] id =
      .map (entries.foldl (fun es e => Datum.insertEntry e.1 e.2 es) []) := by
  have folded (es : List (Datum × Datum)) :
      pairs.foldl (fun es p => Datum.insertEntry (Part.toDatum r.parts (fuel + 2) [id] p.1)
        (Part.toDatum r.parts (fuel + 2) [id] p.2) es) es =
      entries.foldl (fun es e => Datum.insertEntry e.1 e.2 es) es := by
    have distinct (ids : List Nat) (ds : List Datum) : ¬ IsList nodes id ids ds :=
      fun list => list.not_map here
    clear found here
    induction isEntries generalizing es with
    | nil => rfl
    | @cons p e pairs entries entry isEntries ih =>
      obtain ⟨key, value⟩ := all p (List.mem_cons_self ..)
      have second : Part.toDatum r.parts (fuel + 2) [id] p.2 = e.2 := by
        rcases entry.2 with scalar | ⟨ids, ds, list, same⟩
        · exact toDatum_value half scalar value _ _
        · rw [same]
          apply toDatum_list half idle list value
          rw [List.mem_singleton]
          rintro rfl
          exact distinct ids ds list
      rw [List.foldl_cons, List.foldl_cons, toDatum_value half entry.1 key, second]
      exact ih (fun other mem => all other (List.mem_cons_of_mem _ mem)) _
  rw [known] at found
  rw [Part.toDatum, found]
  simp only [List.contains_nil, Bool.false_eq_true, if_false]
  rw [← folded]

end Datum

theorem isValues_of_at {xs : List Leaf} (at_ : List.Forall₂ (fun x id => x.At nodes id) xs ids)
    (denotes : List.Forall₂ Leaf.Denotes xs ds) : List.Forall₂ (IsValue nodes) ids ds := by
  induction at_ generalizing ds with
  | nil =>
    cases denotes
    exact .nil
  | cons item at_ ih =>
    cases denotes with
    | cons value denotes => exact .cons ⟨_, item, value⟩ (ih denotes)

theorem isBranching_of_at {v : Branching} (at_ : v.At nodes id) (denotes : v.Denotes d) :
    IsBranching nodes id d := by
  cases v with
  | leaf x => exact .inl ⟨x, at_, denotes⟩
  | list first more =>
    obtain ⟨mark, ids, here, items⟩ := at_
    obtain ⟨ds, values, rfl⟩ := denotes
    exact .inr ⟨ids, ds, ⟨⟨mark, here⟩, isValues_of_at items values⟩, rfl⟩

theorem isEntries_of_at {es : Outline} {entries : List (Datum × Datum)} {pairs : List (Nat × Nat)}
    (at_ : es.At nodes pairs) (denotes : es.Denotes entries) : IsEntries nodes pairs entries := by
  induction at_ generalizing entries with
  | nil =>
    cases denotes
    exact .nil
  | cons entry at_ ih =>
    cases denotes with
    | cons value denotes =>
      exact .cons ⟨⟨_, entry.1, value.1⟩, isBranching_of_at entry.2 value.2⟩ (ih denotes)

/-- A graph that holds an outline describes the mapping that it denotes. -/
theorem value_of_graph {es : Outline} {entries : List (Datum × Datum)} {pairs : List (Nat × Nat)}
    {mark : Mark} (here : nodes[id]? = some ⟨.map, .mapping pairs, mark⟩) (at_ : es.At nodes pairs)
    (denotes : es.Denotes entries) (room : Room) :
    Graph.value room ⟨nodes, id⟩ =
      .ok (.map (entries.foldl (fun es e => Datum.insertEntry e.1 e.2 es) [])) := by
  have isEntries := isEntries_of_at at_ denotes
  have start := halfway_start nodes room
  let first : Resolver := ⟨nodes, Array.replicate nodes.size none, [], room⟩
  let waiting : Resolver := { withPart first id (.map []) with waiting := [id] }
  obtain ⟨inside, -⟩ := Array.getElem?_eq_some_iff.mp here
  obtain ⟨n, size⟩ : ∃ n, nodes.size = n + 1 := ⟨nodes.size - 1, by omega⟩
  obtain ⟨r, settled, half, idle, found, all⟩ :=
    Resolve.settleAll_map (r := waiting) (start.withMap here (.map [])) rfl isEntries here n
  have resolved : Resolve.resolve id first = .ok (.map [], waiting) := by
    have getting : (get : Resolve Resolver) first = .ok (first, first) := rfl
    have unknown : (first.parts[id]?).join = none := by
      rw [Array.getElem?_replicate, if_pos inside]
      rfl
    have node : first.nodes[id]? = some ⟨.map, .mapping pairs, mark⟩ := here
    rw [Resolve.resolve, bind_ok getting, unknown]
    simp only
    rw [bind_ok (Resolve.node_ok node)]
    rfl
  let steps : Resolve Unit := do
    let _ ← Resolve.resolve id
    Resolve.settleAll (nodes.size + 1)
  have stepped : steps.run first = .ok ((), r) := by
    change (Resolve.resolve id >>= fun _ => Resolve.settleAll (nodes.size + 1)) first = _
    rw [bind_ok resolved, size]
    exact settled
  change (steps.run first >>= fun last =>
    Except.ok (Part.toDatum last.2.parts (nodes.size + 2) [] id)) = _
  rw [stepped, size, ← toDatum_map half idle here isEntries found all n]
  rfl

end IndexScan.Yaml
