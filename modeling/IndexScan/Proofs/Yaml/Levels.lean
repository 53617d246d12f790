import IndexScan.Proofs.Levels
import IndexScan.Yaml.Value
import Mathlib.Tactic.Common

/-!
Nested profile documents on a stack. With so much room a document is read as with room for everything,
or the reader gives out (`readWithin_agrees`). Every step of building a graph and of resolving it is
compared with the same step where there is room for everything (`Leveled`).
-/

namespace IndexScan.Yaml

open Levels

/-- A step gives out, or it does what `y` does in the state that differs by `loosen`. -/
def Leveled {σ α : Type} (loosen : σ → σ) (x y : StateT σ (Except Error) α) : Prop :=
  ∀ s, x s = .error .tooDeep ∨ y (loosen s) = (x s).map (Prod.map id loosen)

namespace Leveled

variable {σ α β : Type} {loosen : σ → σ} {x y : StateT σ (Except Error) α}
  {f g : α → StateT σ (Except Error) β}

theorem pure (a : α) : Leveled loosen (Pure.pure a) (Pure.pure a) := fun _ => .inr rfl

theorem throw (e : Error) :
    Leveled (α := α) loosen (MonadExcept.throw e) (MonadExcept.throw e) := fun _ => .inr rfl

theorem lift (reading : Except Error α) : Leveled loosen (liftM reading) (liftM reading) := by
  intro s
  cases reading <;> exact .inr rfl

theorem gaveOut (y : StateT σ (Except Error) α) :
    Leveled loosen (MonadExcept.throw .tooDeep) y := fun _ => .inl rfl

/-- What stands behind a refusal does not count. -/
theorem thrown (e : Error) (f g : α → StateT σ (Except Error) β) :
    Leveled loosen (MonadExcept.throw e >>= f) (MonadExcept.throw e >>= g) := fun _ => .inr rfl

theorem bind (first : Leveled loosen x y) (next : ∀ a, Leveled loosen (f a) (g a)) :
    Leveled loosen (x >>= f) (y >>= g) := by
  intro s
  show (x s).bind (fun p => f p.1 p.2) = _ ∨ (y (loosen s)).bind (fun p => g p.1 p.2) =
    Except.map _ ((x s).bind fun p => f p.1 p.2)
  obtain gave | same := first s
  · rw [gave]
    exact .inl rfl
  · rw [same]
    cases x s with
    | error e => exact .inr rfl
    | ok p => exact next p.1 p.2

theorem map (same : Leveled loosen x y) (f : α → β) : Leveled loosen (f <$> x) (f <$> y) := by
  intro s
  show (x s).bind _ = _ ∨ (y (loosen s)).bind _ = Except.map _ ((x s).bind _)
  obtain gave | same := same s
  · rw [gave]
    exact .inl rfl
  · rw [same]
    cases x s <;> exact .inr rfl

theorem get_bind {f g : σ → StateT σ (Except Error) β}
    (next : ∀ s, Leveled loosen (f s) (g (loosen s))) :
    Leveled loosen (get >>= f) (get >>= g) := fun s => next s s

theorem modify {f : σ → σ} (commutes : ∀ s, f (loosen s) = loosen (f s)) :
    Leveled loosen (modify f) (modify f) := by
  intro s
  refine .inr ?_
  show Except.ok (PUnit.unit, f (loosen s)) = .ok (PUnit.unit, loosen (f s))
  rw [commutes]

theorem mapM {f g : α → StateT σ (Except Error) β} (each : ∀ a, Leveled loosen (f a) (g a))
    (list : List α) : Leveled loosen (list.mapM f) (list.mapM g) := by
  induction list with
  | nil => exact .pure _
  | cons a rest ih =>
    rw [List.mapM_cons, List.mapM_cons]
    exact (each a).bind fun _ => ih.bind fun _ => .pure _

theorem forM {f g : α → StateT σ (Except Error) PUnit} (each : ∀ a, Leveled loosen (f a) (g a))
    (list : List α) : Leveled loosen (list.forM f) (list.forM g) := by
  induction list with
  | nil => exact .pure _
  | cons a rest ih => exact (each a).bind fun _ => ih

theorem forIn {f g : α → PUnit → StateT σ (Except Error) (ForInStep PUnit)}
    (each : ∀ a u, Leveled loosen (f a u) (g a u)) (list : List α) (u : PUnit) :
    Leveled loosen (ForIn.forIn list u f) (ForIn.forIn list u g) := by
  induction list generalizing u with
  | nil => exact .pure _
  | cons a rest ih =>
    rw [List.forIn_cons, List.forIn_cons]
    refine (each a u).bind fun step => ?_
    cases step with
    | done _ => exact .pure _
    | yield _ => exact ih _

/-- A step that is taken or not is so in both. -/
theorem guarded {c : Prop} [Decidable c] {x y : StateT σ (Except Error) PUnit}
    {f g : PUnit → StateT σ (Except Error) β} (step : Leveled loosen x y)
    (next : ∀ u, Leveled loosen (f u) (g u)) :
    Leveled loosen (if c then x >>= f else f ⟨⟩) (if c then y >>= g else g ⟨⟩) := by
  split_ifs
  · exact step.bind next
  · exact next _

/-- A step that takes no level is the same in both. -/
theorem refl (x : StateT σ (Except Error) α) : Leveled id x x := by
  intro s
  refine .inr ?_
  show x s = _
  cases x s <;> rfl

end Leveled

/-! ### Graphs -/

/-- With so much fuel, levels make no difference for what builds a graph but that it can give out. -/
structure Builds (fuel : Nat) (levels : Levels) : Prop where
  node (block indentless : Bool) :
    Leveled id (Build.node levels block indentless fuel) (Build.node none block indentless fuel)
  blockItems (start : Mark) :
    Leveled id (Build.blockItems levels start fuel) (Build.blockItems none start fuel)
  indentlessItems :
    Leveled id (Build.indentlessItems levels fuel) (Build.indentlessItems none fuel)
  blockEntries (start : Mark) :
    Leveled id (Build.blockEntries levels start fuel) (Build.blockEntries none start fuel)
  blockValue : Leveled id (Build.blockValue levels fuel) (Build.blockValue none fuel)
  flowItems (start : Mark) (first : Bool) :
    Leveled id (Build.flowItems levels start first fuel) (Build.flowItems none start first fuel)
  flowPairValue : Leveled id (Build.flowPairValue levels fuel) (Build.flowPairValue none fuel)
  flowEntries (start : Mark) (first : Bool) :
    Leveled id (Build.flowEntries levels start first fuel)
      (Build.flowEntries none start first fuel)
  flowValue : Leveled id (Build.flowValue levels fuel) (Build.flowValue none fuel)

namespace Builds

variable {fuel : Nat}

/-- A collection takes a level, and what is inside it has the rest. -/
theorem collection (levels : Levels) {name : Build Unit} {n : Node}
    {read : Levels → Build Content} {read' : Build Content}
    (reads : ∀ inner, Leveled id (read inner) read') :
    Leveled id
      (do
        name
        let id ← Build.add n
        match levels.inner? with
        | none => throw .tooDeep
        | some inner =>
          let content ← read inner
          Build.fill id content
          return id)
      (do
        name
        let id ← Build.add n
        let content ← read'
        Build.fill id content
        return id) := by
  refine (Leveled.refl _).bind fun _ => (Leveled.refl _).bind fun id => ?_
  cases levels.inner? with
  | none => exact .gaveOut _
  | some inner => exact (reads inner).bind fun _ => .refl _

theorem node_succ (inside : ∀ levels, Builds fuel levels) (levels : Levels)
    (block indentless : Bool) :
    Leveled id (Build.node levels block indentless (fuel + 1))
      (Build.node none block indentless (fuel + 1)) := by
  unfold Build.node
  refine (Leveled.refl _).bind fun t => ?_
  dsimp only
  split
  · refine (Leveled.refl _).bind fun _ => (Leveled.refl _).bind fun b => ?_
    split
    · exact .refl _
    · exact .thrown _ _ _
  · refine (Leveled.refl _).bind fun p => (Leveled.refl _).bind fun text? =>
      (Leveled.refl _).bind fun t => ?_
    split
    · split
      · refine collection levels fun inner => ?_
        exact (inside inner).indentlessItems.bind fun _ => .refl _
      · exact .refl _
    · exact .refl _
    · refine collection levels fun inner => (Leveled.refl _).bind fun _ => ?_
      exact ((inside inner).flowItems _ _).bind fun _ => .refl _
    · refine collection levels fun inner => (Leveled.refl _).bind fun _ => ?_
      exact ((inside inner).flowEntries _ _).bind fun _ => .refl _
    · refine collection levels fun inner => (Leveled.refl _).bind fun _ => ?_
      exact ((inside inner).blockItems _).bind fun _ => .refl _
    · refine collection levels fun inner => (Leveled.refl _).bind fun _ => ?_
      exact ((inside inner).blockEntries _).bind fun _ => .refl _
    · exact .refl _

theorem blockItems_succ (inside : ∀ levels, Builds fuel levels) (levels : Levels) (start : Mark) :
    Leveled id (Build.blockItems levels start (fuel + 1))
      (Build.blockItems none start (fuel + 1)) := by
  unfold Build.blockItems
  refine (Leveled.refl _).bind fun t => ?_
  split
  · have rest (item : Nat) := ((inside levels).blockItems start).bind fun items =>
      Leveled.refl (pure (item :: items))
    refine (Leveled.refl _).bind fun _ => (Leveled.refl _).bind fun u => ?_
    dsimp only
    split
    · exact (Leveled.refl _).bind rest
    · exact (Leveled.refl _).bind rest
    · exact ((inside levels).node true false).bind rest
  · exact .refl _
  · exact .refl _

theorem indentlessItems_succ (inside : ∀ levels, Builds fuel levels) (levels : Levels) :
    Leveled id (Build.indentlessItems levels (fuel + 1))
      (Build.indentlessItems none (fuel + 1)) := by
  unfold Build.indentlessItems
  refine (Leveled.refl _).bind fun t => ?_
  split
  · have rest (item : Nat) := (inside levels).indentlessItems.bind fun items =>
      Leveled.refl (pure (item :: items))
    refine (Leveled.refl _).bind fun _ => (Leveled.refl _).bind fun u => ?_
    dsimp only
    split
    case h_5 => exact ((inside levels).node true false).bind rest
    all_goals exact (Leveled.refl _).bind rest
  · exact .refl _

theorem blockEntries_succ (inside : ∀ levels, Builds fuel levels) (levels : Levels)
    (start : Mark) :
    Leveled id (Build.blockEntries levels start (fuel + 1))
      (Build.blockEntries none start (fuel + 1)) := by
  unfold Build.blockEntries
  refine (Leveled.refl _).bind fun t => ?_
  split
  · have rest (key : Nat) := (inside levels).blockValue.bind fun value =>
      ((inside levels).blockEntries start).bind fun entries =>
        Leveled.refl (pure ((key, value) :: entries))
    refine (Leveled.refl _).bind fun _ => (Leveled.refl _).bind fun u => ?_
    dsimp only
    split
    case h_4 => exact ((inside levels).node true true).bind rest
    all_goals exact (Leveled.refl _).bind rest
  · exact .refl _
  · exact .refl _

theorem blockValue_succ (inside : ∀ levels, Builds fuel levels) (levels : Levels) :
    Leveled id (Build.blockValue levels (fuel + 1)) (Build.blockValue none (fuel + 1)) := by
  unfold Build.blockValue
  refine (Leveled.refl _).bind fun t => ?_
  split
  · refine (Leveled.refl _).bind fun _ => (Leveled.refl _).bind fun u => ?_
    split
    case h_4 => exact (inside levels).node true true
    all_goals exact .refl _
  · exact .refl _

/-- Behind the first item of a flow collection a separator is asked for. -/
theorem separated {first isSeparator : Prop} [Decidable first] [Decidable isSeparator]
    {pass fail : Build PUnit} {f g : PUnit → Build α} (next : ∀ u, Leveled id (f u) (g u)) :
    Leveled id (if first then if isSeparator then pass >>= f else fail >>= f else f ⟨⟩)
      (if first then if isSeparator then pass >>= g else fail >>= g else g ⟨⟩) := by
  split_ifs
  · exact (Leveled.refl _).bind next
  · exact (Leveled.refl _).bind next
  · exact next _

theorem flowItems_succ (inside : ∀ levels, Builds fuel levels) (levels : Levels) (start : Mark)
    (first : Bool) :
    Leveled id (Build.flowItems levels start first (fuel + 1))
      (Build.flowItems none start first (fuel + 1)) := by
  unfold Build.flowItems
  refine (Leveled.refl _).bind fun t => ?_
  have rest (item : Nat) := ((inside levels).flowItems start false).bind fun items =>
    Leveled.refl (pure (item :: items))
  dsimp only
  split
  · exact .refl _
  · refine separated fun _ => (Leveled.refl _).bind fun t => ?_
    split
    · exact .refl _
    · refine (Leveled.refl _).bind fun id => ?_
      cases levels.inner? with
      | none => exact .gaveOut _
      | some inner =>
        have pair (key : Nat) := (inside inner).flowPairValue.bind fun value =>
          (Leveled.refl (Build.fill id (.mapping [(key, value)]))).bind fun _ => rest id
        refine (Leveled.refl _).bind fun _ => (Leveled.refl _).bind fun u => ?_
        split
        case h_4 => exact ((inside inner).node false false).bind pair
        all_goals exact (Leveled.refl _).bind pair
    · exact ((inside levels).node false false).bind rest

theorem flowEntries_succ (inside : ∀ levels, Builds fuel levels) (levels : Levels) (start : Mark)
    (first : Bool) :
    Leveled id (Build.flowEntries levels start first (fuel + 1))
      (Build.flowEntries none start first (fuel + 1)) := by
  unfold Build.flowEntries
  refine (Leveled.refl _).bind fun t => ?_
  have rest (entry : Nat × Nat) := ((inside levels).flowEntries start false).bind fun entries =>
    Leveled.refl (pure (entry :: entries))
  dsimp only
  split
  · exact .refl _
  · refine separated fun _ => (Leveled.refl _).bind fun t => ?_
    split
    · exact .refl _
    · have pair (key : Nat) := (inside levels).flowValue.bind fun value => rest (key, value)
      refine (Leveled.refl _).bind fun _ => (Leveled.refl _).bind fun u => ?_
      split
      case h_4 => exact ((inside levels).node false false).bind pair
      all_goals exact (Leveled.refl _).bind pair
    · refine ((inside levels).node false false).bind fun key => ?_
      exact (Leveled.refl _).bind fun u => (Leveled.refl _).bind fun value => rest (key, value)

theorem flowPairValue_succ (inside : ∀ levels, Builds fuel levels) (levels : Levels) :
    Leveled id (Build.flowPairValue levels (fuel + 1)) (Build.flowPairValue none (fuel + 1)) := by
  unfold Build.flowPairValue
  refine (Leveled.refl _).bind fun t => ?_
  split
  · refine (Leveled.refl _).bind fun _ => (Leveled.refl _).bind fun u => ?_
    split
    case h_3 => exact (inside levels).node false false
    all_goals exact .refl _
  · exact .refl _

theorem flowValue_succ (inside : ∀ levels, Builds fuel levels) (levels : Levels) :
    Leveled id (Build.flowValue levels (fuel + 1)) (Build.flowValue none (fuel + 1)) := by
  unfold Build.flowValue
  refine (Leveled.refl _).bind fun t => ?_
  split
  · refine (Leveled.refl _).bind fun _ => (Leveled.refl _).bind fun u => ?_
    split
    case h_3 => exact (inside levels).node false false
    all_goals exact .refl _
  · exact .refl _

end Builds

theorem builds (fuel : Nat) (levels : Levels) : Builds fuel levels := by
  induction fuel generalizing levels with
  | zero =>
    exact ⟨fun _ _ => .refl _, fun _ => .refl _, .refl _, fun _ => .refl _, .refl _,
      fun _ _ => .refl _, .refl _, fun _ _ => .refl _, .refl _⟩
  | succ fuel inside =>
    exact ⟨Builds.node_succ inside levels, Builds.blockItems_succ inside levels,
      Builds.indentlessItems_succ inside levels, Builds.blockEntries_succ inside levels,
      Builds.blockValue_succ inside levels, Builds.flowItems_succ inside levels,
      Builds.flowPairValue_succ inside levels, Builds.flowEntries_succ inside levels,
      Builds.flowValue_succ inside levels⟩

/-- That a reader gave out. -/
def Error.IsTooDeep (e : Error) : Prop := e = .tooDeep

theorem document_leveled (levels : Levels) (fuel : Nat) :
    Leveled id (Build.document levels fuel) (Build.document none fuel) := by
  have node := (builds fuel levels).node true false
  unfold Build.document
  refine (Leveled.refl _).bind fun t => ?_
  dsimp only
  split
  case h_1 => exact .refl _
  case h_4 => exact (node.map some).bind fun _ => .refl _
  all_goals
    refine (Leveled.refl _).bind fun _ => (Leveled.refl _).bind fun u => ?_
    split
    case h_5 => exact (node.map some).bind fun _ => .refl _
    all_goals exact .refl _

theorem graph_agrees (levels : Levels) (cs : List Char) :
    Agrees Error.IsTooDeep (Graph.ofText? levels cs) (Graph.ofText? none cs) := by
  unfold Graph.ofText?
  dsimp only
  refine Agrees.bind ?_ fun _ => .refl _
  obtain gave | same := document_leveled levels (8 * cs.length + 64)
    ⟨.ofText cs, #[], [], Build.commonHandles⟩
  · exact .inl ⟨_, rfl, gave⟩
  · refine .inr (same.trans ?_).symm
    cases Build.document levels (8 * cs.length + 64) _ <;> rfl

/-! ### Values -/

/-- The resolver with room for everything. -/
def Resolver.loosen (r : Resolver) : Resolver := { r with room := .ample }

namespace Resolve

/-- A step of resolving a graph gives out, or does the same where there is room for everything. -/
abbrev Loosens {α : Type} (x y : Resolve α) : Prop := Leveled Resolver.loosen x y

theorem refuse_loosens {α : Type} (context : Option (Context × Option Mark)) (flaw : Flaw)
    (mark : Mark) : Loosens (refuse (α := α) context flaw mark) (refuse context flaw mark) :=
  .throw _

theorem node_loosens (id : Nat) : Loosens (node id) (node id) :=
  .get_bind fun _ => .pure _

theorem change_loosens (id : Nat) (f : Node → Node) : Loosens (change id f) (change id f) :=
  .modify fun _ => rfl

theorem setPart_loosens (id : Nat) (part : Part) : Loosens (setPart id part) (setPart id part) :=
  .modify fun _ => rfl

theorem denoted_loosens {α : Type} (reading : Except BadScalar α) :
    Loosens (denoted reading) (denoted reading) := .lift _

theorem scalarText_loosens (fuel : Nat) (levels : Levels) (id : Nat) :
    Loosens (scalarText levels fuel id) (scalarText none fuel id) := by
  induction fuel generalizing levels id with
  | zero => exact .throw _
  | succ fuel ih =>
    unfold scalarText
    refine (node_loosens id).bind fun n => ?_
    split
    · exact .pure _
    · exact refuse_loosens _ _ _
    · rename_i entries _
      refine .get_bind fun r => ?_
      dsimp only [Resolver.loosen]
      generalize List.find? _ entries = own?
      rcases own? with _ | ⟨_, value⟩
      · exact refuse_loosens _ _ _
      · cases levels.inner? with
        | none => exact .gaveOut _
        | some inner => exact ih inner value

theorem scalarValue_loosens (id : Nat) (n : Node) :
    Loosens (scalarValue id n) (scalarValue id n) := by
  unfold scalarValue
  refine .get_bind fun r => .get_bind fun r' => ?_
  refine (scalarText_loosens _ _ id).bind fun ps => ?_
  split
  case h_1 => exact .pure _
  case h_2 => exact (denoted_loosens _).bind fun _ => .pure _
  case h_3 => exact (denoted_loosens _).bind fun _ => .pure _
  case h_4 => exact (denoted_loosens _).bind fun _ => .pure _
  case h_5 =>
    split
    · exact .pure _
    · exact refuse_loosens _ _ _
  case h_6 =>
    split
    · exact denoted_loosens _
    · exact .throw _
  case h_7 => exact .pure _

theorem wait_loosens (id : Nat) :
    Loosens (modify fun r => { r with waiting := id :: r.waiting })
      (modify fun r => { r with waiting := id :: r.waiting }) :=
  .modify fun _ => rfl

theorem resolve_loosens (id : Nat) : Loosens (resolve id) (resolve id) := by
  unfold resolve
  refine .get_bind fun r => ?_
  dsimp only [Resolver.loosen]
  have wait (empty : Part) :
      Loosens (do
        setPart id empty
        modify fun r => { r with waiting := id :: r.waiting }
        return empty) (do
        setPart id empty
        modify fun r => { r with waiting := id :: r.waiting }
        return empty) :=
    (setPart_loosens id empty).bind fun _ => (wait_loosens id).bind fun _ => .pure _
  split
  · exact .pure _
  · refine (node_loosens id).bind fun n => ?_
    split
    case h_9 =>
      exact (scalarValue_loosens id n).bind fun _ => (setPart_loosens id _).bind fun _ => .pure _
    all_goals first | exact wait _ | exact refuse_loosens _ _ _

theorem entries_loosens (id : Nat) : Loosens (entries id) (entries id) := by
  unfold entries
  refine (node_loosens id).bind fun n => ?_
  split <;> exact .pure _

theorem flatten_loosens (fuel : Nat) (levels : Levels) (id : Nat) :
    Loosens (flatten levels fuel id) (flatten none fuel id) := by
  induction fuel generalizing levels id with
  | zero => exact .pure _
  | succ fuel ih =>
    unfold flatten
    have inside (other : Nat) :
        Loosens
          (match levels.inner? with
          | none => throw .tooDeep
          | some inner => flatten inner fuel other)
          (flatten none fuel other) := by
      cases levels.inner? with
      | none => exact .gaveOut _
      | some inner => exact ih inner other
    refine (node_loosens id).bind fun n => .get_bind fun r => (entries_loosens id).bind fun es => ?_
    refine (Leveled.forIn (fun e _ => (change_loosens _ _).bind fun _ => .pure _) _ _).bind
      fun _ => ?_
    refine .guarded (change_loosens _ _) fun _ => ?_
    refine (Leveled.mapM (fun e => ?_) _).bind fun merged => ?_
    · refine (node_loosens e.2).bind fun source => ?_
      split
      · exact (inside e.2).bind fun _ => entries_loosens e.2
      · refine (Leveled.mapM (fun item => ?_) _).bind fun lists => .pure _
        refine (node_loosens item).bind fun m => ?_
        refine .guarded (refuse_loosens _ _ _) fun _ => ?_
        exact (inside item).bind fun _ => entries_loosens item
      · exact refuse_loosens _ _ _
    · split
      · exact change_loosens _ _
      · exact .pure _

theorem mappingEntries_loosens (id : Nat) (n : Node) :
    Loosens (mappingEntries id n) (mappingEntries id n) := by
  unfold mappingEntries
  refine .guarded (refuse_loosens _ _ _) fun _ => .get_bind fun r => .get_bind fun r' => ?_
  refine (flatten_loosens _ _ id).bind fun _ => (entries_loosens id).bind fun es => ?_
  refine (Leveled.forIn (fun e _ => ?_) es _).bind fun _ => .pure _
  have value := (resolve_loosens e.2).bind fun _ => Leveled.pure (ForInStep.yield PUnit.unit)
  refine (resolve_loosens e.1).bind fun part => ?_
  dsimp only
  split
  · exact (node_loosens e.1).bind fun key => (refuse_loosens _ _ _).bind fun _ => value
  · exact value

theorem singleEntries_loosens (context : Context) (n : Node) :
    Loosens (singleEntries context n) (singleEntries context n) := by
  unfold singleEntries
  dsimp only
  split
  · refine Leveled.mapM (fun item => ?_) _
    refine (node_loosens item).bind fun m => ?_
    split
    · exact (resolve_loosens _).bind fun _ => (resolve_loosens _).bind fun _ => .pure _
    · exact refuse_loosens _ _ _
    · exact refuse_loosens _ _ _
  · exact refuse_loosens _ _ _

theorem settle_loosens (id : Nat) : Loosens (settle id) (settle id) := by
  unfold settle
  refine (node_loosens id).bind fun n => ?_
  split
  · exact (singleEntries_loosens _ n).bind fun _ => setPart_loosens id _
  · exact (singleEntries_loosens _ n).bind fun _ => setPart_loosens id _
  · exact (mappingEntries_loosens id n).bind fun _ => setPart_loosens id _
  · exact (mappingEntries_loosens id n).bind fun _ => setPart_loosens id _
  · split
    · refine (Leveled.forIn (fun item _ => ?_) _ _).bind fun _ => setPart_loosens id _
      exact (resolve_loosens item).bind fun _ => .pure _
    · exact refuse_loosens _ _ _

theorem settleAll_loosens (fuel : Nat) : Loosens (settleAll fuel) (settleAll fuel) := by
  induction fuel with
  | zero => exact .pure _
  | succ fuel ih =>
    unfold settleAll
    refine .get_bind fun r => ?_
    dsimp only [Resolver.loosen]
    split
    · refine (Leveled.modify ?_).bind fun _ => (Leveled.forM settle_loosens _).bind fun _ => ih
      exact fun _ => rfl
    · exact .pure _

end Resolve

theorem value_agrees (room : Room) (g : Graph) :
    Agrees Error.IsTooDeep (g.value room) (g.value .ample) := by
  have steps :
      Resolve.Loosens (do let _ ← Resolve.resolve g.root; Resolve.settleAll (g.nodes.size + 1))
        (do let _ ← Resolve.resolve g.root; Resolve.settleAll (g.nodes.size + 1)) :=
    (Resolve.resolve_loosens g.root).bind fun _ => Resolve.settleAll_loosens _
  unfold Graph.value
  dsimp only
  obtain gave | same := steps ⟨g.nodes, Array.replicate g.nodes.size none, [], room⟩
  · exact .inl ⟨_, rfl, by rw [StateT.run, gave]; rfl⟩
  · refine .inr ?_
    dsimp only [Resolver.loosen] at same
    rw [StateT.run, StateT.run, same]
    cases (do let _ ← Resolve.resolve g.root; Resolve.settleAll (g.nodes.size + 1)) _ <;> rfl

/-- With so much room a document is read as with room for everything, or the reader gives out. -/
theorem readWithin_agrees (room : Room) (cs : List Char) :
    Agrees Error.IsTooDeep (readWithin room cs) (read cs) := by
  unfold read readWithin
  dsimp only
  split
  · exact Agrees.refl (Except.error _)
  · refine (graph_agrees room.collections cs).bind fun graph? => ?_
    cases graph? with
    | none => exact .refl _
    | some g => exact value_agrees room g

end IndexScan.Yaml
