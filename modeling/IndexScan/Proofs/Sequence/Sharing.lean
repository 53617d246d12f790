import IndexScan.Proofs.Json.Pairs
import IndexScan.Proofs.Sequence.Draws
import IndexScan.Sequence.Pool

/-!
Sequences that share sources. In every interleaving of actions on a pool, what the actions obtained
from a scripted source, put together in their order, is the beginning of its script, and the source
has counted exactly these values (`run_shares`). So nothing that a source hands out is lost, given
out twice or given out of order, whoever asked for it.

What one action can do is said once (`act_effect`); the run follows from it by induction on the
actions, with `Source.Yields` as the invariant of each named source.
-/

namespace IndexScan.Pool

open Sequence

/-! ### What actions say and name -/

/-- The indices that an answer holds. -/
def Answer.indices : Answer → List Nat
  | .step outcome => outcome.indices
  | .taken row => row.indices
  | _ => []

/-- The failure that an answer reports. -/
def Answer.failure? : Answer → Option DrawError
  | .step outcome => outcome.failure?
  | .taken row => row.failure?
  | _ => none

/-- The values that an answer accounts for: indices, a value turned down, or a value drawn straight
from a source. -/
def Answer.values : Answer → List Int
  | .drawn (some value) => [value]
  | answer => valuesOf answer.indices answer.failure?

/-- The sequence that an action asks for indices. -/
def Action.asks? : Action → Option String
  | .next name => some name
  | .take name _ => some name
  | .drain name => some name
  | .start .. => none
  | .draw _ => none

/-- The sequence that an action names. -/
def Action.sequence? : Action → Option String
  | .start name .. => some name
  | action => action.asks?

/-- The source that a feed names. -/
def feedSource? : Feed → Option String
  | .named source => some source
  | .system => none

/-- The named source that an action in a pool draws on, if it draws on any: its own, or that of the
random sequence that it asks. -/
def drawsOn? (p : Pool) : Action → Option String
  | .draw source => some source
  | action => (action.asks?.bind p.fed?).bind fun fed =>
    if fed.sequence.mode.isRandom then feedSource? fed.feed else none

/-- The values that an action obtains from a named source. -/
def obtained (p : Pool) (source : String) (a : Action) : List Int :=
  if p.drawsOn? a = some source then (p.act a).1.values else []

/-- The values that actions obtain from a named source, in their order. -/
def obtainedDuring (p : Pool) (source : String) : List Action → List Int
  | [] => []
  | a :: rest => p.obtained source a ++ (p.act a).2.obtainedDuring source rest

/-! ### One action -/

/-- The pool after a sequence has been asked: the sequence and its source have moved on. -/
def advance (p : Pool) (name : String) (feed : Feed) (s : Sequence) (source : Source) : Pool :=
  { p.setSource source feed with sequences := Json.insert name ⟨s, feed⟩ p.sequences }

theorem onSequence_of_fed {p : Pool} {name : String} {fed : Fed} (found : p.fed? name = some fed)
    (act : Sequence → Source → Answer × Sequence × Source) :
    p.onSequence name act =
      ((act fed.sequence (p.sourceOf fed.feed)).1,
        p.advance name fed.feed (act fed.sequence (p.sourceOf fed.feed)).2.1
          (act fed.sequence (p.sourceOf fed.feed)).2.2) := by
  simp only [onSequence, found, advance]
  cases fed.feed <;> rfl

/-- All that an action can do to a pool, and what it answers. -/
inductive Effect (p : Pool) (a : Action) : Answer → Pool → Prop where
  /-- Refused, about an unknown name, or a draw on a source that has run out. -/
  | still {answer : Answer} :
      answer.indices = [] → answer.failure? = none → answer.values = [] → Effect p a answer p
  | started {name : String} {fed : Fed} :
      a.sequence? = some name → a.asks? = none → p.drawsOn? a = none →
      Effect p a .started { p with sequences := Json.insert name fed p.sequences }
  | drawn {source : String} {v : Int} {s t : Source} :
      a = .draw source → p.source? source = some s → s.draw? = some (v, t) →
      Effect p a (.drawn (some v)) { p with sources := Json.insert source t p.sources }
  | asked {name : String} {fed : Fed} {answer : Answer} {s : Sequence} {source : Source} :
      a.asks? = some name → p.fed? name = some fed →
      answer.values = valuesOf answer.indices answer.failure? →
      Took fed.sequence (p.sourceOf fed.feed) answer.indices answer.failure? s source →
      Effect p a answer (p.advance name fed.feed s source)

theorem onSequence_effect {p : Pool} {a : Action} {name : String}
    {act : Sequence → Source → Answer × Sequence × Source} (asks : a.asks? = some name)
    (values : ∀ s b, (act s b).1.values = valuesOf (act s b).1.indices (act s b).1.failure?)
    (took : ∀ s b,
      Took s b (act s b).1.indices (act s b).1.failure? (act s b).2.1 (act s b).2.2) :
    p.Effect a (p.onSequence name act).1 (p.onSequence name act).2 := by
  cases found : p.fed? name with
  | none =>
    simp only [onSequence, found]
    exact .still rfl rfl rfl
  | some fed =>
    rw [onSequence_of_fed found]
    exact .asked asks found (values ..) (took ..)

/-- Every action has one of these effects. -/
theorem act_effect (p : Pool) (a : Action) : p.Effect a (p.act a).1 (p.act a).2 := by
  cases a with
  | start name mode source? => exact .started rfl rfl rfl
  | next name => exact onSequence_effect rfl (fun _ _ => rfl) next_took
  | take name count =>
    simp only [act]
    split_ifs
    · exact onSequence_effect rfl (fun _ _ => rfl) (take_took count.toNat)
    · exact .still rfl rfl rfl
  | drain name => exact onSequence_effect rfl (fun _ _ => rfl) fun s => take_took s.remaining s
  | draw name =>
    cases found : p.source? name with
    | none =>
      simp only [act, found]
      exact .still rfl rfl rfl
    | some s =>
      cases draw : s.draw? with
      | none =>
        simp only [act, found, draw]
        exact .still rfl rfl rfl
      | some drawn =>
        simp only [act, found, draw]
        exact .drawn rfl found draw

/-! ### What an effect does to sources and sequences -/

section Effect

variable {p q : Pool} {a : Action} {answer : Answer} {name source : String} {fed : Fed}

theorem drawsOn?_of_asks (asks : a.asks? = some name) (found : p.fed? name = some fed) :
    p.drawsOn? a = if fed.sequence.mode.isRandom then feedSource? fed.feed else none := by
  cases a <;> simp_all [drawsOn?, Action.asks?]

theorem source?_advance_other {s : Sequence} {b : Source} {feed : Feed}
    (differ : feedSource? feed ≠ some source) :
    (p.advance name feed s b).source? source = p.source? source := by
  cases feed with
  | named other => exact Json.lookup?_insert_of_ne fun same => differ (congrArg some same.symm)
  | system => rfl

/-- Putting a source back as it was changes no source. A name that nothing had is then the name of
a source without values, which is what it stood for before. -/
theorem sourceOf_advance_same (feed other : Feed) {s : Sequence} :
    (p.advance name feed s (p.sourceOf feed)).sourceOf other = p.sourceOf other := by
  cases feed with
  | system => cases other <;> rfl
  | named source =>
    cases other with
    | system => rfl
    | named other =>
      by_cases same : other = source
      · subst same
        simp [advance, setSource, sourceOf, source?]
      · simp [advance, setSource, sourceOf, source?, same]

/-- What an action obtains from a named source is what the source hands out. -/
theorem Effect.yields {s : Source} (effect : p.Effect a answer q)
    (found : p.source? source = some s) :
    ∃ t, q.source? source = some t ∧
      s.Yields (if p.drawsOn? a = some source then answer.values else []) t := by
  cases effect with
  | still _ _ none =>
    refine ⟨s, found, ?_⟩
    rw [none, ite_self]
    exact .nil
  | started _ _ quiet =>
    refine ⟨s, found, ?_⟩
    rw [quiet, if_neg (by simp)]
    exact .nil
  | @drawn other v r t is holds draw =>
    subst is
    by_cases same : other = source
    · subst same
      obtain rfl : r = s := Option.some.inj (holds.symm.trans found)
      refine ⟨t, Json.lookup?_insert_self, ?_⟩
      rw [drawsOn?, if_pos rfl]
      exact .single draw
    · refine ⟨s, (Json.lookup?_insert_of_ne (Ne.symm same)).trans found, ?_⟩
      rw [drawsOn?, if_neg (by simpa using same)]
      exact .nil
  | @asked name fed answer s' t asks holds values took =>
    have yields := took.yields
    rw [← values] at yields
    rw [drawsOn?_of_asks asks holds]
    by_cases feeds : feedSource? fed.feed = some source
    · obtain ⟨sequence, feed⟩ := fed
      cases feed with
      | system => cases feeds
      | named other =>
        cases feeds
        refine ⟨t, Json.lookup?_insert_self, ?_⟩
        rw [sourceOf, found, Option.getD_some] at yields
        split_ifs at yields ⊢ <;> simp_all [feedSource?]
    · refine ⟨s, (source?_advance_other feeds).trans found, ?_⟩
      rw [if_neg (by split_ifs <;> simp [feeds])]
      exact .nil

/-- An action leaves the sequences that it does not name as they are. -/
theorem Effect.fed?_other {other : String} (effect : p.Effect a answer q)
    (differ : a.sequence? ≠ some other) : q.fed? other = p.fed? other := by
  cases effect with
  | still => rfl
  | started names =>
    exact Json.lookup?_insert_of_ne fun same => differ (names.trans (congrArg some same.symm))
  | drawn => rfl
  | @asked name fed answer s t asks =>
    have names : a.sequence? = some name := by cases a <;> first | exact asks | cases asks
    exact Json.lookup?_insert_of_ne fun same => differ (names.trans (congrArg some same.symm))

/-- Asking a sequence that is not random, or has ended, leaves every source alone. -/
theorem Effect.sourceOf_eq (effect : p.Effect a answer q) (asks : a.asks? = some name)
    (found : p.fed? name = some fed)
    (quiet : fed.sequence.mode.isRandom = false ∨ fed.sequence.isExhausted = true) (feed : Feed) :
    q.sourceOf feed = p.sourceOf feed := by
  cases effect with
  | still => rfl
  | started _ none => simp [none] at asks
  | drawn is => subst is; cases asks
  | @asked other fed' answer s t asks' found' _ took =>
    obtain rfl : other = name := Option.some.inj (asks'.symm.trans asks)
    obtain rfl : fed' = fed := Option.some.inj (found'.symm.trans found)
    rw [took.source_eq quiet]
    exact sourceOf_advance_same fed'.feed feed

/-- No action makes a sequence emit anything but 32-bit words. -/
theorem Effect.words (effect : p.Effect a answer q) : ∀ i ∈ answer.indices, i < 2 ^ 32 := by
  cases effect with
  | still none => simp [none]
  | started => simp [Answer.indices]
  | drawn => simp [Answer.indices]
  | asked _ _ _ took => exact took.words

/-- A value out of range that a sequence drew is what its failure names. -/
theorem Effect.failure?_of_outside {v : Int} (effect : p.Effect a answer q)
    (asks : a.asks? = some name) (mem : v ∈ answer.values) (outside : v < 0 ∨ 2 ^ 32 ≤ v) :
    answer.failure? = some (.outOfRange v) := by
  cases effect with
  | still _ _ none => simp [none] at mem
  | started _ none => simp [none] at asks
  | drawn is => subst is; cases asks
  | asked _ _ values took =>
    rw [values, valuesOf, List.mem_append, List.mem_map] at mem
    rcases mem with ⟨i, emitted, rfl⟩ | turned
    · have small := took.words i emitted
      omega
    · rcases failed : answer.failure? with _ | e
      · simp [failed, Source.rejected] at turned
      · cases e with
        | exhausted => simp [failed, Source.rejected] at turned
        | outOfRange w =>
          rw [failed, Source.rejected, List.mem_singleton] at turned
          rw [turned]

end Effect

/-! ### Runs -/

/-- The invariant of a named source over a run: what the actions obtained from it, in their order,
is what it has handed out. -/
theorem run_yields {p : Pool} {source : String} {s : Source} (found : p.source? source = some s)
    (actions : List Action) :
    ∃ t, (p.run actions).2.source? source = some t ∧
      s.Yields (p.obtainedDuring source actions) t := by
  induction actions generalizing p s with
  | nil => exact ⟨s, found, .nil⟩
  | cons a rest ih =>
    obtain ⟨t, found', first⟩ := (act_effect p a).yields found
    obtain ⟨u, last, later⟩ := ih found'
    exact ⟨u, last, first.trans later⟩

/-- What no action may do, whatever else goes on in the pool. -/
structure Sound (p : Pool) (a : Action) : Prop where
  /-- A value out of range that a sequence drew is reported as a failure, … -/
  reports : a.asks?.isSome → ∀ v ∈ (p.act a).1.values, v < 0 ∨ 2 ^ 32 ≤ v →
    (p.act a).1.failure? = some (.outOfRange v)
  /-- … and none is emitted. -/
  words : ∀ i ∈ (p.act a).1.indices, i < 2 ^ 32
  /-- A sequence that the action does not name stays as it is. -/
  frame : ∀ other, a.sequence? ≠ some other → (p.act a).2.fed? other = p.fed? other
  /-- A sequence that is not random, or has ended, as one that counts nothing has from its start,
  calls no source. -/
  quiet : ∀ name fed, a.asks? = some name → p.fed? name = some fed →
    fed.sequence.mode.isRandom = false ∨ fed.sequence.isExhausted = true →
    ∀ feed, (p.act a).2.sourceOf feed = p.sourceOf feed

theorem sound (p : Pool) (a : Action) : Sound p a where
  reports := fun asks _ mem outside =>
    let ⟨_, named⟩ := Option.isSome_iff_exists.mp asks
    (act_effect p a).failure?_of_outside named mem outside
  words := (act_effect p a).words
  frame := fun _ differ => (act_effect p a).fed?_other differ
  quiet := fun _ _ asks found quiet feed => (act_effect p a).sourceOf_eq asks found quiet feed

/-- Sequences that share sources lose, repeat and reorder nothing. Over every run, what is obtained
from a scripted source is the beginning of its script, each value once and in order, and the source
has counted that many more calls; and every action of the run is sound where it is carried out. -/
theorem run_shares (p : Pool) (actions : List Action) :
    (∀ source values calls, p.source? source = some (.scripted values calls) →
      p.obtainedDuring source actions <+: values ∧
      (p.run actions).2.source? source =
        some (.scripted (values.drop (p.obtainedDuring source actions).length)
          (calls + (p.obtainedDuring source actions).length))) ∧
    ∀ before a after, actions = before ++ a :: after → Sound (p.run before).2 a := by
  refine ⟨fun source values calls found => ?_, fun before a after _ => sound _ a⟩
  obtain ⟨t, last, yields⟩ := run_yields found actions
  obtain ⟨begins, rfl⟩ := yields.of_scripted
  exact ⟨begins, last⟩

/-- Two sequences and a direct draw take turns on one source. The value that the second turns down
is used up, and the first goes on after it. -/
theorem run_shares_across_a_rejection :
    let p : Pool := ⟨.scripted [] 0, [("dice", .scripted [5, -1, 7, 8] 0)], []⟩
    let actions : List Action :=
      [.start "a" (.random .one) (some "dice"), .start "b" (.random .one) (some "dice"),
        .draw "dice", .next "b", .drain "a"]
    p.source? "dice" = some (.scripted [5, -1, 7, 8] 0) ∧
    p.obtainedDuring "dice" actions = [5, -1, 7] ∧
    (p.run actions).2.source? "dice" = some (.scripted [8] 3) :=
  let p : Pool := ⟨.scripted [] 0, [("dice", .scripted [5, -1, 7, 8] 0)], []⟩
  ⟨rfl, by decide +kernel, ((run_shares p _).1 "dice" [5, -1, 7, 8] 0 rfl).2⟩

end IndexScan.Pool
