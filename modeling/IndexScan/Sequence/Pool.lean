import IndexScan.Json.Basic
import IndexScan.Sequence.Basic

/-!
Pools of named sequences that draw on named sources. Several sequences may draw on one source; a
sequence that names none draws on the entropy of the system. Every action names what it acts on, and
what it does not name stays as it is.
-/

namespace IndexScan

/-- Where a sequence draws its words. -/
inductive Feed where
  | named (source : String)
  | system
  deriving DecidableEq, Repr

/-- A sequence and its feed. -/
structure Fed where
  sequence : Sequence
  feed : Feed

/-- Named sources, named sequences, and the source that the system provides. -/
structure Pool where
  system : Source
  sources : List (String × Source)
  sequences : List (String × Fed)

namespace Pool

/-- What can be done with a pool. -/
inductive Action where
  /-- Start a sequence under a name, in place of any that had it. -/
  | start (name : String) (mode : Mode) (source? : Option String)
  | next (name : String)
  | take (name : String) (count : Int)
  | drain (name : String)
  /-- Draw a value straight from a source. -/
  | draw (source : String)

/-- What an action answers. -/
inductive Answer where
  | started
  | step (step : Sequence.Step)
  | taken (taken : Sequence.Taken)
  /-- The count asked for is outside its range. -/
  | refused
  /-- The value drawn; none if the source has run out. -/
  | drawn (value? : Option Int)
  /-- Nothing in the pool has the name. -/
  | unknown

/-- The sequence with a name. -/
def fed? (p : Pool) (name : String) : Option Fed :=
  Json.lookup? name p.sequences

/-- The source with a name. -/
def source? (p : Pool) (name : String) : Option Source :=
  Json.lookup? name p.sources

/-- The source that a feed stands for. -/
def sourceOf (p : Pool) : Feed → Source
  | .named source => (p.source? source).getD (.scripted [] 0)
  | .system => p.system

/-- The pool in which the source that a feed stands for is as given. -/
def setSource (p : Pool) (source : Source) : Feed → Pool
  | .named name => { p with sources := Json.insert name source p.sources }
  | .system => { p with system := source }

/-- Runs the sequence with a name on its source. -/
def onSequence (p : Pool) (name : String)
    (act : Sequence → Source → Answer × Sequence × Source) : Answer × Pool :=
  match p.fed? name with
  | none => (.unknown, p)
  | some fed =>
    let (answer, sequence, source) := act fed.sequence (p.sourceOf fed.feed)
    let p := p.setSource source fed.feed
    (answer, { p with sequences := Json.insert name ⟨sequence, fed.feed⟩ p.sequences })

/-- Carries out an action. -/
def act (p : Pool) : Action → Answer × Pool
  | .start name mode source? =>
    let feed := match source? with
      | some source => .named source
      | none => .system
    (.started, { p with sequences := Json.insert name ⟨.start mode, feed⟩ p.sequences })
  | .next name => p.onSequence name fun s source =>
    let (step, s, source) := s.next source
    (.step step, s, source)
  | .take name count =>
    if 0 ≤ count ∧ count < Sequence.takeBound then
      p.onSequence name fun s source =>
        let (taken, s, source) := s.take count.toNat source
        (.taken taken, s, source)
    else (.refused, p)
  | .drain name => p.onSequence name fun s source =>
    let (taken, s, source) := s.drain source
    (.taken taken, s, source)
  | .draw name =>
    match p.source? name with
    | none => (.unknown, p)
    | some source =>
      match source.draw? with
      | none => (.drawn none, p)
      | some (value, source) =>
        (.drawn (some value), { p with sources := Json.insert name source p.sources })

/-- Carries out actions in order. -/
def run (p : Pool) : List Action → List Answer × Pool
  | [] => ([], p)
  | a :: rest =>
    let (answer, p) := p.act a
    let (answers, p) := run p rest
    (answer :: answers, p)

end Pool

end IndexScan
