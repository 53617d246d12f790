import IndexScan.Proofs.Scan.Course

/-!
What a pass finds. A pass that goes on behind hits visits every index of its mode once and keeps the
hits among them (`observe_visits`). A pass that stops at its first hit does what that pass does up
to there and nothing more (`observe_truncates`): every course that goes on behind hits is a course
that stops, and what is left of it (`Course.truncates`).
-/

namespace IndexScan

section

variable {α : Type} {mode : Mode} {rounds : List (Probe α)}

theorem Tally.found_iff :
    (Tally.ofRounds mode rounds).found = true ↔ ∃ made ∈ rounds, made.isHit = true := by
  simp [Tally.found, Tally.ofRounds, hitsOf]

theorem Tally.indexes_ofRounds :
    (Tally.ofRounds mode rounds).indexes = (rounds.filter (·.isHit)).map (·.index) := by
  simp only [Tally.indexes, Tally.ofRounds, hitsOf, List.map_map]
  rfl

/-- The rounds up to the first hit, that one included. -/
def upToHit (rounds : List (Probe α)) : List (Probe α) :=
  rounds.take (rounds.findIdx (·.isHit) + 1)

theorem upToHit_hit {made : Probe α} (hit : made.isHit = true) :
    upToHit (made :: rounds) = [made] := by
  simp [upToHit, List.findIdx_cons, hit]

theorem upToHit_miss {made : Probe α} (miss : made.isHit = false) :
    upToHit (made :: rounds) = made :: upToHit rounds := by
  simp [upToHit, List.findIdx_cons, miss]

theorem hitsOf_upToHit (rounds : List (Probe α)) :
    hitsOf (upToHit rounds) = (hitsOf rounds).take 1 := by
  induction rounds with
  | nil => rfl
  | cons made rest ih =>
    cases hit : made.isHit with
    | true => simp [upToHit_hit hit, hitsOf, hit]
    | false => simpa [upToHit_miss hit, hitsOf, hit] using ih

theorem hitsOf_upToHit_eq_nil (rounds : List (Probe α)) :
    hitsOf (upToHit rounds) = [] ↔ hitsOf rounds = [] := by
  rw [hitsOf_upToHit, List.take_eq_nil_iff]
  simp only [Nat.one_ne_zero, false_or]

theorem upToHit_eq_take (rounds : List (Probe α)) :
    upToHit rounds = rounds.take (upToHit rounds).length :=
  List.prefix_iff_eq_take.mp (List.take_prefix _ _)

/-- Among rounds there is no hit, and then all of them are kept; or there is a first one, which is
the last round kept. -/
theorem upToHit_cases (rounds : List (Probe α)) :
    ((upToHit rounds).length = rounds.length ∧ ∀ made ∈ rounds, made.isHit = false) ∨
      ∃ before made after, rounds = before ++ made :: after ∧
        (upToHit rounds).length = before.length + 1 ∧
        (∀ missed ∈ before, missed.isHit = false) ∧ made.isHit = true ∧
        hitsOf (upToHit rounds) = [made.hit] := by
  induction rounds with
  | nil => exact .inl ⟨rfl, by simp⟩
  | cons first rest ih =>
    cases hit : first.isHit with
    | true =>
      rw [upToHit_hit hit]
      exact .inr ⟨[], first, rest, rfl, rfl, by simp, hit, by simp [hitsOf, hit]⟩
    | false =>
      have kept : hitsOf (first :: upToHit rest) = hitsOf (upToHit rest) := by simp [hitsOf, hit]
      rw [upToHit_miss hit, kept, List.length_cons]
      rcases ih with ⟨all, missed⟩ | ⟨before, made, after, split, counted, missed, found⟩
      · left
        exact ⟨congrArg (· + 1) all, List.forall_mem_cons.mpr ⟨hit, missed⟩⟩
      · right
        refine ⟨first :: before, made, after, ?_, congrArg (· + 1) counted,
          List.forall_mem_cons.mpr ⟨hit, missed⟩, found⟩
        rw [split, List.cons_append]

end

namespace Scan

variable {ε σ α : Type} {c : Callbacks ε σ α} {p q : Place σ} {rounds : List (Probe α)}
  {ending : Ending ε α}

/-- What a pass that no failure ends took from its source. -/
theorem Course.took (course : Course c p rounds ending q) (fine : ending.failure? = none) :
    Sequence.Took p.sequence p.source (rounds.map (·.index)) none q.sequence q.source := by
  have took := Sequence.take_took rounds.length p.sequence p.source
  rw [course.taken fine] at took
  exact took

/-- A pass on which no call fails and which goes on behind hits derives what a fresh sequence of the
mode gives on the same source, once each and in order; that is as many indices as the mode counts.
Its hits are the accepted ones among the derived artifacts, in that order, and it draws once for
each index if the mode is random, and never otherwise. -/
theorem observe_visits (c : Callbacks ε σ α) (threshold : Nat) (mode : Mode) (source : Source)
    (state : σ) (full : c.stopOnFirst = false)
    (quiet : ∀ event ∈ (observe c threshold mode source state).events, event.failure? = none) :
    let run := observe c threshold mode source state
    let row := (Sequence.start mode).drain source
    row.1.failure? = none ∧ row.1.indices.length = mode.count ∧ run.derived = row.1.indices ∧
      run.source = row.2.2 ∧
      run.draws = (if mode.isRandom then row.1.indices.map .ok else []) ∧
      run.draws.length = (if mode.isRandom then mode.count else 0) ∧
      source.Yields (if mode.isRandom then Sequence.valuesOf row.1.indices none else [])
        run.source ∧
      ∃ rounds tally, Answers c state rounds run.state ∧
        rounds.map (·.index) = row.1.indices ∧ run.tested = rounds.map (·.artifact) ∧
        run.outcome = .ok tally ∧ tally.mode = mode ∧ tally.probed = mode.count ∧
        tally.hits = hitsOf rounds ∧
        tally.indexes = (rounds.filter (·.isHit)).map (·.index) ∧
        (tally.found = true ↔ ∃ made ∈ rounds, made.isHit = true) := by
  intro run row
  obtain ⟨rounds, ending, q, course, fine⟩ := course_of_quiet quiet
  have counted : rounds.length = mode.count := course.length_of_full fine full
  have row_eq : row = (⟨rounds.map (·.index), none⟩, q.sequence, q.source) := by
    have taken := course.taken fine
    rw [course.length_of_full fine full] at taken
    exact taken
  have shows : Shows threshold mode rounds run := course.shows fine
  obtain ⟨source_eq, state_eq⟩ : run.source = q.source ∧ run.state = q.state :=
    course.left threshold
  have draws : run.draws = if mode.isRandom then row.1.indices.map .ok else [] := by
    rw [shows.draws, row_eq, List.map_map]
    rfl
  have length : row.1.indices.length = mode.count := by
    rw [row_eq, List.length_map, counted]
  refine ⟨?_, length, ?_, ?_, draws, ?_, ?_, rounds, .ofRounds mode rounds, ?_, ?_, shows.tested,
    shows.outcome, rfl, counted, rfl, Tally.indexes_ofRounds, Tally.found_iff⟩
  · rw [row_eq]
  · rw [shows.derived, row_eq]
  · rw [source_eq, row_eq]
  · rw [draws]
    split_ifs
    · rw [List.length_map, length]
    · rfl
  · rw [source_eq, row_eq]
    exact (course.took fine).yields
  · rw [state_eq]
    exact course.answers fine
  · rw [row_eq]

/-- Callbacks that count the calls to derive and add their number to the index; even sums are
accepted. -/
def countedSums : Callbacks Empty Nat Nat where
  derive index calls := (.ok (index + calls), calls + 1)
  accepts sum calls := (.ok (sum % 2 == 0), calls)
  stopOnFirst := false

/-- A scan in which one index comes three times. -/
def repeatedScan : Observed Empty Nat Nat Nat (Tally Nat) :=
  observe countedSums Level.info.weight (.random ⟨4, by decide⟩) (.scripted [6, 5, 6, 6, 9] 0) 0

/-- An index that is drawn three times is derived three times, and is a hit as often as it is
accepted. -/
theorem observe_visits_repeated :
    repeatedScan.derived = [6, 5, 6, 6] ∧ repeatedScan.draws.length = 4 ∧
      ∃ tally, repeatedScan.outcome = .ok tally ∧ tally.hits = [⟨6, 6⟩, ⟨5, 6⟩, ⟨6, 8⟩] ∧
        tally.probed = 4 := by
  have quiet : (repeatedScan.events.filterMap Event.failure?).isEmpty = true := by decide +kernel
  have found : repeatedScan.outcome.toOption.map (·.hits) =
      some [⟨6, 6⟩, ⟨5, 6⟩, ⟨6, 8⟩] := by decide +kernel
  obtain ⟨-, -, derived, -, -, draws, -, rounds, tally, -, -, -, outcome, -, probed, -⟩ :=
    observe_visits countedSums Level.info.weight (.random ⟨4, by decide⟩)
      (.scripted [6, 5, 6, 6, 9] 0) 0 rfl (List.filterMap_eq_nil_iff.mp (List.isEmpty_iff.mp quiet))
  refine ⟨derived, draws, tally, outcome, ?_, probed⟩
  have outcome : repeatedScan.outcome = .ok tally := outcome
  rw [outcome] at found
  exact Option.some.inj found

/-! ### Stopping at the first hit -/

/-- A course that goes on behind hits is a course that stops at the first one, and then what is left
of it. The induction is on the course that goes on. -/
theorem Course.truncates (course : Course { c with stopOnFirst := false } p rounds ending q)
    (fine : ending.failure? = none) :
    ∃ early r, early.failure? = none ∧
      Course { c with stopOnFirst := true } p (upToHit rounds) early r ∧
      ∃ rest, rounds = upToHit rounds ++ rest ∧
        Course { c with stopOnFirst := false } r rest ending q := by
  induction course with
  | @ended p done => exact ⟨.ended, p, rfl, .ended done, [], rfl, .ended done⟩
  | undrawn => cases fine
  | underived => cases fine
  | undecided => cases fine
  | stopped round stops =>
    rw [Bool.and_false] at stops
    cases stops
  | @goesOn p q r made rounds ending round on rest ih =>
    have round' : Round { c with stopOnFirst := true } p made q := ⟨round.next, round.decides⟩
    cases hit : made.isHit with
    | true =>
      rw [upToHit_hit hit]
      have stops : (made.isHit && true) = true := by rw [hit, Bool.and_self]
      exact ⟨.stopped, q, rfl, .stopped round' stops, rounds, rfl, rest⟩
    | false =>
      rw [upToHit_miss hit]
      have goes : (made.isHit && true) = false := by rw [hit, Bool.false_and]
      obtain ⟨early, t, early_fine, part, later, split, others⟩ := ih fine
      refine ⟨early, t, early_fine, .goesOn round' goes part, later, ?_, others⟩
      rw [List.cons_append, ← split]

/-- Where a pass goes on from, the source has given the words of the rounds before, and then gives
those of the rounds that follow; it is not touched if the mode is not random. -/
theorem Course.took_apart {c' : Callbacks ε σ α} {r : Place σ} {rest : List (Probe α)}
    {early : Ending ε α} (first : Course c p rounds early r) (later : Course c' r rest ending q)
    (fine : early.failure? = none) (fine' : ending.failure? = none) :
    if p.sequence.mode.isRandom then
      p.source.Yields (Sequence.valuesOf (rounds.map (·.index)) none) r.source ∧
        r.source.Yields (Sequence.valuesOf (rest.map (·.index)) none) q.source
    else r.source = p.source := by
  have took := (first.took fine).yields
  have left := (later.took fine').yields
  rw [(first.took fine).mode_eq] at left
  split_ifs at took left ⊢
  · exact ⟨took, left⟩
  · exact took.eq_of_nil

/-- Stopping at the first hit cuts a scan short. Where no call of the scan that goes on behind hits
fails, none of the scan that stops fails either. It finds the first hit of the other, if that has
any; its calls are those of the other up to that hit, and all of them if there is none; and the
source of a random mode stands right behind the hit. -/
theorem observe_truncates (c : Callbacks ε σ α) (threshold : Nat) (mode : Mode) (source : Source)
    (state : σ)
    (quiet : ∀ event ∈ (observe { c with stopOnFirst := false } threshold mode source state).events,
      event.failure? = none) :
    let full := observe { c with stopOnFirst := false } threshold mode source state
    let short := observe { c with stopOnFirst := true } threshold mode source state
    ∃ whole part rounds, full.outcome = .ok whole ∧ short.outcome = .ok part ∧
      Answers { c with stopOnFirst := false } state rounds full.state ∧
      full.derived = rounds.map (·.index) ∧ full.tested = rounds.map (·.artifact) ∧
      whole.hits = hitsOf rounds ∧
      part.hits = whole.hits.take 1 ∧ (part.hits = [] ↔ whole.hits = []) ∧
      ((part.probed = rounds.length ∧ ∀ made ∈ rounds, made.isHit = false) ∨
        ∃ before made after, rounds = before ++ made :: after ∧ part.probed = before.length + 1 ∧
          (∀ missed ∈ before, missed.isHit = false) ∧ made.isHit = true ∧ part.hits = [made.hit]) ∧
      Answers { c with stopOnFirst := true } state (rounds.take part.probed) short.state ∧
      short.derived = full.derived.take part.probed ∧
      short.tested = full.tested.take part.probed ∧
      if mode.isRandom then
        short.draws.length = part.probed ∧
          source.Yields (Sequence.valuesOf short.derived none) short.source ∧
          short.source.Yields (Sequence.valuesOf (full.derived.drop part.probed) none) full.source
      else short.draws = [] ∧ short.source = source := by
  intro full short
  obtain ⟨rounds, ending, q, course, fine⟩ := course_of_quiet quiet
  obtain ⟨early, r, early_fine, stopping, rest, split, later⟩ := course.truncates fine
  have shows : Shows threshold mode rounds full := course.shows fine
  have shortly : Shows threshold mode (upToHit rounds) short := stopping.shows early_fine
  obtain ⟨full_source, full_state⟩ : full.source = q.source ∧ full.state = q.state :=
    course.left threshold
  obtain ⟨short_source, short_state⟩ : short.source = r.source ∧ short.state = r.state :=
    stopping.left threshold
  have first : rounds.take (upToHit rounds).length = upToHit rounds := (upToHit_eq_take rounds).symm
  have behind : rounds.drop (upToHit rounds).length = rest :=
    (congrArg (List.drop _) split).trans List.drop_left
  refine ⟨.ofRounds mode rounds, .ofRounds mode (upToHit rounds), rounds, shows.outcome,
    shortly.outcome, ?_, shows.derived, shows.tested, rfl, hitsOf_upToHit rounds,
    hitsOf_upToHit_eq_nil rounds, upToHit_cases rounds, ?_⟩
  · rw [full_state]
    exact course.answers fine
  dsimp only [Tally.ofRounds]
  refine ⟨?_, ?_, ?_, ?_⟩
  · rw [first, short_state]
    exact stopping.answers early_fine
  · rw [shortly.derived, shows.derived, ← List.map_take, first]
  · rw [shortly.tested, shows.tested, ← List.map_take, first]
  · have apart : if mode.isRandom then _ ∧ _ else r.source = source :=
      stopping.took_apart later early_fine fine
    rw [short_source, full_source, shortly.draws, shortly.derived, shows.derived, ← List.map_drop,
      behind]
    split_ifs at apart ⊢
    · exact ⟨List.length_map _, apart⟩
    · exact ⟨rfl, apart⟩

/-- A scan in which the second of five indices is the first hit, and the later ones are hits too. -/
def lateScan (stops : Bool) : Observed Empty Nat Nat Nat (Tally Nat) :=
  observe { countedSums with stopOnFirst := stops } Level.info.weight (.random ⟨5, by decide⟩)
    (.scripted [1, 3, 2, 3, 8, 9] 0) 0

/-- Stopped at its first hit, it derives two indices, and the next word drawn is the third. -/
theorem observe_truncates_late :
    (lateScan true).derived = [1, 3] ∧ (lateScan true).source = .scripted [2, 3, 8, 9] 2 ∧
      ∃ part, (lateScan true).outcome = .ok part ∧ part.hits = [⟨3, 4⟩] := by
  have quiet : ((lateScan false).events.filterMap Event.failure?).isEmpty = true := by
    decide +kernel
  have all : (lateScan false).derived = [1, 3, 2, 3, 8] := by decide +kernel
  have found : (lateScan true).outcome.toOption = some ⟨.random ⟨5, by decide⟩, [⟨3, 4⟩], 2⟩ := by
    decide +kernel
  obtain ⟨whole, part, rounds, -, outcome, -, -, -, -, -, -, -, -, derived, -, drawn⟩ :=
    observe_truncates countedSums Level.info.weight (.random ⟨5, by decide⟩)
      (.scripted [1, 3, 2, 3, 8, 9] 0) 0 (List.filterMap_eq_nil_iff.mp (List.isEmpty_iff.mp quiet))
  have outcome : (lateScan true).outcome = .ok part := outcome
  rw [outcome] at found
  obtain rfl := Option.some.inj found
  have derived : (lateScan true).derived = (lateScan false).derived.take 2 := derived
  rw [all] at derived
  obtain ⟨-, yields, -⟩ := drawn
  change Source.Yields _ (Sequence.valuesOf (lateScan true).derived none) _ at yields
  rw [derived] at yields
  exact ⟨derived, yields.of_scripted.2, _, outcome, rfl⟩

end Scan

end IndexScan
