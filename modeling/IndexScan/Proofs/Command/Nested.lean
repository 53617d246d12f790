import IndexScan.Proofs.Command.Asking
import IndexScan.Proofs.Command.Faithful
import IndexScan.Proofs.Command.Telling

/-!
Nested previews. With a seed, the first indices of a mode are read off one stream from its beginning
(`preview`), and the list ends at the limit or at the count of the mode, whichever comes first. So
the lists for all limits are prefixes of one another, and so are those of random modes of different
counts; what is left out is what a scan with that seed probes later (`Previews`).

A run prints just this list, and says that it is cut off exactly when the count is beyond the limit
(`run_previews`).
-/

namespace IndexScan.Command

variable {seed : Int} {mode : Mode} {limit larger : Nat}

/-! ### Lists -/

/-- The first indices of a mode with a seed, `limit` at most. -/
def preview (seed : Int) (mode : Mode) (limit : Nat) : List Nat :=
  listed mode (.ofSeed seed) limit 0

theorem preview_of_random (random : mode.isRandom = true) (seed : Int) (limit : Nat) :
    preview seed mode limit =
      (List.range (min limit mode.count)).map (Twister.ofSeed seed).word := by
  rw [preview, listed, if_pos random]
  simp only [Nat.zero_mul, Nat.zero_add]

theorem preview_of_ordered (ordered : mode.isRandom = false) (seed : Int) (limit : Nat) :
    preview seed mode limit = List.range (min limit mode.count) := by
  rw [preview, listed, if_neg (Bool.not_eq_true _ ▸ ordered)]

theorem preview_length (seed : Int) (mode : Mode) (limit : Nat) :
    (preview seed mode limit).length = min limit mode.count := by
  cases random : mode.isRandom with
  | true => rw [preview_of_random random, List.length_map, List.length_range]
  | false => rw [preview_of_ordered random, List.length_range]

/-- A limit cuts off what the count of the mode leaves. -/
theorem preview_eq_take (seed : Int) (mode : Mode) (limit : Nat) :
    preview seed mode limit = (preview seed mode mode.count).take limit := by
  cases random : mode.isRandom with
  | true =>
    rw [preview_of_random random, preview_of_random random, ← List.map_take, List.take_range,
      Nat.min_self]
  | false =>
    rw [preview_of_ordered random, preview_of_ordered random, List.take_range, Nat.min_self]

/-- The list for a limit is a prefix of that for a larger one. -/
theorem preview_nested (le : limit ≤ larger) (seed : Int) (mode : Mode) :
    preview seed mode limit <+: preview seed mode larger := by
  rw [preview_eq_take seed mode limit, preview_eq_take seed mode larger]
  exact List.take_prefix_take_left le

/-- Random modes read the same stream, so one that counts fewer lists a prefix. -/
theorem preview_of_fewer {n m : UnhardenedIndex} (fewer : n.value ≤ m.value) (seed : Int)
    (limit : Nat) : preview seed (.random n) limit <+: preview seed (.random m) limit := by
  have within : min limit n.value ≤ min limit m.value := by omega
  have cut : List.range (min limit n.value) =
      (List.range (min limit m.value)).take (min limit n.value) := by
    rw [List.take_range, Nat.min_eq_left within]
  rw [preview_of_random rfl, preview_of_random rfl]
  refine List.IsPrefix.map _ ?_
  show List.range (min limit n.value) <+: _
  rw [cut]
  exact List.take_prefix _ _

theorem preview_words (seed : Int) (mode : Mode) (limit : Nat) :
    ∀ i ∈ preview seed mode limit, i < 2 ^ 32 := by
  intro i mem
  cases random : mode.isRandom with
  | true =>
    rw [preview_of_random random] at mem
    obtain ⟨place, -, rfl⟩ := List.mem_map.mp mem
    exact UInt32.toNat_lt _
  | false =>
    rw [preview_of_ordered random] at mem
    have below := List.mem_range.mp mem
    have count := Sequence.count_lt mode
    omega

theorem count_lt_takeBound (mode : Mode) : mode.count < Sequence.takeBound :=
  Nat.lt_trans (Sequence.count_lt mode) (by decide)

variable {ε α : Type}

/-- A full scan probes the indices that are listed, and the list stops at its limit. -/
theorem preview_probed {p : Probing ε α} (full : p.Full) (seed : Int) (mode : Mode) :
    ∃ result, (Scan.resolve p mode (.seeded (.ofSeed seed))).outcome = .ok result ∧
      ∀ limit, preview seed mode limit = (probedIndices result).take limit := by
  obtain ⟨fine, -⟩ := (Sequence.start mode).take_of_seeded mode.count (.ofSeed seed)
  obtain ⟨probes, log, pass, indices⟩ :=
    Scan.resolve_of_full full mode (.seeded (.ofSeed seed)) fine
  obtain ⟨s, first⟩ := firstIndices_of_count_le (Nat.le_refl _) (count_lt_takeBound mode) fine
  obtain ⟨t, same⟩ := firstIndices_seeded (count_lt_takeBound mode) mode (.ofSeed seed)
  have whole : preview seed mode mode.count = probedIndices ⟨mode, probes⟩ := by
    rw [first] at same
    simp only [Except.ok.injEq, Prod.mk.injEq] at same
    exact same.1.symm.trans indices.symm
  refine ⟨⟨mode, probes⟩, by rw [pass], fun limit => ?_⟩
  rw [preview_eq_take, whole]

/-! ### Runs -/

/-- The sequence behind the first indices has produced as many as are listed. -/
theorem firstIndices_produced {source after : Source} {s : Sequence} {indices : List Nat}
    (listed : firstIndices mode limit source = .ok (indices, s, after)) :
    s.mode = mode ∧ s.produced = indices.length := by
  have took := Sequence.take_took limit (Sequence.start mode) source
  unfold firstIndices at listed
  split_ifs at listed
  rcases row : (Sequence.start mode).take limit source with ⟨⟨taken, failure?⟩, t, b⟩
  rw [row] at listed took
  cases failure? with
  | some e => cases listed
  | none =>
    cases listed
    exact ⟨took.mode_eq, took.produced_eq.trans (Nat.zero_add _)⟩

/-- With a seed, the first indices are those of the preview, and none is to come exactly when the
limit is no smaller than the count. -/
theorem firstIndices_preview (small : limit < Sequence.takeBound) (seed : Int) (mode : Mode) :
    ∃ s after, firstIndices mode limit (.seeded (.ofSeed seed)) =
        .ok (preview seed mode limit, s, after) ∧
      s.isExhausted = decide (mode.count ≤ limit) := by
  obtain ⟨s, first⟩ := firstIndices_seeded small mode (.ofSeed seed)
  obtain ⟨same, produced⟩ := firstIndices_produced first
  have length : s.produced = min limit mode.count := produced.trans (preview_length seed mode limit)
  refine ⟨s, _, first, ?_⟩
  rw [Sequence.isExhausted, same, length, decide_eq_decide]
  omega

variable {w : Workplace} {args : List String} {directive : String}

/-- The run prints the preview in full, and says whether the count of the mode is beyond its
limit. -/
theorem run_tells_preview {isVerbose isDebug : Bool}
    (asks : Request.ofArguments args =
      .run ⟨true, isVerbose, isDebug, .indexes (some directive) (some seed) limit⟩)
    (parse : Directive.parse directive = .ok mode) (small : limit < Sequence.takeBound)
    (w : Workplace) :
    Told (run w args).1
      (Account.ofIndices mode (preview seed mode limit) (decide (limit < mode.count))) := by
  obtain ⟨s, after, first, exhausted⟩ := firstIndices_preview small seed mode
  obtain ⟨log, ran⟩ := run_eq_perform asks w
  have given : Directive.parse ((some directive).getD w.settings.1.mode) = .ok mode := parse
  obtain ⟨listLog, eq⟩ := listIndices_eq true w.entropy (some seed) limit given
  have truncated : (!s.isExhausted) = decide (limit < mode.count) := by
    rw [exhausted, ← decide_not, decide_eq_decide, Nat.not_le]
  have words := firstIndices_words first
  rw [Option.some_or, sourceOf, first] at eq
  simp only [sayIndices_start, truncated] at eq
  rw [ran]
  simp only [perform, eq]
  exact (((told_account (Account.ofIndices_sound mode words _)).withLog _).withLog _).withLog _

/-! ### Arguments -/

/-- The arguments that ask for the first indices of a directive with a seed and a limit. -/
def indexArgs (directive : String) (seed : Int) (limit : Nat) : List String :=
  ["--json", "indexes", directive, "--seed", Decimal.text seed, "--limit", Decimal.text limit]

theorem ofArguments_indexArgs (parse : Directive.parse directive = .ok mode)
    (fits : Decimal.fits seed = true) (short : (Decimal.ofNat limit).length ≤ Decimal.limit) :
    Request.ofArguments (indexArgs directive seed limit) =
      .run ⟨true, false, false, .indexes (some directive) (some seed) limit⟩ :=
  ofArguments_json (ofArguments_listing parse fits short)

/-! ### Nested lists -/

/-- The lists that previews with a seed show, for each mode and limit. -/
structure Previews (seed : Int) (lists : Mode → Nat → List Nat) : Prop where
  /-- A run for a program that asks for the list prints it, and nothing else fails. -/
  printed : ∀ (w : Workplace) (args : List String) (isVerbose isDebug : Bool) (directive : String)
    (mode : Mode) (limit : Nat), Request.ofArguments args =
      .run ⟨true, isVerbose, isDebug, .indexes (some directive) (some seed) limit⟩ →
    Directive.parse directive = .ok mode → limit < Sequence.takeBound →
    Told (run w args).1
      (Account.ofIndices mode (lists mode limit) (decide (limit < mode.count)))
  /-- Every seed that can be written can be asked for. -/
  asked : Decimal.fits seed = true → ∀ (directive : String) (mode : Mode) (limit : Nat),
    Directive.parse directive = .ok mode → limit < Sequence.takeBound →
    Request.ofArguments (indexArgs directive seed limit) =
      .run ⟨true, false, false, .indexes (some directive) (some seed) limit⟩
  length : ∀ mode limit, (lists mode limit).length = min limit mode.count
  nested : ∀ mode limit larger, limit ≤ larger → lists mode limit <+: lists mode larger
  ordered : ∀ mode limit, mode.isRandom = false →
    lists mode limit = List.range (min limit mode.count)
  words : ∀ mode limit, ∀ i ∈ lists mode limit, i < 2 ^ 32
  fewer : ∀ (n m : UnhardenedIndex) limit, n.value ≤ m.value →
    lists (.random n) limit <+: lists (.random m) limit
  /-- The indices are those that a scan with the seed probes, in its order. -/
  probed : ∀ {ε α : Type} (p : Probing ε α), p.Full → ∀ mode,
    ∃ result, (Scan.resolve p mode (.seeded (.ofSeed seed))).outcome = .ok result ∧
      ∀ limit, lists mode limit = (probedIndices result).take limit

/-- With a seed, previews are exact: what a run prints is the list for its mode and limit, and the
lists are prefixes of one another and of what is probed. -/
theorem previews_nested (seed : Int) : Previews seed (preview seed) where
  printed w _ _ _ _ _ _ asks parse small := run_tells_preview asks parse small w
  asked fits _ _ _ parse small := ofArguments_indexArgs parse fits (short_of_lt_takeBound small)
  length := preview_length seed
  nested mode _ _ le := preview_nested le seed mode
  ordered _ limit ordered := preview_of_ordered ordered seed limit
  words := preview_words seed
  fewer _ _ limit fewer := preview_of_fewer fewer seed limit
  probed _ full mode := preview_probed full seed mode

end IndexScan.Command
