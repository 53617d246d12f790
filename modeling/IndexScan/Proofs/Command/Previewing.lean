import IndexScan.Command.Run
import IndexScan.Proofs.Command.Endings
import IndexScan.Proofs.Command.Listing
import IndexScan.Proofs.Draw.Variety
import IndexScan.Proofs.Json.RoundTrip
import IndexScan.Proofs.Profile.Loading
import IndexScan.Proofs.Text.Numeral
import Mathlib.Data.List.Nodup

/-!
Printed previews. With a seed, the document that a preview prints lists for every branch what its
last place in the profile gives (`run_scan_lists`). So a smaller limit cuts off the lists of a
larger one, and does nothing else, exactly when the words that either limit leads to are the same
(`scan_truncates_iff`). Behind the first branch of a random profile they need not be.
-/

namespace IndexScan

namespace Command

/-! ### What is printed -/

@[simp] theorem logging_exitCode (log : List LogRecord) (o : Outcome) :
    (o.logging log).exitCode = o.exitCode := rfl

@[simp] theorem logging_printed (log : List LogRecord) (o : Outcome) :
    (o.logging log).printed = o.printed := rfl

/-- The document that a printed text is. -/
def document? (printed : String) : Option Json :=
  (Json.read (some Decimal.limit) printed.toList).toOption

/-- The items that a printed preview lists for a branch. -/
def items? (printed : String) (branch : Int) : Option (List Json) := do
  let document ← document? printed
  let branches ← document.get? "branches"
  match ← branches.get? (Decimal.text branch) with
  | .arr items => some items
  | _ => none

/-- A report that is kept for a program prints its document, the exit code included, whatever the
terminal. -/
theorem ofReport_silent {r : Report} (json : r.isJson = true)
    (plain : Json.isPlain (some Decimal.limit)
      (.obj (Json.insert "exit_code" (.int r.exitCode) r.data)) = true) :
    ∃ text, document? text = some (.obj (Json.insert "exit_code" (.int r.exitCode) r.data)) ∧
      ∀ t, (Outcome.ofReport r.silent).on t = ⟨r.exitCode, text, none, []⟩ := by
  have complete : (Json.obj (Json.insert "exit_code" (.int r.exitCode) r.data)).render.complete =
      true :=
    Json.written_complete (fun _ => rfl) _ 0 plain
  have finish : r.finish = (r.setData "exit_code" (.int r.exitCode)).writing
      ((Json.obj (Json.insert "exit_code" (.int r.exitCode) r.data)).render.text ++ ['\n']) := by
    rw [Report.finish, if_pos json]
    simp only [Report.setData, complete, if_true]
    rfl
  have newline : Json.IsSpacing ['\n'] := by simp [Json.IsSpacing]
  refine ⟨String.ofList ((Json.obj (Json.insert "exit_code" (.int r.exitCode) r.data)).render.text
    ++ ['\n']), ?_, fun t => ?_⟩
  · rw [document?, String.toList_ofList, Json.read_render plain newline]
    rfl
  · rw [Outcome.ofReport, Report.Said.silent_andThen, finish]
    exact Outcome.ended_on _ _ t

/-- The members of the document of a preview. -/
def previewMembers (profile : Profile) (mode : Mode) (plan : List (Int × List Nat)) :
    List (String × Json) :=
  [("status", .str "success"), ("errors", .arr []), ("warnings", .arr []),
    ("profile", .str profile.name), ("mode", modeDocument mode), ("branches", planDocument plan),
    ("exit_code", .int Report.successCode)]

/-- The document of a preview. -/
def previewDocument (profile : Profile) (mode : Mode) (plan : List (Int × List Nat)) : Json :=
  .obj (previewMembers profile mode plan)

/-- Integers of 32 bits are short. -/
theorem admits_word {n : Nat} (small : n < 2 ^ 32) :
    Json.admits (some Decimal.limit) (n : Int) = true := by
  have few : (Decimal.ofNat n).length ≤ 10 :=
    (Nat.length_toDigits_le_iff (by decide) (by decide)).mpr (by omega)
  have most : 10 ≤ Decimal.limit := by decide
  rw [Json.admits, Option.all_some, decide_eq_true_eq, Int.natAbs_natCast]
  exact Nat.le_trans few most

theorem modeDocument_isPlain (mode : Mode) :
    Json.isPlain (some Decimal.limit) (modeDocument mode) = true := by
  have none := admits_word (n := 0) (by decide)
  have count := admits_word (Sequence.count_lt mode)
  rw [Int.natCast_zero] at none
  simp [modeDocument, Json.isPlain, Json.membersArePlain, Json.arePlain, none, count]

theorem arePlain_words {indices : List Nat} (words : ∀ i ∈ indices, i < 2 ^ 32) :
    Json.arePlain (some Decimal.limit) (indices.map fun i => .int (i : Nat)) = true := by
  induction indices with
  | nil => rfl
  | cons i rest ih =>
    have head := admits_word (words i (by simp))
    have tail := ih fun j mem => words j (by simp [mem])
    simp [Json.arePlain, Json.isPlain, head, tail]

/-- The members that stand for the branches of a plan. -/
def planMembers (plan : List (Int × List Nat)) : List (String × Json) :=
  plan.map fun (branch, indices) =>
    (Decimal.text branch, .arr (indices.map fun i => .int (i : Nat)))

theorem membersArePlain_plan {plan : List (Int × List Nat)}
    (words : ∀ e ∈ plan, ∀ i ∈ e.2, i < 2 ^ 32) :
    Json.membersArePlain (some Decimal.limit) (planMembers plan) = true := by
  induction plan with
  | nil => rfl
  | cons e rest ih =>
    have head := arePlain_words (words e (by simp))
    have tail := ih fun f mem => words f (by simp [mem])
    rw [planMembers, List.map_cons, Json.membersArePlain, Json.isPlain, head, Bool.true_and]
    exact tail

theorem planDocument_isPlain {plan : List (Int × List Nat)} (distinct : (plan.map (·.1)).Nodup)
    (words : ∀ e ∈ plan, ∀ i ∈ e.2, i < 2 ^ 32) :
    Json.isPlain (some Decimal.limit) (planDocument plan) = true := by
  have keys : (planMembers plan).map (·.1) = (plan.map (·.1)).map Decimal.text := by
    simp [planMembers, Function.comp_def]
  have members := membersArePlain_plan words
  show Json.isPlain _ (.obj (planMembers plan)) = true
  rw [Json.isPlain, keys, members, Bool.and_true, decide_eq_true_eq]
  exact List.Nodup.map Decimal.text_injective distinct

/-- The document of a plan lists what the plan does. -/
theorem lookup?_planMembers (plan : List (Int × List Nat)) (branch : Int) :
    Json.lookup? (Decimal.text branch) (planMembers plan) =
      (plan.lookup branch).map fun indices => .arr (indices.map fun i => .int (i : Nat)) := by
  induction plan with
  | nil => rfl
  | cons e rest ih =>
    obtain ⟨b, indices⟩ := e
    rw [planMembers, List.map_cons, Json.lookup?_cons, List.lookup_cons]
    by_cases same : branch = b
    · simp [same]
    · have differ : Decimal.text b ≠ Decimal.text branch := fun text =>
        same (Decimal.text_injective text).symm
      have unequal : (branch == b) = false := beq_false_of_ne same
      rw [if_neg differ, unequal]
      exact ih

theorem previewDocument_isPlain {profile : Profile} {mode : Mode} {plan : List (Int × List Nat)}
    (distinct : (plan.map (·.1)).Nodup) (words : ∀ e ∈ plan, ∀ i ∈ e.2, i < 2 ^ 32) :
    Json.isPlain (some Decimal.limit) (previewDocument profile mode plan) = true := by
  have code : Json.admits (some Decimal.limit) Report.successCode = true :=
    admits_word (n := 0) (by decide)
  simp [previewDocument, previewMembers, Json.isPlain, Json.membersArePlain, Json.arePlain,
    modeDocument_isPlain, planDocument_isPlain distinct words, code]

/-- A preview of a plan prints its document. -/
theorem ofReport_sayPlan {profile : Profile} {mode : Mode} {plan : List (Int × List Nat)}
    (plain : Json.isPlain (some Decimal.limit) (previewDocument profile mode plan) = true) :
    (Outcome.ofReport (sayPlan profile mode plan (.start true))).exitCode = Report.successCode ∧
      document? (Outcome.ofReport (sayPlan profile mode plan (.start true))).printed =
        some (previewDocument profile mode plan) := by
  let r := (((Report.start true).setData "profile" (.str profile.name)).setData "mode"
    (modeDocument mode)).setData "branches" (planDocument plan)
  have data : Json.insert "exit_code" (.int r.exitCode) r.data =
      previewMembers profile mode plan := by
    simp [r, Report.setData, Report.start, Json.insert, previewMembers]
  rw [previewDocument, ← data] at plain ⊢
  obtain ⟨text, document, ends⟩ := ofReport_silent (r := r) rfl plain
  have said : sayPlan profile mode plan (.start true) = r.silent := rfl
  have printed : (Outcome.ofReport r.silent).printed = text := congrArg Ending.printed (ends .ample)
  rw [said, printed]
  exact ⟨congrArg Ending.exitCode (ends .ample), document⟩

/-! ### The run -/

/-- The profile at a path, if it is one. -/
def Workplace.profile? (w : Workplace) (path : String) : Option Profile :=
  match w.folder.find (Path.ofText path) with
  | .ok file => (Profile.load (Path.ofText path).text file).toOption
  | .error _ => none

section

variable {w : Workplace} {path : String} {profile : Profile} {mode : Mode} {seed : Int}
  {seed? : Option Int}

theorem toOption_eq_some {α ε : Type} {reading : Except ε α} {value : α}
    (ok : reading.toOption = some value) : reading = .ok value := by
  cases reading with
  | ok other => exact congrArg _ (Option.some.inj ok)
  | error e => cases ok

/-- A profile is loaded from what stands at its path. -/
theorem load_of_profile? (loaded : w.profile? path = some profile) :
    ∃ file, w.folder.find (Path.ofText path) = .ok file ∧
      Profile.load (Path.ofText path).text file = .ok profile := by
  unfold Workplace.profile? at loaded
  split at loaded
  · next file found => exact ⟨file, found, toOption_eq_some loaded⟩
  · cases loaded

theorem resolverMode_of_profile? (loaded : w.profile? path = some profile) :
    ∃ mode, profile.resolverMode = .ok mode := by
  obtain ⟨file, _, read⟩ := load_of_profile? loaded
  exact Profile.resolverMode_of_load read

theorem branches_of_profile? (loaded : w.profile? path = some profile) : profile.branches ≠ [] := by
  obtain ⟨file, _, read⟩ := load_of_profile? loaded
  exact Profile.branches_of_load read

/-- A preview of a profile that can be loaded is that of the profile. -/
theorem previewFile_of_profile? (loaded : w.profile? path = some profile) (isJson : Bool)
    (limit : Nat) :
    previewFile isJson w.settings w.entropy w.folder path seed? limit =
      previewProfile isJson w.settings w.entropy profile seed? limit := by
  obtain ⟨file, found, read⟩ := load_of_profile? loaded
  unfold previewFile
  simp only [found]
  cases file with
  | absent => cases read
  | directory => cases read
  | regular bytes => simp only [read]

/-- A preview of a profile follows its plan. -/
theorem previewProfile_eq (isJson : Bool) (seed? : Option Int) (limit : Nat)
    (resolves : profile.resolverMode = .ok mode) :
    ∃ log, previewProfile isJson w.settings w.entropy profile seed? limit =
      Outcome.logging log (match plan mode limit profile.branches
          (sourceOf w.entropy (seed?.or w.settings.1.seed)) with
        | .error failure => .broken failure
        | .ok p => .ofReport (sayPlan profile mode p (.start isJson))) := by
  cases seed? with
  | none => exact ⟨w.settings.2, by simp only [previewProfile, resolves]; rfl⟩
  | some seed => exact ⟨[], by simp only [previewProfile, resolves]; rfl⟩

/-- With a seed, a preview prints the document of its plan. -/
theorem previewProfile_document (resolves : profile.resolverMode = .ok mode)
    (seeded : seed?.or w.settings.1.seed = some seed) {limit : Nat}
    (small : limit < Sequence.takeBound) :
    ∃ p, plan mode limit profile.branches (.seeded (.ofSeed seed)) = .ok p ∧
      (previewProfile true w.settings w.entropy profile seed? limit).exitCode =
        Report.successCode ∧
      document? (previewProfile true w.settings w.entropy profile seed? limit).printed =
        some (previewDocument profile mode p) := by
  obtain ⟨p, planned, -⟩ := plan_seeded small mode profile.branches (.ofSeed seed)
  have listable := plan_listable planned
  obtain ⟨code, document⟩ := ofReport_sayPlan
    (previewDocument_isPlain listable.distinct listable.words)
  obtain ⟨log, eq⟩ := previewProfile_eq (w := w) true seed? limit resolves
  rw [seeded, sourceOf, planned] at eq
  refine ⟨p, planned, ?_⟩
  rw [eq, logging_exitCode, logging_printed]
  exact ⟨code, document⟩

/-- With a seed, a preview lists for every branch what its last place in the profile gives. -/
theorem previewProfile_lists (resolves : profile.resolverMode = .ok mode)
    (seeded : seed?.or w.settings.1.seed = some seed) {limit : Nat}
    (small : limit < Sequence.takeBound) :
    (previewProfile true w.settings w.entropy profile seed? limit).exitCode = Report.successCode ∧
      ∀ b, items? (previewProfile true w.settings w.entropy profile seed? limit).printed b =
        (lastPlace? b profile.branches).map fun k =>
          (listed mode (.ofSeed seed) limit k).map fun i => .int (i : Nat) := by
  obtain ⟨p, planned, code, document⟩ := previewProfile_document resolves seeded small
  obtain ⟨q, same, _, lists⟩ := plan_seeded small mode profile.branches (.ofSeed seed)
  obtain rfl : p = q := Except.ok.inj (planned.symm.trans same)
  refine ⟨code, fun b => ?_⟩
  have branches : (previewDocument profile mode p).get? "branches" =
      some (.obj (planMembers p)) := rfl
  have members : (Json.obj (planMembers p)).get? (Decimal.text b) =
      (p.lookup b).map fun indices => .arr (indices.map fun i => .int (i : Nat)) :=
    lookup?_planMembers p b
  simp only [items?, document, branches, members, lists, bind, Option.bind]
  cases lastPlace? b profile.branches <;> rfl

/-- With a seed, so does a run. -/
theorem run_scan_lists {args : List String} {isVerbose isDebug : Bool} {limit : Nat}
    (asks : Request.ofArguments args = .run ⟨true, isVerbose, isDebug, .scan path seed? limit⟩)
    (loaded : w.profile? path = some profile) (resolves : profile.resolverMode = .ok mode)
    (seeded : seed?.or w.settings.1.seed = some seed) (small : limit < Sequence.takeBound) :
    (run w args).1.exitCode = Report.successCode ∧
      ∀ b, items? (run w args).1.printed b = (lastPlace? b profile.branches).map fun k =>
        (listed mode (.ofSeed seed) limit k).map fun i => .int (i : Nat) := by
  obtain ⟨code, lists⟩ := previewProfile_lists resolves seeded small
  rw [run, asks]
  simp only [perform, previewFile_of_profile? loaded]
  exact ⟨code, lists⟩

/-- A list of indices is printed as the beginning of another exactly when it is one. -/
theorem printed_take_iff {indices others : List Nat} {limit : Nat} :
    some (indices.map fun (i : Nat) => Json.int i) =
        (some (others.map fun (i : Nat) => Json.int i)).map (·.take limit) ↔
      indices = others.take limit := by
  rw [Option.map_some, ← List.map_take, Option.some_inj]
  exact (List.map_injective_iff.mpr fun i j same => by simpa using same).eq_iff

/-- Two runs with limits of which the second is no smaller: the first prints for every branch the
beginning of what the second prints exactly when the mode is not random, or when the words that both
limits lead to are the same at every branch that is shown. -/
theorem scan_truncates_iff {args₁ args₂ : List String}
    {isVerbose₁ isVerbose₂ isDebug₁ isDebug₂ : Bool} {limit₁ limit₂ : Nat}
    (asks₁ : Request.ofArguments args₁ =
      .run ⟨true, isVerbose₁, isDebug₁, .scan path seed? limit₁⟩)
    (asks₂ : Request.ofArguments args₂ =
      .run ⟨true, isVerbose₂, isDebug₂, .scan path seed? limit₂⟩)
    (loaded : w.profile? path = some profile)
    (seeded : seed?.or w.settings.1.seed = some seed) (le : limit₁ ≤ limit₂)
    (small : limit₂ < Sequence.takeBound) :
    ∃ mode, profile.resolverMode = .ok mode ∧
      (∀ b ∈ profile.branches, (items? (run w args₁).1.printed b).isSome = true ∧
        (items? (run w args₂).1.printed b).isSome = true) ∧
      ((∀ b ∈ profile.branches,
        items? (run w args₁).1.printed b = (items? (run w args₂).1.printed b).map (·.take limit₁)) ↔
        mode.isRandom = false ∨
          ∀ b k, lastPlace? b profile.branches = some k → ∀ j < min limit₁ mode.count,
            (Twister.ofSeed seed).word (k * min limit₁ mode.count + j) =
              (Twister.ofSeed seed).word (k * min limit₂ mode.count + j)) := by
  obtain ⟨mode, resolves⟩ := resolverMode_of_profile? loaded
  obtain ⟨_, lists₁⟩ := run_scan_lists asks₁ loaded resolves seeded (Nat.lt_of_le_of_lt le small)
  obtain ⟨_, lists₂⟩ := run_scan_lists asks₂ loaded resolves seeded small
  refine ⟨mode, resolves, fun b mem => ?_, ?_⟩
  · rw [lists₁, lists₂, Option.isSome_map, Option.isSome_map]
    exact ⟨lastPlace?_isSome mem, lastPlace?_isSome mem⟩
  · have places (b : Int) : b ∈ profile.branches ↔ ∃ k, lastPlace? b profile.branches = some k :=
      ⟨fun mem => Option.isSome_iff_exists.mp (lastPlace?_isSome mem),
        fun ⟨_, place⟩ => mem_of_lastPlace? place⟩
    have cut (b : Int) (k : Nat) (place : lastPlace? b profile.branches = some k) :
        items? (run w args₁).1.printed b =
            (items? (run w args₂).1.printed b).map (·.take limit₁) ↔
          listed mode (.ofSeed seed) limit₁ k =
            (listed mode (.ofSeed seed) limit₂ k).take limit₁ := by
      rw [lists₁, lists₂, place, Option.map_some, Option.map_some, printed_take_iff]
    refine ⟨fun agree => ?_, fun agree b mem => ?_⟩
    · cases random : mode.isRandom with
      | false => exact .inl rfl
      | true =>
        refine .inr fun b k place => ?_
        have listed := (cut b k place).mp (agree b ((places b).mpr ⟨k, place⟩))
        simpa [random] using (listed_take_iff mode (.ofSeed seed) le k).mp listed
    · obtain ⟨k, place⟩ := (places b).mp mem
      exact (cut b k place).mpr ((listed_take_iff mode (.ofSeed seed) le k).mpr
        (agree.imp_right fun words => words b k place))

end

/-! ### Two random branches -/

/-- A workplace with a random profile of two branches. -/
def dicedWorkplace (count : String) : Workplace :=
  ⟨Folder.empty.put ["p.yaml"]
      (.ofText ("name: n\nmode: random" ++ count ++ "\nbranches: [0, 1]\n").toList),
    ⟨none, none, "config"⟩, .scripted [] 0⟩

/-- The arguments of a preview of that profile. -/
def previewArgs (limit : Nat) : List String :=
  ["--json", "scan", "p.yaml", "--seed", "7", "--limit", Decimal.text limit]

theorem ofArguments_previewArgs {limit : Nat}
    (short : (Decimal.ofNat limit).length ≤ Decimal.limit) :
    Request.ofArguments (previewArgs limit) =
      .run ⟨true, false, false, .scan "p.yaml" (some 7) limit⟩ := by
  have reads : Numeral.readAscii (Decimal.text limit).toList = .ok (limit : Int) := by
    rw [Decimal.text, String.toList_ofList]
    exact Numeral.readAscii_ofNat short
  unfold previewArgs
  -- The last argument is a value, so it is not looked at until its turn.
  generalize Decimal.text limit = text at reads
  have outer : readOptions globalSwitches false
      ["--json", "scan", "p.yaml", "--seed", "7", "--limit", text] =
        some ([(jsonSwitch, "")], ["scan", "p.yaml", "--seed", "7", "--limit", text]) := rfl
  have inner : readOptions listingSwitches true ["p.yaml", "--seed", "7", "--limit", text] =
      some ([(seedSwitch, "7"), (limitSwitch, text)], ["p.yaml"]) := rfl
  have numbers : listing [(seedSwitch, "7"), (limitSwitch, text)] = .ok (some 7, limit) := by
    have seed : integerOf (valueOf? seedSwitch [(seedSwitch, "7"), (limitSwitch, text)]) =
        .ok (some 7) := rfl
    have bound : integerOf (valueOf? limitSwitch [(seedSwitch, "7"), (limitSwitch, text)]) =
        .ok (some (.ofNat limit)) := by
      simp [integerOf, valueOf?, reads]
    rw [listing, seed, bound]
    rfl
  have noHelp : isGiven helpSwitch [(seedSwitch, "7"), (limitSwitch, text)] = false := by
    simp [isGiven, helpSwitch, seedSwitch, limitSwitch]
  have command : readCommand? "scan" ["p.yaml", "--seed", "7", "--limit", text] =
      some (.task (.scan "p.yaml" (some 7) limit)) := by
    simp [readCommand?, readTask, inner, noHelp, numbers]
  have plain : Request.ofGiven? [(jsonSwitch, "")] = none := rfl
  simp only [Request.ofArguments, outer, plain, command]
  rfl

/-- There a limit that cuts off nothing agrees with a larger one. -/
theorem scan_untruncated_agrees :
    items? (run (dicedWorkplace "2") (previewArgs 2)).1.printed 0 =
        (items? (run (dicedWorkplace "2") (previewArgs 3)).1.printed 0).map (·.take 2) ∧
      items? (run (dicedWorkplace "2") (previewArgs 2)).1.printed 1 =
        (items? (run (dicedWorkplace "2") (previewArgs 3)).1.printed 1).map (·.take 2) := by
  have loaded : (dicedWorkplace "2").profile? "p.yaml" = some ⟨"n", "random2", [0, 1], none⟩ := by
    decide +kernel
  have asks₁ : Request.ofArguments (previewArgs 2) =
      .run ⟨true, false, false, .scan "p.yaml" (some 7) 2⟩ :=
    ofArguments_previewArgs (by decide)
  have asks₂ : Request.ofArguments (previewArgs 3) =
      .run ⟨true, false, false, .scan "p.yaml" (some 7) 3⟩ :=
    ofArguments_previewArgs (by decide)
  obtain ⟨mode, resolves, _, agree⟩ :=
    scan_truncates_iff asks₁ asks₂ loaded rfl (by decide) (by decide)
  obtain rfl : Mode.random ⟨2, by decide⟩ = mode := by
    have parse : Directive.parse "random2" = .ok (.random ⟨2, by decide⟩) := by decide +kernel
    exact Except.ok.inj (parse.symm.trans resolves)
  have both := agree.mpr (.inr fun _ _ _ _ _ => rfl)
  exact ⟨both 0 (by decide), both 1 (by decide)⟩

/-- Some limit changes what a smaller one lists first for the second branch: it is the place in the
stream where that branch begins. -/
theorem scan_one_disagrees :
    ∃ limit, 1 < limit ∧ limit ≤ 625 ∧
      items? (run (dicedWorkplace "625") (previewArgs 1)).1.printed 1 ≠
        (items? (run (dicedWorkplace "625") (previewArgs limit)).1.printed 1).map (·.take 1) := by
  have loaded :
      (dicedWorkplace "625").profile? "p.yaml" = some ⟨"n", "random625", [0, 1], none⟩ := by
    decide +kernel
  have resolves : Directive.parse "random625" = .ok (.random ⟨625, by decide⟩) := by decide +kernel
  have asks₁ : Request.ofArguments (previewArgs 1) =
      .run ⟨true, false, false, .scan "p.yaml" (some 7) 1⟩ :=
    ofArguments_previewArgs (by decide)
  obtain ⟨limit, more, most, differs⟩ := Twister.exists_word_ne 7
  have most : limit ≤ 625 := most
  refine ⟨limit, more, most, fun same => differs ?_⟩
  have asks₂ : Request.ofArguments (previewArgs limit) =
      .run ⟨true, false, false, .scan "p.yaml" (some 7) limit⟩ := by
    refine ofArguments_previewArgs (Nat.le_trans ?_ (by decide : 3 ≤ Decimal.limit))
    exact (Nat.length_toDigits_le_iff (by decide) (by decide)).mpr (by omega)
  have small : limit < Sequence.takeBound := Nat.lt_of_le_of_lt most (by decide)
  obtain ⟨_, lists₁⟩ := run_scan_lists asks₁ loaded resolves rfl (by decide)
  obtain ⟨_, lists₂⟩ := run_scan_lists asks₂ loaded resolves rfl small
  have second : lastPlace? 1 [0, 1] = some 1 := by decide
  rw [lists₁, lists₂, second, Option.map_some, Option.map_some, printed_take_iff] at same
  have words := (listed_take_iff _ _ (Nat.le_of_lt more) 1).mp same
  have begins : min limit 625 = limit := Nat.min_eq_left most
  simpa [Mode.isRandom, Mode.kind, Mode.count, begins, eq_comm] using words

end Command

end IndexScan
