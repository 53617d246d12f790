import IndexScan.Command.Arguments
import IndexScan.Proofs.Directive.Grammar
import IndexScan.Proofs.Text.Numeral
import IndexScan.Sequence.Basic

/-!
Asking for a task. The option for programs in front of any arguments asks for the same as they do,
told to a program (`ofArguments_cons_json`). Every directive can be asked about, be it behind two
dashes (`ofArguments_parse`, `ofArguments_indexes`), and with every seed and limit that can be
written (`ofArguments_listing`); a seed that is refused makes the whole request a misuse
(`ofArguments_listing_misuse`).
-/

namespace IndexScan.Command

/-! ### The option for programs -/

/-- The same request, told to a program. -/
def Request.forProgram : Request → Request
  | .run i => .run { i with isJson := true }
  | request => request

theorem forProgram_of_ofGiven? {given : List Given} {request : Request}
    (asked : Request.ofGiven? given = some request) : request.forProgram = request := by
  obtain ⟨g, -, rfl⟩ := Option.map_eq_some_iff.mp asked
  split_ifs <;> rfl

theorem readOptions_json (args : List String) :
    readOptions globalSwitches false ("--json" :: args) =
      (readOptions globalSwitches false args).map fun (given, others) =>
        ((jsonSwitch, "") :: given, others) := by
  have cluster (next? : Option String) :
      readCluster globalSwitches "--json" next? = some ⟨[(jsonSwitch, "")], false⟩ := rfl
  conv_lhs => rw [readOptions.eq_def]
  dsimp only
  rw [if_neg (by decide), if_pos (by decide), cluster]
  rfl

/-- The option in front of arguments changes only whom the task is told to. -/
theorem ofArguments_cons_json (args : List String) :
    Request.ofArguments ("--json" :: args) = (Request.ofArguments args).forProgram := by
  unfold Request.ofArguments
  rw [readOptions_json]
  cases readOptions globalSwitches false args with
  | none => rfl
  | some options =>
    obtain ⟨given, others⟩ := options
    have same : Request.ofGiven? ((jsonSwitch, "") :: given) = Request.ofGiven? given := rfl
    simp only [Option.map_some, same]
    cases asked : Request.ofGiven? given with
    | some request => exact (forProgram_of_ofGiven? asked).symm
    | none =>
      cases others with
      | nil => rfl
      | cons name rest =>
        dsimp only
        cases readCommand? name rest with
        | some reading => cases reading <;> rfl
        | none =>
          -- Where no command is named, arguments ask for the version or for help at most.
          dsimp only
          split
          · rfl
          · next more _ _ =>
            cases asked : Request.ofGiven? more with
            | none => rfl
            | some request => exact (forProgram_of_ofGiven? asked).symm

theorem ofArguments_json {args : List String} {i : Invocation}
    (asks : Request.ofArguments args = .run i) :
    Request.ofArguments ("--json" :: args) = .run { i with isJson := true } := by
  rw [ofArguments_cons_json, asks]
  rfl

/-! ### A directive as an argument -/

variable {directive seedText limitText : String} {mode : Mode} {seed : Int} {limit : Nat}

/-- Behind two dashes every text is a directive. -/
theorem ofArguments_parse (directive : String) :
    Request.ofArguments ["parse", "--", directive] =
      .run ⟨false, false, false, .parse directive⟩ := by
  rfl

theorem ofArguments_indexes (directive : String) :
    Request.ofArguments ["indexes", "--", directive] =
      .run ⟨false, false, false, .indexes (some directive) none defaultLimit⟩ := by
  rfl

/-- A directive that denotes a mode begins with the first letter of a word. -/
theorem head_of_parse (parse : Directive.parse directive = .ok mode) :
    directive.toList.head? ∈ [some 'w', some 'f', some 'r'] := by
  cases mode with
  | single =>
    obtain rfl := Directive.parse_eq_single_iff.mp parse
    decide
  | first n =>
    rcases Directive.parse_eq_first_iff.mp parse with ⟨rfl, -⟩ | ⟨cs, text, -⟩
    · decide
    · rw [text]
      exact List.mem_cons_of_mem _ List.mem_cons_self
  | random n =>
    rcases Directive.parse_eq_random_iff.mp parse with ⟨rfl, -⟩ | ⟨cs, text, -⟩
    · decide
    · rw [text]
      exact List.mem_cons_of_mem _ (List.mem_cons_of_mem _ List.mem_cons_self)

/-- So it is taken for no option, and does not end the options. -/
theorem isOption_of_parse (parse : Directive.parse directive = .ok mode) :
    directive ≠ "--" ∧ isOption directive = false := by
  have head := head_of_parse parse
  constructor
  · rintro rfl
    exact absurd head (by decide)
  · have other : directive.toList.head? ≠ some '-' := by
      intro dash
      rw [dash] at head
      exact absurd head (by decide)
    rw [isOption, beq_false_of_ne other, Bool.false_and]

/-! ### A seed and a limit -/

/-- The arguments that ask for the first indices of a directive with a seed and a limit. -/
def listingArgs (directive : String) (seed : Int) (limit : Nat) : List String :=
  ["indexes", directive, "--seed", Decimal.text seed, "--limit", Decimal.text limit]

/-- The options behind a directive are read, and their values are not looked at until their turn. -/
theorem readOptions_listing (goesOn : directive ≠ "--") (plain : isOption directive = false) :
    readOptions listingSwitches true [directive, "--seed", seedText, "--limit", limitText] =
      some ([(seedSwitch, seedText), (limitSwitch, limitText)], [directive]) := by
  have behind : readOptions listingSwitches true ["--seed", seedText, "--limit", limitText] =
      some ([(seedSwitch, seedText), (limitSwitch, limitText)], []) := rfl
  rw [readOptions.eq_def]
  simp only [if_neg goesOn, plain, behind]
  rfl

/-- What comes of a request for indices depends on the two values. -/
theorem ofArguments_listing_eq (goesOn : directive ≠ "--") (plain : isOption directive = false) :
    Request.ofArguments ["indexes", directive, "--seed", seedText, "--limit", limitText] =
      match listing [(seedSwitch, seedText), (limitSwitch, limitText)] with
      | .ok (seed?, limit) => .run ⟨false, false, false, .indexes (some directive) seed? limit⟩
      | .error () => .misuse := by
  have outer : readOptions globalSwitches false
      ["indexes", directive, "--seed", seedText, "--limit", limitText] =
        some ([], ["indexes", directive, "--seed", seedText, "--limit", limitText]) := rfl
  have noHelp : isGiven helpSwitch [(seedSwitch, seedText), (limitSwitch, limitText)] = false := by
    simp [isGiven, helpSwitch, seedSwitch, limitSwitch]
  have runs : Request.ofGiven? [] = none := rfl
  simp only [Request.ofArguments, outer, runs, readCommand?, readTask,
    readOptions_listing goesOn plain, noHelp, Bool.false_eq_true, if_false]
  cases listing [(seedSwitch, seedText), (limitSwitch, limitText)] with
  | ok values => rfl
  | error none => rfl

theorem integerOf_seed : integerOf
    (valueOf? seedSwitch [(seedSwitch, seedText), (limitSwitch, limitText)]) =
      integerOf (some seedText) := by
  simp [valueOf?, seedSwitch, limitSwitch]

theorem integerOf_limit : integerOf
    (valueOf? limitSwitch [(seedSwitch, seedText), (limitSwitch, limitText)]) =
      integerOf (some limitText) := by
  simp [valueOf?]

theorem readAscii_text_of_fits {n : Int} (fits : Decimal.fits n = true) :
    Numeral.readAscii (Decimal.text n).toList = .ok n := by
  rw [Decimal.text, String.toList_ofList]
  exact Numeral.readAscii_ofInt ((Decimal.fits_iff n).mp fits)

/-- A limit that can be asked for is short. -/
theorem short_of_lt_takeBound (small : limit < Sequence.takeBound) :
    (Decimal.ofNat limit).length ≤ Decimal.limit := by
  have few : (Decimal.ofNat limit).length ≤ 19 :=
    (Nat.length_toDigits_le_iff (by decide) (by decide)).mpr
      (Nat.lt_trans small (by decide))
  exact Nat.le_trans few (by decide)

/-- Every seed and limit that can be written can be asked for. -/
theorem ofArguments_listing (parse : Directive.parse directive = .ok mode)
    (fits : Decimal.fits seed = true) (short : (Decimal.ofNat limit).length ≤ Decimal.limit) :
    Request.ofArguments (listingArgs directive seed limit) =
      .run ⟨false, false, false, .indexes (some directive) (some seed) limit⟩ := by
  obtain ⟨goesOn, plain⟩ := isOption_of_parse parse
  have seedReads : integerOf (some (Decimal.text seed)) = .ok (some seed) := by
    simp only [integerOf, readAscii_text_of_fits fits]
  have limitReads : integerOf (some (Decimal.text limit)) = .ok (some (.ofNat limit)) := by
    simp only [integerOf, readAscii_text_of_fits ((Decimal.fits_iff limit).mpr short)]
    rfl
  rw [listingArgs, ofArguments_listing_eq goesOn plain, listing, integerOf_seed, integerOf_limit,
    seedReads, limitReads]
  rfl

/-- No other seed can be asked for. -/
theorem ofArguments_listing_misuse (parse : Directive.parse directive = .ok mode)
    (long : Decimal.fits seed = false) :
    Request.ofArguments (listingArgs directive seed limit) = .misuse := by
  obtain ⟨goesOn, plain⟩ := isOption_of_parse parse
  have tooLong : Decimal.limit < (Decimal.ofNat seed.natAbs).length := by
    rw [← Nat.not_le, ← Decimal.fits_iff, long]
    exact Bool.false_ne_true
  have refused : integerOf (some (Decimal.text seed)) = .error () := by
    simp only [integerOf, Decimal.text, String.toList_ofList, Numeral.readAscii_ofInt_eq,
      if_pos tooLong]
  rw [listingArgs, ofArguments_listing_eq goesOn plain, listing, integerOf_seed, refused]
  rfl

end IndexScan.Command
