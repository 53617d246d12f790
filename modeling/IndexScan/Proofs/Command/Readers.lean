import IndexScan.Proofs.Command.Nested
import IndexScan.Proofs.Console.Exact

/-!
Previews for a reader. What a reader gets is set line by line: a header, the indices one below the
other, and a last line if the list was cut off (`shownLines`). They are made of short phrases without
marks (`IsPhrase`), two with a word as a tag around a part, so each is printed as one line
(`forall₂_indexLines`). A reader is therefore shown exactly the indices that a program is told of
(`previews_shown`).
-/

namespace IndexScan.Command

open Console

variable {mode : Mode} {indices : List Nat} {s : Sequence} {cs xs ys : List Char} {k l m n : Nat}

/-! ### Phrases -/

/-- ASCII without marks, with a certain number of colons and of a certain length at most. -/
structure IsPhrase (m k : Nat) (cs : List Char) : Prop where
  tame : IsTame cs
  colons : cs.count ':' = m
  length : cs.length ≤ k

theorem IsPhrase.append (left : IsPhrase m k xs) (right : IsPhrase n l ys) :
    IsPhrase (m + n) (k + l) (xs ++ ys) where
  tame := left.tame.append right.tame
  colons := by rw [List.count_append, left.colons, right.colons]
  length := by
    rw [List.length_append]
    exact Nat.add_le_add left.length right.length

theorem IsPhrase.unmarked (phrase : IsPhrase m k cs) (few : m ≤ 1) : Unmarked cs :=
  phrase.tame.unmarked (phrase.colons.symm ▸ few)

theorem toList_text (n : Nat) : (Decimal.text n).toList = Decimal.ofNat n :=
  String.toList_ofList

theorem isPhrase_text (word : n < 2 ^ 32) : IsPhrase 0 10 (Decimal.text n).toList := by
  obtain ⟨-, digits⟩ := Decimal.ofNat_isDigits n
  rw [toList_text]
  refine ⟨.of_isDigits digits, List.count_eq_zero.mpr fun mem => ?_,
    (Nat.length_toDigits_le_iff (by decide) (by decide)).mpr (by omega)⟩
  exact absurd (digits ':' mem) (by decide)

theorem isPhrase_directive (mode : Mode) : IsPhrase 0 16 mode.directive.toList := by
  have number (n : UnhardenedIndex) : IsPhrase 0 10 n.text.toList :=
    isPhrase_text (Nat.lt_trans n.value_lt (by decide))
  have first : IsPhrase 0 6 "first".toList := ⟨by decide, by decide, by decide⟩
  have random : IsPhrase 0 6 "random".toList := ⟨by decide, by decide, by decide⟩
  cases mode with
  | single => exact ⟨by decide, by decide, by decide⟩
  | first n =>
    rw [Mode.directive, String.toList_append]
    exact first.append (number n)
  | random n =>
    rw [Mode.directive, String.toList_append]
    exact random.append (number n)

/-! ### Lines -/

/-- The lines that a reader gets of the first indices of a mode. -/
def shownLines (mode : Mode) (indices : List Nat) (truncated : Bool) : List String :=
  (mode.directive ++ ": " ++ Decimal.text mode.count ++ " index(es)") ::
    indices.map (fun i => Decimal.text (i : Nat)) ++
      if truncated then
        ["… " ++ Decimal.text (mode.count - indices.length : Nat) ++
          " more not shown (raise --limit)"]
      else []

theorem prints_index (word : n < 2 ^ 32) : Prints (Decimal.text n) (Decimal.text n) := by
  have number := isPhrase_text word
  obtain ⟨filled, digits⟩ := Decimal.ofNat_isDigits n
  obtain ⟨c, rest, begins⟩ := List.exists_cons_of_ne_nil filled
  have first : c ∈ Decimal.ofNat n := by simp [begins]
  have digit : c ≠ ' ' := by
    rintro rfl
    exact absurd (digits ' ' first) (by decide)
  exact prints_unmarked (number.unmarked (by decide)) (fits_of_tame number.tame
    (number.tame.solid (by rwa [toList_text]) digit) (Nat.le_trans number.length (by decide)))

theorem prints_header (mode : Mode) :
    Prints ("[bold]" ++ mode.directive ++ "[/bold]: " ++ Decimal.text mode.count ++ " index(es)")
      (mode.directive ++ ": " ++ Decimal.text mode.count ++ " index(es)") := by
  have directive := isPhrase_directive mode
  have count := isPhrase_text (Sequence.count_lt mode)
  have colon : IsPhrase 1 2 ": ".toList := ⟨by decide, by decide, by decide⟩
  have unit : IsPhrase 0 10 " index(es)".toList := ⟨by decide, by decide, by decide⟩
  have behind : IsPhrase 1 22 (": " ++ Decimal.text mode.count ++ " index(es)").toList := by
    rw [String.toList_append, String.toList_append]
    exact (colon.append count).append unit
  have whole := directive.append behind
  have fits : Fits (mode.directive ++
      (": " ++ Decimal.text mode.count ++ " index(es)")).toList := by
    rw [String.toList_append]
    exact fits_of_tame whole.tame (whole.tame.solid (c := ':') (by simp) (by decide))
      (Nat.le_trans whole.length (by decide))
  have bold : "bold" ∈ Markup.words := by decide
  have split : mode.directive ++ ": " ++ Decimal.text mode.count ++ " index(es)" =
      mode.directive ++ (": " ++ Decimal.text mode.count ++ " index(es)") := by
    simp only [String.append_assoc]
  rw [split]
  refine prints_enclosed bold (directive.unmarked (by decide)) (behind.unmarked (by decide)) fits ?_
  simp only [String.toList_append, List.append_assoc]
  rfl

theorem prints_rest (word : n < 2 ^ 32) :
    Prints ("[dim]… " ++ Decimal.text n ++ " more not shown (raise --limit)[/dim]")
      ("… " ++ Decimal.text n ++ " more not shown (raise --limit)") := by
  have blank : IsPhrase 0 1 " ".toList := ⟨by decide, by decide, by decide⟩
  have more : IsPhrase 0 31 " more not shown (raise --limit)".toList :=
    ⟨by decide, by decide, by decide⟩
  have behind : IsPhrase 0 42
      (" " ++ Decimal.text n ++ " more not shown (raise --limit)").toList := by
    rw [String.toList_append, String.toList_append]
    exact (blank.append (isPhrase_text word)).append more
  have dots : Printable ['…'] := by decide +kernel
  have line : ("… " ++ Decimal.text n ++ " more not shown (raise --limit)").toList =
      ['…'] ++ (" " ++ Decimal.text n ++ " more not shown (raise --limit)").toList := by
    simp only [String.toList_append, List.append_assoc]
    rfl
  have inside : Unmarked ("… " ++ Decimal.text n ++ " more not shown (raise --limit)").toList := by
    rw [line]
    refine ⟨dots.append behind.tame.printable, ?_, ?_⟩
    · exact List.forall_mem_append.mpr
        ⟨List.forall_mem_singleton.mpr (by decide), behind.tame.ordinary⟩
    · rw [List.count_append, behind.colons]
      decide
  have fits : Fits ("… " ++ Decimal.text n ++ " more not shown (raise --limit)" ++ "").toList := by
    have one : cells ['…'] = 1 := by decide +kernel
    have short : 1 + (" " ++ Decimal.text n ++ " more not shown (raise --limit)").toList.length ≤
        lineWidth :=
      Nat.le_trans (Nat.add_le_add_left behind.length 1) (by decide)
    rw [String.append_empty, line]
    exact fits_append dots behind.tame ⟨'…', by simp, by decide +kernel⟩ (one.symm ▸ short) short
  have nothing : Unmarked "".toList := ⟨by decide, by decide, by decide⟩
  have dim : "dim" ∈ Markup.words := by decide
  rw [← String.append_empty (s := "… " ++ Decimal.text n ++ " more not shown (raise --limit)")]
  refine prints_enclosed dim inside nothing fits ?_
  simp only [String.toList_append, List.append_assoc]
  rfl

/-- Each line that lists indices is printed as the line that a reader is to get. -/
theorem forall₂_indexLines (words : ∀ i ∈ indices, i < 2 ^ 32) (same : s.mode = mode)
    (produced : s.produced = indices.length) :
    List.Forall₂ Prints (indexLines mode indices s) (shownLines mode indices !s.isExhausted) := by
  have numbers : List.Forall₂ Prints (indices.map fun i => Decimal.text (i : Nat))
      (indices.map fun i => Decimal.text (i : Nat)) := by
    rw [List.forall₂_map_left_iff, List.forall₂_map_right_iff, List.forall₂_same]
    exact fun i mem => prints_index (words i mem)
  have remaining : s.remaining = mode.count - indices.length := by
    rw [Sequence.remaining, same, produced]
  have left : mode.count - indices.length < 2 ^ 32 :=
    Nat.lt_of_le_of_lt (Nat.sub_le _ _) (Sequence.count_lt mode)
  unfold indexLines shownLines
  rw [remaining]
  have shown := List.Forall₂.cons (prints_header mode) numbers
  cases s.isExhausted with
  | true => exact List.rel_append shown .nil
  | false => exact List.rel_append shown (.cons (prints_rest left) .nil)

/-! ### Runs -/

/-- A run for a reader ended well, and it printed these lines and nothing else. -/
structure Shown (o : Outcome) (lines : List String) : Prop where
  unbroken : o.failure? = none
  code : o.exitCode = Report.successCode
  printed : o.printed = String.join (lines.map (· ++ "\n"))

theorem Shown.withLog {o : Outcome} {lines : List String} (shown : Shown o lines)
    (log : List LogRecord) : Shown { o with log := log } lines :=
  ⟨shown.unbroken, shown.code, shown.printed⟩

theorem shown_ofLines {lines shows : List String} (prints : List.Forall₂ Prints lines shows) :
    Shown (.ofLines Report.successCode lines) shows := by
  have all : (Outcome.ofLines Report.successCode lines).on .ample =
      ⟨Report.successCode, String.join (shows.map (· ++ "\n")), none, []⟩ := by
    simp only [Outcome.on, Outcome.ofLines, Terminal.printAll_of_forall₂ prints]
    rfl
  exact ⟨congrArg Ending.failure? all, congrArg Ending.exitCode all, congrArg Ending.printed all⟩

/-- A report for a reader that prints lines leaves these lines. -/
theorem ofReport_printing {r : Report} {lines shows : List String} (forReader : r.isJson = false)
    (prints : List.Forall₂ Prints lines shows) :
    Outcome.ofReport (r.printing lines) = .ofLines r.exitCode lines := by
  have unbroken := (Report.printing_of_forall₂ r prints).1
  rw [Outcome.ofReport, Report.Said.andThen_of_none unbroken]
  show Outcome.mk r.finish.report.exitCode (lines.map .marked ++ r.finish.items)
    (r.finish.broken?.map .report) [] = _
  rw [Report.finish_reader forReader, Report.silent, List.append_nil]
  rfl

/-- A reader is shown the indices that were taken. -/
theorem sayIndices_shown (words : ∀ i ∈ indices, i < 2 ^ 32) (same : s.mode = mode)
    (produced : s.produced = indices.length) :
    Shown (.ofReport (sayIndices mode indices s (.start false)))
      (shownLines mode indices !s.isExhausted) := by
  have prints := forall₂_indexLines words same produced
  have said : sayIndices mode indices s (.start false) =
      (((Report.start false).setData _ _).setData _ _ |>.setData _ _).printing
        (indexLines mode indices s) := rfl
  rw [said, ofReport_printing rfl prints]
  exact shown_ofLines prints

variable {directive : String} {seed : Int} {limit : Nat} {w : Workplace} {args : List String}

/-- A run for a reader shows the preview, with what is missing from the count if it was cut off. -/
theorem run_shows_preview {isVerbose isDebug : Bool}
    (asks : Request.ofArguments args =
      .run ⟨false, isVerbose, isDebug, .indexes (some directive) (some seed) limit⟩)
    (parse : Directive.parse directive = .ok mode) (small : limit < Sequence.takeBound)
    (w : Workplace) :
    Shown (run w args).1
      (shownLines mode (preview seed mode limit) (decide (limit < mode.count))) := by
  obtain ⟨s, after, first, exhausted⟩ := firstIndices_preview small seed mode
  obtain ⟨same, produced⟩ := firstIndices_produced first
  obtain ⟨log, ran⟩ := run_eq_perform asks w
  have given : Directive.parse ((some directive).getD w.settings.1.mode) = .ok mode := parse
  obtain ⟨listLog, eq⟩ := listIndices_eq false w.entropy (some seed) limit given
  have truncated : (!s.isExhausted) = decide (limit < mode.count) := by
    rw [exhausted, ← decide_not, decide_eq_decide, Nat.not_le]
  have shown := sayIndices_shown (firstIndices_words first) same produced
  rw [truncated] at shown
  rw [Option.some_or, sourceOf, first] at eq
  rw [ran]
  simp only [perform, eq]
  exact ((shown.withLog _).withLog _).withLog _

/-- Previews for a reader and for a program are the same. Every seed that can be written can be asked
for, with any limit that can be asked for at once, and no other. A run for a program tells a list and
whether it is cut off; the run for a reader with the same task, in any workplace, prints a header with
the directive and the count, each number of that list on a line of its own, and exactly if the list is
cut off, a last line with the number of those that are left out. -/
theorem previews_shown (parse : Directive.parse directive = .ok mode)
    (small : limit < Sequence.takeBound) (seed : Int) :
    (Decimal.fits seed = true →
      Request.ofArguments (listingArgs directive seed limit) =
        .run ⟨false, false, false, .indexes (some directive) (some seed) limit⟩ ∧
      Request.ofArguments ("--json" :: listingArgs directive seed limit) =
        .run ⟨true, false, false, .indexes (some directive) (some seed) limit⟩) ∧
    (Decimal.fits seed = false →
      Request.ofArguments (listingArgs directive seed limit) = .misuse ∧
      Request.ofArguments ("--json" :: listingArgs directive seed limit) = .misuse) ∧
    ∀ (w : Workplace) (args jsonArgs : List String)
      (isVerbose isDebug isVerbose' isDebug' : Bool),
      Request.ofArguments args =
        .run ⟨false, isVerbose, isDebug, .indexes (some directive) (some seed) limit⟩ →
      Request.ofArguments jsonArgs =
        .run ⟨true, isVerbose', isDebug', .indexes (some directive) (some seed) limit⟩ →
      ∃ indices truncated,
        Told (run w jsonArgs).1 (Account.ofIndices mode indices truncated) ∧
        Shown (run w args).1 (shownLines mode indices truncated) ∧
        indices = preview seed mode limit := by
  refine ⟨fun fits => ?_, fun long => ?_, fun w args jsonArgs _ _ _ _ asks asksJson =>
    ⟨_, _, run_tells_preview asksJson parse small w, run_shows_preview asks parse small w, rfl⟩⟩
  · have asks := ofArguments_listing parse fits (short_of_lt_takeBound small)
    exact ⟨asks, ofArguments_json asks⟩
  · have misuse : Request.ofArguments (listingArgs directive seed limit) = .misuse :=
      ofArguments_listing_misuse parse long
    exact ⟨misuse, by rw [ofArguments_cons_json, misuse]; rfl⟩

/-- Two of five indices are listed, and the last line tells of three more. -/
theorem previews_shown_cut :
    ∃ truncated,
      Told (run emptyWorkplace ["--json", "indexes", "first5", "--seed", "7", "--limit", "2"]).1
        (Account.ofIndices (.first ⟨5, by decide⟩) [0, 1] truncated) ∧
      Shown (run emptyWorkplace ["indexes", "first5", "--seed", "7", "--limit", "2"]).1
        (shownLines (.first ⟨5, by decide⟩) [0, 1] truncated) := by
  have parse : Directive.parse "first5" = .ok (.first ⟨5, by decide⟩) := by decide +kernel
  have small : 2 < Sequence.takeBound := by decide
  obtain ⟨asked, -, lists⟩ := previews_shown parse small 7
  obtain ⟨asks, asksJson⟩ := asked (by decide +kernel)
  obtain ⟨indices, truncated, told, shown, eq⟩ := lists emptyWorkplace _ _ _ _ _ _ asks asksJson
  have two : preview 7 (.first ⟨5, by decide⟩) 2 = [0, 1] := preview_of_ordered rfl 7 2
  rw [eq, two] at told shown
  exact ⟨truncated, told, shown⟩

end IndexScan.Command
