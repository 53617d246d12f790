import IndexScan.Proofs.Json.Limits
import IndexScan.Proofs.Report.Said

/-!
What reports collect. A report is made by calls, and what it comes to depends on all of them: the exit
code on the last error, the messages on all errors and warnings, and every other member on what it was
set to last. For a program, the report after some calls is `collected` from these calls, and one more
call leads from one such report to the next (`make_collected`). For a reader everything is printed as
it comes and only the exit code is collected, by every call as it is for a program (`make_keeps`).

So both kinds of report end with the same exit code, and a program gets one document with all that was
said, if no integer in it is too long to be written (`finish_collects`). A longer integer is taken by
the calls without complaint, and then there is no document (`finish_loses`).
-/

namespace IndexScan.Report

/-! ### Calls -/

/-- A call that adds to a report. -/
inductive Call where
  | success (message : String) (data : List (String × Json))
  | error (message : String) (category? suggestion? : Option String) (exitCode : Int)
  | warning (message : String) (category? suggestion? : Option String)
  | text (message : String)
  | table (title : String) (columns : List String) (rows : List (List String))
      (key? : Option String)
  | setData (key : String) (value : Json)

/-- The keys of the members that every document has. -/
def commonKeys : List String :=
  ["status", "errors", "warnings", "exit_code"]

namespace Call

/-- Makes a call. -/
def make (r : Report) : Call → Said
  | success message data => r.success message data
  | error message category? suggestion? exitCode => r.error message category? suggestion? exitCode
  | warning message category? suggestion? => r.warning message category? suggestion?
  | text message => r.text message
  | table title columns rows key? => r.table title columns rows key?
  | setData key value => (r.setData key value).silent

/-- The item that an error adds. -/
def errorItem? : Call → Option Json
  | error message category? suggestion? _ => some (messageItem message category? suggestion?)
  | _ => none

/-- The item that a warning adds. -/
def warningItem? : Call → Option Json
  | warning message category? suggestion? => some (messageItem message category? suggestion?)
  | _ => none

/-- The exit code that an error sets. -/
def exitCode? : Call → Option Int
  | error _ _ _ exitCode => some exitCode
  | _ => none

/-- The members that a call sets, in its order. A table is a list with an object for each row. -/
def writes : Call → List (String × Json)
  | success _ data => data
  | table title columns rows key? =>
    [(tableKey title key?,
      .arr (rows.map fun row => .obj (Json.ofPairs (columns.zip (row.map .str)))))]
  | setData key value => [(key, value)]
  | _ => []

/-- A call that sets no member that every document has. -/
def Free (c : Call) : Prop :=
  ∀ m ∈ c.writes, m.1 ∉ commonKeys

instance (c : Call) : Decidable c.Free :=
  inferInstanceAs (Decidable (∀ m ∈ c.writes, m.1 ∉ commonKeys))

end Call

/-- Makes calls one after the other, as long as none breaks off. -/
def makeAll (r : Report) : List Call → Said
  | [] => r.silent
  | c :: calls => (c.make r).andThen (makeAll · calls)

/-! ### What calls come to -/

/-- The items of the errors, in the order of the calls. -/
def errorItems (calls : List Call) : List Json :=
  calls.filterMap Call.errorItem?

/-- The items of the warnings, in the order of the calls. -/
def warningItems (calls : List Call) : List Json :=
  calls.filterMap Call.warningItem?

/-- The status that goes with some errors. -/
def statusOf (errors : List Json) : String :=
  if errors.isEmpty then "success" else "error"

/-- The exit code of the last error, or that of success. -/
def lastCode (calls : List Call) : Int :=
  (calls.filterMap Call.exitCode?).getLast?.getD successCode

/-- All that is written to members, in the order of the calls. -/
def writesOf (calls : List Call) : List (String × Json) :=
  calls.flatMap Call.writes

/-- The members of a document that tells of some calls. -/
structure Documents (calls : List Call) (members : List (String × Json)) : Prop where
  /-- Every key stands where it was set first, between the common ones. -/
  keys : members.map (·.1) = ["status", "errors", "warnings"] ++
    ((writesOf calls).map (·.1)).eraseDups ++ ["exit_code"]
  status : Json.lookup? "status" members =
    some (.str (if (errorItems calls).isEmpty then "success" else "error"))
  errors : Json.lookup? "errors" members = some (.arr (errorItems calls))
  warnings : Json.lookup? "warnings" members = some (.arr (warningItems calls))
  exitCode : Json.lookup? "exit_code" members = some (.int (lastCode calls))
  /-- Under every other key stands what was written last. -/
  others : ∀ key ∉ commonKeys,
    Json.lookup? key members = Json.lookup? key (writesOf calls).reverse

/-- Calls that leave no integer which is too long to be written. -/
structure Short (calls : List Call) : Prop where
  exitCode : Decimal.fits (lastCode calls) = true
  values : ∀ key value, Json.lookup? key (writesOf calls).reverse = some value →
    Json.Writable value

/-- A report that comes to its end. -/
structure Said.Ends (said : Said) (exitCode : Int) (printed : String) : Prop where
  unbroken : said.failure? = none
  exitCode : said.report.exitCode = exitCode
  printed : said.printed = printed

/-- The end of a report that some calls made. -/
def endOf (isJson : Bool) (calls : List Call) : Said :=
  (makeAll (start isJson) calls).report.finish

/-- A report for a program, which begins with the members that every document has. -/
def framed (errors warnings : List Json) (members : List (String × Json)) (exitCode : Int) :
    Report where
  isJson := true
  data := [("status", .str (statusOf errors)), ("errors", .arr errors),
    ("warnings", .arr warnings)] ++ members
  exitCode := exitCode

/-- The report of some calls for a program. -/
def collected (calls : List Call) : Report :=
  framed (errorItems calls) (warningItems calls) (Json.ofPairs (writesOf calls)) (lastCode calls)

section

variable {r : Report} {c : Call} {before calls : List Call} {errors warnings : List Json}
  {members data : List (String × Json)} {exitCode : Int} {key : String} {value item : Json}

theorem lastCode_concat : lastCode (before ++ [c]) = c.exitCode?.getD (lastCode before) := by
  cases code : c.exitCode? <;> simp [lastCode, List.filterMap_append, code]

theorem writesOf_concat : writesOf (before ++ [c]) = writesOf before ++ c.writes := by
  simp [writesOf]

/-! ### One call for anyone -/

/-- A report for the same and with the same exit code. -/
structure Keeps (r s : Report) : Prop where
  isJson : s.isJson = r.isJson
  exitCode : s.exitCode = r.exitCode

theorem setData_keeps : Keeps r (r.setData key value) := ⟨rfl, rfl⟩

theorem setAll_keeps : Keeps r (data.foldl (fun r d => r.setData d.1 d.2) r) := by
  induction data generalizing r with
  | nil => exact ⟨rfl, rfl⟩
  | cons d data ih => exact ⟨(ih (r := r.setData d.1 d.2)).isJson, ih.exitCode⟩

theorem collect_keeps : Keeps r (r.collect key item).report := by
  unfold collect
  split <;> exact ⟨rfl, rfl⟩

theorem printing_report (r : Report) (lines : List String) : (r.printing lines).report = r := rfl

theorem texts_report (r : Report) (lines : List String) : (r.texts lines).report = r := by
  unfold texts
  split_ifs
  · rfl
  · exact printing_report r lines

/-- Only errors change the exit code, whoever the report is for. -/
theorem make_keeps (r : Report) (c : Call) :
    Keeps { r with exitCode := c.exitCode?.getD r.exitCode } (c.make r).report := by
  cases c with
  | success message data =>
    simp only [Call.make, success]
    split_ifs
    · exact setAll_keeps
    · rw [printing_report]
      exact ⟨rfl, rfl⟩
  | error message category? suggestion? exitCode =>
    simp only [Call.make, error]
    split_ifs
    · exact ⟨collect_keeps.isJson, collect_keeps.exitCode⟩
    · rw [printing_report]
      exact ⟨rfl, rfl⟩
  | warning message category? suggestion? =>
    simp only [Call.make, warning]
    split_ifs
    · exact collect_keeps
    · rw [printing_report]
      exact ⟨rfl, rfl⟩
  | text message =>
    rw [Call.make, text, texts_report]
    exact ⟨rfl, rfl⟩
  | table title columns rows key? =>
    simp only [Call.make, table]
    split_ifs
    · exact setData_keeps
    · exact ⟨rfl, rfl⟩
  | setData key value => exact setData_keeps

/-- If no call breaks off, the exit code in the end is that of the last error. -/
theorem makeAll_keeps (unbroken : (makeAll r calls).failure? = none) :
    Keeps { r with exitCode := (calls.filterMap Call.exitCode?).getLast?.getD r.exitCode }
      (makeAll r calls).report := by
  induction calls generalizing r with
  | nil => exact ⟨rfl, rfl⟩
  | cons c calls ih =>
    cases broken : (c.make r).failure? with
    | some failure =>
      rw [makeAll, Said.andThen_of_failure broken, broken] at unbroken
      cases unbroken
    | none =>
      rw [makeAll, Said.andThen_failure? broken] at unbroken
      rw [makeAll, Said.andThen_report broken]
      obtain ⟨isJson, exitCode⟩ := ih unbroken
      obtain ⟨isJson', exitCode'⟩ := make_keeps r c
      refine ⟨isJson.trans isJson', exitCode.trans ?_⟩
      dsimp only at exitCode' ⊢
      rw [exitCode', List.filterMap_cons]
      cases c.exitCode? with
      | none => rfl
      | some code =>
        rw [List.getLast?_cons]
        rfl

/-! ### One call for a program -/

theorem insert_framed (free : key ∉ commonKeys) :
    (framed errors warnings members exitCode).setData key value =
      framed errors warnings (Json.insert key value members) exitCode := by
  have fresh : key ∉ ([("status", .str (statusOf errors)), ("errors", .arr errors),
      ("warnings", .arr warnings)] : List (String × Json)).map (·.1) := by
    simp only [commonKeys, List.mem_cons, not_or] at free
    simp [free]
  simp only [setData, framed, Json.insert_append_of_not_mem fresh]

theorem insertAll_framed (free : ∀ m ∈ data, m.1 ∉ commonKeys) :
    data.foldl (fun r d => r.setData d.1 d.2) (framed errors warnings members exitCode) =
      framed errors warnings (data.foldl (fun kept d => Json.insert d.1 d.2 kept) members)
        exitCode := by
  induction data generalizing members with
  | nil => rfl
  | cons d data ih =>
    obtain ⟨here, later⟩ := List.forall_mem_cons.mp free
    rw [List.foldl_cons, List.foldl_cons, insert_framed here, ih later]

theorem success_framed (message : String) (free : ∀ m ∈ data, m.1 ∉ commonKeys) :
    (framed errors warnings members exitCode).success message data =
      (framed errors warnings (data.foldl (fun kept d => Json.insert d.1 d.2 kept) members)
        exitCode).silent := by
  rw [← insertAll_framed free]
  rfl

theorem error_framed (message : String) (category? suggestion? : Option String) (code : Int) :
    (framed errors warnings members exitCode).error message category? suggestion? code =
      (framed (errors ++ [messageItem message category? suggestion?]) warnings members
        code).silent := by
  have status : statusOf (errors ++ [messageItem message category? suggestion?]) = "error" := by
    simp [statusOf]
  rw [framed, framed, status]
  rfl

theorem warning_framed (message : String) (category? suggestion? : Option String) :
    (framed errors warnings members exitCode).warning message category? suggestion? =
      (framed errors (warnings ++ [messageItem message category? suggestion?]) members
        exitCode).silent := by
  rfl

theorem table_framed (title : String) (columns : List String) (rows : List (List String))
    (key? : Option String) (free : tableKey title key? ∉ commonKeys) :
    (framed errors warnings members exitCode).table title columns rows key? =
      (framed errors warnings (Json.insert (tableKey title key?)
        (.arr (rows.map fun row => .obj (Json.ofPairs (columns.zip (row.map .str))))) members)
        exitCode).silent := by
  rw [← insert_framed free]
  rfl

/-- A call for a program is silent, and each part of the report takes what the call has for it. -/
theorem make_framed (free : c.Free) :
    c.make (framed errors warnings members exitCode) =
      (framed (errors ++ c.errorItem?.toList) (warnings ++ c.warningItem?.toList)
        (c.writes.foldl (fun kept d => Json.insert d.1 d.2 kept) members)
        (c.exitCode?.getD exitCode)).silent := by
  cases c with
  | success message data =>
    have unframed : ∀ m ∈ data, m.1 ∉ commonKeys := free
    rw [Call.make, success_framed message unframed]
    simp [Call.errorItem?, Call.warningItem?, Call.writes, Call.exitCode?]
  | error message category? suggestion? code =>
    rw [Call.make, error_framed]
    simp [Call.errorItem?, Call.warningItem?, Call.writes, Call.exitCode?]
  | warning message category? suggestion? =>
    rw [Call.make, warning_framed]
    simp [Call.errorItem?, Call.warningItem?, Call.writes, Call.exitCode?]
  | text message =>
    simp [Call.make, text, texts, framed, Call.errorItem?, Call.warningItem?, Call.writes,
      Call.exitCode?]
  | table title columns rows key? =>
    rw [Call.make, table_framed _ _ _ _ (free _ (List.mem_singleton_self _))]
    simp [Call.errorItem?, Call.warningItem?, Call.writes, Call.exitCode?]
  | setData key value =>
    rw [Call.make, insert_framed (free _ (List.mem_singleton_self _))]
    simp [Call.errorItem?, Call.warningItem?, Call.writes, Call.exitCode?]

/-- One more call leads from what is collected to what is collected then. -/
theorem make_collected (free : c.Free) :
    c.make (collected before) = (collected (before ++ [c])).silent := by
  have errors : errorItems (before ++ [c]) = errorItems before ++ c.errorItem?.toList := by
    cases item : c.errorItem? <;> simp [errorItems, item]
  have warnings : warningItems (before ++ [c]) = warningItems before ++ c.warningItem?.toList := by
    cases item : c.warningItem? <;> simp [warningItems, item]
  rw [collected, make_framed free, collected, errors, warnings, writesOf_concat,
    Json.ofPairs_append, lastCode_concat]

/-- Calls for a program are silent, none breaks off, and all that they say is collected. -/
theorem makeAll_collected (free : ∀ c ∈ calls, c.Free) :
    makeAll (collected before) calls = (collected (before ++ calls)).silent := by
  induction calls generalizing before with
  | nil => rw [makeAll, List.append_nil]
  | cons c calls ih =>
    obtain ⟨here, later⟩ := List.forall_mem_cons.mp free
    have rest : makeAll (collected (before ++ [c])) calls =
        (collected (before ++ [c] ++ calls)).silent := ih later
    rw [List.append_assoc, List.singleton_append] at rest
    rw [makeAll, make_collected here, Said.silent_andThen, rest]

theorem makeAll_start (free : ∀ c ∈ calls, c.Free) :
    makeAll (start true) calls = (collected calls).silent := by
  have none : makeAll (collected []) calls = (collected ([] ++ calls)).silent :=
    makeAll_collected free
  exact none

/-! ### The end -/

/-- The document of some calls. -/
def documentOf (calls : List Call) : List (String × Json) :=
  Json.insert "exit_code" (.int (lastCode calls)) (collected calls).data

theorem finish_reader (reader : r.isJson = false) : r.finish = r.silent := by
  rw [finish, if_neg (by simp [reader])]

/-- The report of some calls when it ends. -/
def ended (calls : List Call) : Report :=
  { collected calls with data := documentOf calls }

theorem finish_collected_eq : (collected calls).finish =
    if (Json.obj (documentOf calls)).render.complete then
      (ended calls).writing ((Json.obj (documentOf calls)).render.text ++ ['\n'])
    else ⟨ended calls, [], some .tooLong⟩ := by
  rfl

/-- A report for a program ends with its document, if that can be written. -/
theorem finish_collected (writable : Json.Writable (.obj (documentOf calls))) :
    (collected calls).finish =
      (ended calls).writing ((Json.obj (documentOf calls)).render.text ++ ['\n']) := by
  rw [finish_collected_eq, if_pos (Json.render_complete_iff.mpr writable)]

/-- A document that cannot be written is not printed at all. -/
theorem finish_collected_broken (unwritable : ¬ Json.Writable (.obj (documentOf calls))) :
    (collected calls).finish = ⟨ended calls, [], some .tooLong⟩ := by
  rw [finish_collected_eq, if_neg fun complete => unwritable (Json.render_complete_iff.mp complete)]

/-- The exit code stands behind all that was collected. -/
theorem documentOf_eq (free : ∀ c ∈ calls, c.Free) :
    documentOf calls = [("status", .str (statusOf (errorItems calls))),
      ("errors", .arr (errorItems calls)), ("warnings", .arr (warningItems calls))] ++
      Json.ofPairs (writesOf calls) ++ [("exit_code", .int (lastCode calls))] := by
  refine Json.insert_of_not_mem ?_
  rw [collected, framed, List.map_append, List.mem_append, Json.keys_ofPairs, List.mem_eraseDups]
  rintro (common | mem)
  · exact absurd common (by simp)
  · obtain ⟨m, mem, same⟩ := List.mem_map.mp mem
    obtain ⟨c, made, mem⟩ := List.mem_flatMap.mp mem
    exact free c made m mem (by rw [same]; decide)

/-- Beside the members that every document has stands what was written last. -/
theorem lookup?_documentOf (other : key ∉ commonKeys) :
    Json.lookup? key (documentOf calls) = Json.lookup? key (writesOf calls).reverse := by
  simp only [commonKeys, List.mem_cons, not_or, List.not_mem_nil, not_false_eq_true,
    and_true] at other
  obtain ⟨status, errors, warnings, code⟩ := other
  rw [documentOf, Json.lookup?_insert_of_ne code, ← Json.lookup?_ofPairs]
  simp only [collected, framed, List.cons_append, List.nil_append, Json.lookup?_cons,
    if_neg (Ne.symm status), if_neg (Ne.symm errors), if_neg (Ne.symm warnings)]

theorem messageItem_isPlain (message : String) (category? suggestion? : Option String) :
    Json.isPlain (some Decimal.limit) (messageItem message category? suggestion?) = true := by
  unfold messageItem
  cases category? <;> cases suggestion? <;> dsimp only <;> (repeat' split) <;>
    simp [Json.isPlain, Json.membersArePlain]

theorem writable_filterMap {item? : Call → Option Json}
    (worded : ∀ c item, item? c = some item → ∃ message category? suggestion?,
      messageItem message category? suggestion? = item) :
    Json.Writable (.arr (calls.filterMap item?)) := by
  refine .arr fun item mem => ?_
  obtain ⟨c, -, made⟩ := List.mem_filterMap.mp mem
  obtain ⟨message, category?, suggestion?, rfl⟩ := worded c item made
  exact Json.writable_of_isPlain (messageItem_isPlain message category? suggestion?)

/-- Messages can always be written, so only the exit code and what is kept of the other members
decide whether a document can. -/
theorem writable_documentOf (free : ∀ c ∈ calls, c.Free) :
    Json.Writable (.obj (documentOf calls)) ↔ Short calls := by
  have errors : Json.Writable (.arr (errorItems calls)) := by
    refine writable_filterMap fun c item made => ?_
    cases c <;> cases made
    exact ⟨_, _, _, rfl⟩
  have warnings : Json.Writable (.arr (warningItems calls)) := by
    refine writable_filterMap fun c item made => ?_
    cases c <;> cases made
    exact ⟨_, _, _, rfl⟩
  have common : ∀ m ∈ [("status", Json.str (statusOf (errorItems calls))),
      ("errors", .arr (errorItems calls)), ("warnings", .arr (warningItems calls))],
      Json.Writable m.2 := by
    simp [Json.Writable.str, errors, warnings]
  rw [documentOf_eq free, Json.writable_obj_iff, List.forall_mem_append, List.forall_mem_append,
    List.forall_mem_singleton, Json.forall_ofPairs_iff, Json.writable_int_iff]
  exact ⟨fun ⟨⟨_, kept⟩, code⟩ => ⟨code, kept⟩, fun short => ⟨⟨common, short.2⟩, short.1⟩⟩

/-- A warning leaves exit code and status as they are, whoever the report is for. -/
theorem warning_keeps (r : Report) (message : String) (category? suggestion? : Option String) :
    (r.warning message category? suggestion?).report.exitCode = r.exitCode ∧
      Json.lookup? "status" (r.warning message category? suggestion?).report.data =
        Json.lookup? "status" r.data := by
  refine ⟨(make_keeps r (.warning message category? suggestion?)).exitCode, ?_⟩
  unfold warning
  split_ifs
  · unfold collect
    split
    · exact Json.lookup?_insert_of_ne (by decide)
    · rfl
  · rw [printing_report]

theorem documents_documentOf (free : ∀ c ∈ calls, c.Free) :
    Documents calls (documentOf calls) := by
  have other {key : String} (differ : key ≠ "exit_code") :
      Json.lookup? key (documentOf calls) = Json.lookup? key (collected calls).data :=
    Json.lookup?_insert_of_ne differ
  refine ⟨?_, other (by decide), other (by decide), other (by decide), Json.lookup?_insert_self,
    fun key other => lookup?_documentOf other⟩
  rw [documentOf_eq free, ← Json.keys_ofPairs, List.map_append, List.map_append]
  rfl

/-- Calls that set no common member are collected. For a reader, a report that did not break off ends
without a word and with the exit code of the last error. For a program no call breaks off or prints
anything, and the report ends with the same exit code and prints one document that tells of all calls;
only an integer that is too long to be written keeps it from that. Warnings change neither exit code
nor status. -/
theorem finish_collects (free : ∀ c ∈ calls, c.Free) :
    ((makeAll (start false) calls).failure? = none → (endOf false calls).Ends (lastCode calls) "") ∧
    (makeAll (start true) calls).failure? = none ∧ (makeAll (start true) calls).printed = "" ∧
    (∃ members, Documents calls members ∧
      (Short calls → (endOf true calls).Ends (lastCode calls)
        (String.ofList ((Json.obj members).render.text ++ ['\n']))) ∧
      (Json.isPlain (some Decimal.limit) (.obj members) = true →
        Json.read (some Decimal.limit) (endOf true calls).printed.toList = .ok (.obj members)) ∧
      (¬ Short calls →
        (endOf true calls).failure? = some .tooLong ∧ (endOf true calls).printed = "")) ∧
    (∀ (r : Report) (message : String) (category? suggestion? : Option String),
      (r.warning message category? suggestion?).report.exitCode = r.exitCode ∧
      Json.lookup? "status" (r.warning message category? suggestion?).report.data =
        Json.lookup? "status" r.data) := by
  refine ⟨fun unbroken => ?_, ?_⟩
  · obtain ⟨reader, code⟩ := makeAll_keeps unbroken
    rw [endOf, finish_reader reader]
    exact ⟨rfl, code, rfl⟩
  rw [endOf, makeAll_start free, silent]
  refine ⟨rfl, rfl, ⟨documentOf calls, documents_documentOf free, fun short => ?_, fun plain => ?_,
    fun long => ?_⟩, warning_keeps⟩
  · rw [finish_collected ((writable_documentOf free).mpr short)]
    exact ⟨rfl, rfl, writing_printed ..⟩
  · rw [finish_collected (Json.writable_of_isPlain plain), writing_printed, String.toList_ofList]
    exact Json.read_render plain (by simp [Json.IsSpacing])
  · rw [finish_collected_broken fun writable => long ((writable_documentOf free).mp writable)]
    exact ⟨rfl, rfl⟩

end

/-- Calls of every kind, some of which set a member again. -/
def mixedCalls : List Call :=
  [.setData "a" (.int 1), .error "m" (some "c") none 3, .warning "w" none none, .text "t",
    .error "n" none (some "s") 4, .success "done" [("b", .bool true), ("a", .null)],
    .table "My Table" ["x", "y"] [["1", "2"]] none]

/-- The last error sets the exit code, and the member that was set again keeps its place. -/
theorem finish_collects_mixed :
    (endOf false mixedCalls).Ends 4 "" ∧
    ∃ members : List (String × Json),
      members.map (·.1) =
        ["status", "errors", "warnings", "a", "b", "my_table", "exit_code"] ∧
      Json.lookup? "a" members = some .null ∧
      (endOf true mixedCalls).Ends 4 (String.ofList ((Json.obj members).render.text ++ ['\n'])) := by
  have free : ∀ c ∈ mixedCalls, c.Free := by decide +kernel
  have unbroken : (makeAll (start false) mixedCalls).failure? = none := by decide +kernel
  have short : Short mixedCalls := by
    refine ⟨by decide +kernel, fun key value found => ?_⟩
    obtain ⟨m, mem, rfl⟩ := Json.exists_mem_of_lookup? found
    have all : ∀ m ∈ (writesOf mixedCalls).reverse,
        Json.isPlain (some Decimal.limit) m.2 = true := by decide +kernel
    exact Json.writable_of_isPlain (all m mem)
  obtain ⟨reader, -, -, ⟨members, tells, printed, -, -⟩, -⟩ := finish_collects free
  refine ⟨reader unbroken, members, tells.keys.trans (by decide +kernel), ?_, printed short⟩
  rw [tells.others "a" (by decide)]
  rfl

/-- A program may be told any integer. One that is too long leaves it without a document. -/
theorem finish_of_long {n : Int} (long : Decimal.fits n = false) :
    (∀ c ∈ [Call.setData "x" (.int n)], c.Free) ∧
    (makeAll (start true) [.setData "x" (.int n)]).failure? = none ∧
    (endOf true [.setData "x" (.int n)]).failure? = some .tooLong := by
  have free : ∀ c ∈ [Call.setData "x" (.int n)], c.Free := by
    simp [Call.Free, Call.writes, commonKeys]
  have unwritable : ¬ Json.Writable (.obj (documentOf [.setData "x" (.int n)])) := by
    rw [writable_documentOf free]
    intro short
    have fits : Decimal.fits n = true := Json.writable_int_iff.mp
      (short.values "x" (.int n) (by simp [writesOf, Call.writes, Json.lookup?]))
    rw [long] at fits
    cases fits
  rw [endOf, makeAll_start free, silent, finish_collected_broken unwritable]
  exact ⟨free, rfl, rfl⟩

/-- The smallest integer that is too long is taken when it is set, and the end breaks off. -/
theorem finish_loses :
    (∀ c ∈ [Call.setData "x" (.int (10 ^ Decimal.limit : Nat))], c.Free) ∧
    (makeAll (start true) [.setData "x" (.int (10 ^ Decimal.limit : Nat))]).failure? = none ∧
    (endOf true [.setData "x" (.int (10 ^ Decimal.limit : Nat))]).failure? = some .tooLong := by
  refine finish_of_long ?_
  generalize power : 10 ^ Decimal.limit = n
  simp [Decimal.fits, power]

end IndexScan.Report
