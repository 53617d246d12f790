import IndexScan.Command.Outcome

/-!
Describing modes: what a directive denotes, as a document and as a table.
-/

namespace IndexScan.Command

/-- A mode as a document. -/
def modeDocument (m : Mode) : Json :=
  .obj [("directive", .str m.directive), ("kind", .str m.kind.word), ("count", .int m.count),
    ("range", .arr [.int 0, .int m.count]), ("is_while", .bool m.isSingle),
    ("is_random", .bool m.isRandom)]

/-- The properties of a mode, each with its name. -/
def modeRows (m : Mode) : List (List String) :=
  [["kind", m.kind.word],
   ["count", Decimal.text m.count],
   ["range", "[0, " ++ Decimal.text m.count ++ ")"],
   ["random", if m.isRandom then "yes" else "no"]]

/-- Says that a directive is faulty. -/
def reportFault (r : Report) (e : DirectiveError) : Report.Said :=
  r.directiveFault e.category e.message

/-- Warns of a mode that probes nothing. -/
def warnIfEmpty (m : Mode) (r : Report) : Report.Said :=
  if m.count = 0 then
    r.warning "Count is 0: this mode scans no indices" (some "zero_count")
      (some "Use first<N> or random<N> with N > 0 to probe indices")
  else r.silent

/-- Says what a directive denotes. -/
def sayMode (directive : String) (r : Report) : Report.Said :=
  match Directive.parse directive with
  | .error e => reportFault r e
  | .ok m =>
    let said := r.success ("Valid directive: " ++ m.directive) [("mode", modeDocument m)]
    let said := said.andThen fun r =>
      r.table "Resolver Mode" ["Property", "Value"] (modeRows m) (some "properties")
    said.andThen (warnIfEmpty m)

/-- Describes the mode that a directive denotes. -/
def describe (isJson : Bool) (directive : String) : Outcome :=
  .ofReport (sayMode directive (.start isJson))

end IndexScan.Command
