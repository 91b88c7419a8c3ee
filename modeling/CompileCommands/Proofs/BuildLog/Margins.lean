import CompileCommands.BuildLog.Merge
import CompileCommands.Proofs.BuildLog.Streaming
import CompileCommands.Proofs.Text.Trimming

/-!
# Blank margins of build logs

Blank characters around a line make no difference to what it says, and a blank line says nothing.
So a build log has the same records with and without the blank characters around it, although
these may begin or end lines of their own. Several logs make up the records of each of them, and
those of two lists of logs in a row are those of one followed by those of the other.

## Main results

* `BuildLog.feed_append_of_isBlank`, `BuildLog.feed_of_isBlank_append`: the margins of a line.
* `BuildLog.records_trim`: the margins of a log.
* `BuildLog.ofLogs?_eq_flatMap_records`: the database that logs make up.
-/

namespace CompileCommands.BuildLog

open Text

/-! ### The margins of a line -/

private theorem isBlank_withoutReturns {margin : List Char} (h : ∀ c ∈ margin, isBlank c = true) :
    ∀ c ∈ withoutReturns margin, isBlank c = true :=
  fun c hc => h c (List.mem_filter.1 hc).1

/-- A margin in front of a line makes no difference to what it says. -/
theorem feed_of_isBlank_append {front : List Char} (h : ∀ c ∈ front, isBlank c = true)
    (line : List Char) : feed (front ++ line) = feed line := by
  rw [feed, feed, Line.ofText, Line.ofText, withoutReturns_append,
    trim_of_isBlank_append (isBlank_withoutReturns h)]

/-- A margin behind a line makes no difference to what it says. -/
theorem feed_append_of_isBlank {back : List Char} (h : ∀ c ∈ back, isBlank c = true)
    (line : List Char) : feed (line ++ back) = feed line := by
  rw [feed, feed, Line.ofText, Line.ofText, withoutReturns_append,
    trim_append_of_isBlank (isBlank_withoutReturns h)]

/-! ### The margins of a log -/

private theorem records_cons_of_isBlank {c : Char} (h : isBlank c = true) (log : List Char) :
    records (c :: log) = records log := by
  rw [records_eq_run_feed, records_eq_run_feed, List.splitOn_cons_eq_if_modifyHead]
  split
  next =>
    -- the line that the line feed closes is empty
    rw [List.map_cons, feed_nil, records_run_cons]
    rfl
  next =>
    have hblank : ∀ other ∈ [c], isBlank other = true := by
      intro other hother
      rwa [List.mem_singleton.1 hother]
    cases log.splitOn '\n' with
    | nil => rfl
    | cons first rest =>
      rw [List.modifyHead_cons, List.map_cons, List.map_cons]
      rw [← feed_of_isBlank_append hblank first]
      rfl

/-- A margin in front of a log makes no difference to its records. -/
theorem records_of_isBlank_append {front : List Char} (h : ∀ c ∈ front, isBlank c = true)
    (log : List Char) : records (front ++ log) = records log := by
  induction front with
  | nil => rfl
  | cons c front ih =>
    rw [List.cons_append, records_cons_of_isBlank (h c List.mem_cons_self)]
    exact ih fun other hother => h other (List.mem_cons_of_mem c hother)

private theorem records_concat_of_isBlank {c : Char} (h : isBlank c = true) (log : List Char) :
    records (log ++ [c]) = records log := by
  rw [records_eq_run_feed, records_eq_run_feed]
  by_cases hfeed : c = '\n'
  · subst hfeed
    rw [List.splitOn_append_cons_self]
    exact Option.some_inj.1 (congrArg Reading.records? (reading_run_append_nil {} _))
  · obtain ⟨pieces, last, heq, hback⟩ := exists_splitOn_append '\n' log
    have hnotMem : '\n' ∉ [c] := fun hmem => hfeed (List.mem_singleton.1 hmem).symm
    have hblank : ∀ other ∈ [c], isBlank other = true := by
      intro other hother
      rwa [List.mem_singleton.1 hother]
    rw [heq, hback [c] hnotMem, List.map_append, List.map_append, List.map_singleton,
      List.map_singleton, feed_append_of_isBlank hblank]

/-- A margin behind a log makes no difference to its records. -/
theorem records_append_of_isBlank {back : List Char} (h : ∀ c ∈ back, isBlank c = true)
    (log : List Char) : records (log ++ back) = records log := by
  induction back generalizing log with
  | nil => rw [List.append_nil]
  | cons c back ih =>
    rw [List.append_cons, ih fun other hother => h other (List.mem_cons_of_mem c hother)]
    exact records_concat_of_isBlank (h c List.mem_cons_self) log

/-- A log has the records of its trimmed form. -/
theorem records_trim (log : List Char) : records (trim log) = records log := by
  obtain ⟨front, back, hfront, hback, heq⟩ := exists_margins log
  calc records (trim log)
      = records (trim log ++ back) := (records_append_of_isBlank hback _).symm
    _ = records (front ++ (trim log ++ back)) := (records_of_isBlank_append hfront _).symm
    _ = records log := by rw [← List.append_assoc, ← heq]

/-! ### The database that logs make up -/

/-- A blank log has no records. -/
theorem records_of_isBlank {log : List Char} (h : ∀ c ∈ log, isBlank c = true) :
    records log = [] := by
  rw [← List.append_nil log, records_of_isBlank_append h]
  rfl

private theorem flatMap_records_of_all_isAllBlank {logs : List (List Char)}
    (h : logs.all isAllBlank = true) : logs.flatMap records = [] :=
  List.flatMap_eq_nil_iff.2 fun log hlog =>
    records_of_isBlank (List.all_eq_true.1 (List.all_eq_true.1 h log hlog))

/-- Logs make up a database of the records of each of them, in order, unless all are blank. -/
theorem ofLogs?_eq_ite (logs : List (List Char)) :
    Database.ofLogs? logs =
      if logs.all isAllBlank then none else some ⟨logs.flatMap records⟩ := by
  have htrim : (fun log => records (trim log)) = records := by
    funext log
    exact records_trim log
  rw [Database.ofLogs?, recordsByLog?, htrim]
  split
  next => rfl
  next => rfl

/-- The database that logs make up holds the records of each log, in order. -/
theorem eq_flatMap_records_of_ofLogs? {logs : List (List Char)} {database : Database}
    (h : Database.ofLogs? logs = some database) : database = ⟨logs.flatMap records⟩ := by
  rw [ofLogs?_eq_ite] at h
  split at h
  next => cases h
  next => exact (Option.some.inj h).symm

theorem ofParts_recordsByLog? {logs : List (List Char)} {parts : List (List Record)}
    (h : recordsByLog? logs = some parts) : Database.ofParts parts = ⟨logs.flatMap records⟩ :=
  eq_flatMap_records_of_ofLogs? (by rw [Database.ofLogs?, h, Option.map_some])

/-- Two lists of logs in a row make up the records of the first followed by those of the second. If
all logs of one are blank, they make up what the other does. -/
theorem ofLogs?_append (first second : List (List Char)) :
    Database.ofLogs? (first ++ second) =
      Option.merge (fun a b => ⟨a.records ++ b.records⟩)
        (Database.ofLogs? first) (Database.ofLogs? second) := by
  rw [ofLogs?_eq_ite, ofLogs?_eq_ite, ofLogs?_eq_ite, List.all_append, List.flatMap_append]
  cases hfirst : first.all isAllBlank with
  | true => simp [flatMap_records_of_all_isAllBlank hfirst]
  | false =>
    cases hsecond : second.all isAllBlank with
    | true => simp [flatMap_records_of_all_isAllBlank hsecond]
    | false => rfl

/-- **The database that logs make up.** Several logs make up no database exactly if all are blank.
Otherwise the database holds the records of each log, in order. Blank characters around a log make
no difference to its records, and a blank log has none. No log has an influence on another one: two
lists of logs in a row make up the records of both. -/
theorem ofLogs?_eq_flatMap_records :
    (∀ logs, Database.ofLogs? logs = none ↔ ∀ log ∈ logs, ∀ c ∈ log, isBlank c = true) ∧
    (∀ logs database, Database.ofLogs? logs = some database →
      database = ⟨logs.flatMap records⟩) ∧
    (∀ log, records (trim log) = records log) ∧
    (∀ log, isAllBlank log = true → records log = []) ∧
    ∀ first second, Database.ofLogs? (first ++ second) =
      Option.merge (fun a b => ⟨a.records ++ b.records⟩)
        (Database.ofLogs? first) (Database.ofLogs? second) :=
  ⟨fun _ => Database.ofLogs?_eq_none_iff, fun _ _ => eq_flatMap_records_of_ofLogs?, records_trim,
    fun _ hblank => records_of_isBlank (List.all_eq_true.1 hblank), ofLogs?_append⟩

end CompileCommands.BuildLog
