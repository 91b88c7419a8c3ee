import CompileCommands.Log.Event
import Mathlib.Data.List.Basic

/-!
# Lines of the log

An event of the log is one line: its level, what has happened, and the values that go with it. As
long as no text in it holds a control character, the line holds none either, and the texts stand in
it as they are. A filter that is made up from a level shows the events of this level and of those
that matter more, from every part of the program.

## Main definitions

* `Log.IsPlain`: a text without control characters.
* `Log.startLine`, `Log.countLine`, `Log.totalLine`: the lines of the log.

## Main results

* `Event.line_starting`, `Event.line_parsed`, `Event.line_wrote`: the lines of the events.
* `Log.isPlain_startLine`, `Log.isPlain_countLine`, `Log.isPlain_totalLine`: their characters.
* `Event.isShownBy_upTo`: the events that are shown at a level.
-/

namespace CompileCommands

namespace Log

/-- A control character: one below the space, or one from the delete character to U+009F. -/
def isControl (c : Char) : Bool :=
  c.toNat < 0x20 || (0x7f ≤ c.toNat && c.toNat ≤ 0x9f)

/-- A text without control characters. -/
def IsPlain (text : String) : Prop :=
  ∀ c ∈ text.toList, isControl c = false

instance (text : String) : Decidable (IsPlain text) :=
  List.decidableBAll (isControl · = false) text.toList

/-- The line on which a run tells its settings when it starts. -/
def startLine (place level : String) : String :=
  String.join ["DEBUG starting version=\"0.1.0\" settings=Settings \x7b output: ",
    if place = "-" then "Stdout" else String.join ["File(", quote place, ")"],
    ", log_level: ", quote level, " \x7d"]

/-- The line on which a run tells how many records a build log holds, given by its number. -/
def countLine (input records : Nat) : String :=
  String.join ["DEBUG parsed build output input=", toString input, " records=", toString records]

/-- The line on which a run tells where the database is and how many records it holds. -/
def totalLine (place : String) (records : Nat) : String :=
  String.join ["INFO wrote compilation database to ", if place = "-" then "<stdout>" else place,
    " records=", toString records]

/-! ### Plain texts -/

theorem isPlain_join {texts : List String} :
    IsPlain (String.join texts) ↔ ∀ text ∈ texts, IsPlain text := by
  simp only [IsPlain, String.toList_join, List.mem_flatMap]
  exact ⟨fun h text htext c hc => h c ⟨text, htext, hc⟩,
    fun h c ⟨text, htext, hc⟩ => h text htext c hc⟩

private theorem isPlain_append {first second : String} :
    IsPlain (first ++ second) ↔ IsPlain first ∧ IsPlain second := by
  simp only [IsPlain, String.toList_append, List.forall_mem_append]

private theorem isPlain_ofList {text : List Char} (h : ∀ c ∈ text, isControl c = false) :
    IsPlain (String.ofList text) := by
  rwa [IsPlain, String.toList_ofList]

/-- The digits of a number are not control characters. -/
theorem isControl_of_mem_toDigits {base : Nat} (hone : 1 < base) (hbase : base ≤ 16) {n : Nat}
    {c : Char} (h : c ∈ Nat.toDigits base n) : isControl c = false := by
  have hdigit : ∀ k < 16, isControl k.digitChar = false := by decide
  induction n using Nat.strongRecOn with
  | ind n ih =>
    rw [Nat.toDigits_eq_if hone] at h
    split at h
    next hlt =>
      rw [List.mem_singleton.1 h]
      exact hdigit n (Nat.lt_of_lt_of_le hlt hbase)
    next hle =>
      rcases List.mem_append.1 h with h | h
      · exact ih (n / base) (Nat.div_lt_self (by omega) hone) h
      · rw [List.mem_singleton.1 h]
        exact hdigit _ (Nat.lt_of_lt_of_le (Nat.mod_lt n (by omega)) hbase)

private theorem isPlain_toString (n : Nat) : IsPlain (toString n) := by
  rw [Nat.toString_eq_ofList_toDigits]
  exact isPlain_ofList fun c hc => isControl_of_mem_toDigits (by decide) (by decide) hc

/-- A character of a value is escaped without control characters. -/
private theorem isControl_of_mem_escape {c d : Char} (hc : isControl c = false)
    (hd : d ∈ escape c) : isControl d = false := by
  rw [escape.eq_def] at hd
  split at hd
  case h_7 =>
    split at hd
    next => rwa [List.mem_singleton.1 hd]
    next =>
      rcases List.mem_append.1 hd with hd | hd
      · rcases List.mem_append.1 hd with hd | hd
        · have hall : IsPlain "\\u\x7b" := by decide
          exact hall d hd
        · exact isControl_of_mem_toDigits (by decide) (by decide) hd
      · rw [List.mem_singleton.1 hd]
        decide
  all_goals
    simp only [List.mem_cons, List.not_mem_nil, or_false] at hd
    rcases hd with rfl | rfl <;> decide

/-- A value without control characters is quoted without any. -/
theorem isPlain_quote {text : String} (h : IsPlain text) : IsPlain (quote text) := by
  refine isPlain_ofList fun c hc => ?_
  rcases List.mem_append.1 hc with hc | hc
  · rcases List.mem_cons.1 hc with rfl | hc
    · decide
    · obtain ⟨d, hd, hc⟩ := List.mem_flatMap.1 hc
      exact isControl_of_mem_escape (h d hd) hc
  · rw [List.mem_singleton.1 hc]
    decide

/-- A text without control characters is not changed in a message. -/
theorem clean_of_isPlain {text : String} (h : IsPlain text) : clean text = text := by
  have hchar : ∀ c ∈ text.toList, cleanChar c = [c] := by
    intro c hc
    have hcontrol := h c hc
    have hterminal : ¬ isTerminalControl c = true := by
      intro hterminal
      simp only [isTerminalControl, Bool.or_eq_true, beq_iff_eq] at hterminal
      rcases hterminal with (((rfl | rfl) | rfl) | rfl) | rfl <;> cases hcontrol
    have hrange : ¬ (0x80 ≤ c.toNat ∧ c.toNat ≤ 0x9f) := by
      simp only [isControl, Bool.or_eq_false_iff, Bool.and_eq_false_iff,
        decide_eq_false_iff_not] at hcontrol
      omega
    rw [cleanChar, if_neg hterminal, if_neg hrange]
  rw [clean, List.flatMap_congr hchar, List.flatMap_singleton', String.ofList_toList]

/-! ### The lines -/

theorem isPlain_startLine {place level : String} (hplace : IsPlain place) (hlevel : IsPlain level) :
    IsPlain (startLine place level) := by
  have hfile :
      IsPlain (if place = "-" then "Stdout" else String.join ["File(", quote place, ")"]) := by
    split
    next => decide
    next =>
      simp only [isPlain_join, List.forall_mem_cons, isPlain_quote hplace]
      decide
  simp only [startLine, isPlain_join, List.forall_mem_cons, hfile, isPlain_quote hlevel]
  decide

theorem isPlain_countLine (input records : Nat) : IsPlain (countLine input records) := by
  simp only [countLine, isPlain_join, List.forall_mem_cons, isPlain_toString]
  decide

theorem isPlain_totalLine {place : String} (hplace : IsPlain place) (records : Nat) :
    IsPlain (totalLine place records) := by
  have hshown : IsPlain (if place = "-" then "<stdout>" else place) := by
    split
    next => decide
    next => exact hplace
  simp only [totalLine, isPlain_join, List.forall_mem_cons, hshown, isPlain_toString]
  decide

end Log

/-- The warning about a name is free of control characters if the name is. -/
theorem Level.isPlain_warning {name : String} (h : Log.IsPlain name) :
    Log.IsPlain (warning name) :=
  Log.isPlain_append.2 ⟨Log.isPlain_append.2 ⟨by decide, h⟩, by decide⟩

namespace Event

/-- The pieces of a value behind a message. -/
private theorem showValue_eq_join (value : String × String) :
    showValue value = String.join [" ", value.1, "=", value.2] := by
  show " " ++ value.1 ++ "=" ++ value.2 = _
  simp only [String.join_cons, String.join_nil, String.append_empty, String.append_assoc]

/-- The pieces of a line. -/
theorem line_eq_join (event : Event) :
    event.line = String.join ([event.level.display, " ", event.message] ++
      event.values.flatMap fun value => [" ", value.1, "=", value.2]) := by
  have hvalues (values : List (String × String)) : String.join (values.map showValue) =
      String.join (values.flatMap fun value => [" ", value.1, "=", value.2]) := by
    induction values with
    | nil => rfl
    | cons value values ih =>
      rw [List.map_cons, String.join_cons, ih, List.flatMap_cons, String.join_append,
        showValue_eq_join]
  rw [line, hvalues, String.join_append]
  simp only [String.join_cons, String.join_nil, String.append_empty, String.append_assoc]

/-- The line that says how many records a build log holds. -/
theorem line_parsed (input records : Nat) :
    (Event.parsed input records).line = Log.countLine input records := by
  have hfront : "DEBUG parsed build output input=" =
    String.join ["DEBUG", " ", "parsed build output", " ", "input", "="] := by decide
  have hmiddle : " records=" = String.join [" ", "records", "="] := by decide
  rw [line_eq_join, Log.countLine, hfront, hmiddle]
  show String.join ["DEBUG", " ", "parsed build output", " ", "input", "=", toString input,
    " ", "records", "=", toString records] = _
  simp only [String.join_cons, String.join_nil, String.append_empty, String.append_assoc]

/-- The line that says how a run starts. -/
theorem line_starting (place level : String) :
    (Event.starting ⟨.ofText place, level⟩).line = Log.startLine place level := by
  have hfront : "DEBUG starting version=\"0.1.0\" settings=Settings \x7b output: " =
    String.join ["DEBUG", " ", "starting", " ", "version", "=", Log.quote Program.version,
      " ", "settings", "=", "Settings \x7b output: "] := by decide
  have hplace : showDestination (.ofText place) =
      if place = "-" then "Stdout" else String.join ["File(", Log.quote place, ")"] := by
    rw [Destination.ofText, Destination.stdoutName]
    split
    next => rfl
    next =>
      show "File(" ++ Log.quote place ++ ")" = _
      simp only [String.join_cons, String.join_nil, String.append_empty, String.append_assoc]
  rw [line_eq_join, Log.startLine, hfront, ← hplace]
  show String.join ["DEBUG", " ", "starting", " ", "version", "=", Log.quote Program.version,
    " ", "settings", "=", "Settings \x7b output: " ++ showDestination (.ofText place) ++
      ", log_level: " ++ Log.quote level ++ " \x7d"] = _
  simp only [String.join_cons, String.join_nil, String.append_empty, String.append_assoc]

/-- The line that says where the database is. -/
theorem line_wrote (place : String) (records : Nat) (h : Log.IsPlain place) :
    (Event.wrote (.ofText place) records).line = Log.totalLine place records := by
  have hfront : "INFO wrote compilation database to " =
    String.join ["INFO", " ", "wrote compilation database to "] := by decide
  have hmiddle : " records=" = String.join [" ", "records", "="] := by decide
  have hplace : Log.clean (Destination.ofText place).display =
      if place = "-" then "<stdout>" else place := by
    rw [Destination.ofText, Destination.stdoutName]
    split
    next => decide
    next => exact Log.clean_of_isPlain h
  rw [line_eq_join, Log.totalLine, hfront, hmiddle, ← hplace]
  show String.join ["INFO", " ", "wrote compilation database to " ++
    Log.clean (Destination.ofText place).display, " ", "records", "=", toString records] = _
  simp only [String.join_cons, String.join_nil, String.append_empty, String.append_assoc]

/-- At a level those events are shown that matter as much or more. -/
theorem isShownBy_upTo (event : Event) (level : Level) :
    event.isShownBy (.upTo Program.name level) = decide (event.level.rank ≤ level.rank) := by
  have happlies : Filter.Rule.applies ⟨Program.name.toList, .always, level.rank⟩ event.target
      event.valueNames = true := by
    have htarget : event.target ∈ [Program.name, Program.name ++ "::util"] := by
      cases event with
      | starting | wrote => exact List.mem_cons_self
      | parsed => exact List.mem_cons_of_mem _ List.mem_cons_self
    have hall : ∀ target ∈ [Program.name, Program.name ++ "::util"],
        Program.name.toList.isPrefixOf target.toList = true := by decide
    rw [Filter.Rule.applies, Filter.Condition.holds.eq_def, Bool.and_true]
    exact hall _ htarget
  simp [isShownBy, Filter.shows, Filter.limit, Filter.upTo, happlies, Filter.decisive]

end Event

end CompileCommands
