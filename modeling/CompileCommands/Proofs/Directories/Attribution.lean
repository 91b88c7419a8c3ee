import CompileCommands.BuildLog.Progress
import CompileCommands.Proofs.Directories.Stack
import Mathlib.Data.List.Basic

/-!
# The directories of records

A build log is a history of moves: a line that announces a directory enters it or leaves the one
entered last, and a compilation for which no named directory is in effect enters the placeholder.
What a line does therefore depends on the directory in effect before it, which depends in turn on
what the lines before it have done. Each record of the log has the directory in effect before its
line, or the placeholder where that one is missing or has no name.

## Main definitions

* `BuildLog.said`: what the lines of a log say.
* `BuildLog.Line.move`: what a line does to the directories, given the one in effect before it.
* `BuildLog.moves`: what lines do one after the other.
* `BuildLog.directoryAt`: the directory of a compilation in a given line.

## Main results

* `BuildLog.foldl_after`: going through lines is going through their moves.
* `BuildLog.records_eq_filterMap_directoryAt`: the records of a log have the directories in effect
  before their lines, and these have been announced unless they are the placeholder.
-/

namespace CompileCommands.BuildLog

open Text
open Move (effective?)

/-- What the lines of a log say. -/
def said (log : List Char) : List Line :=
  (lines log).map Line.ofText

/-- What a line does to the directories, given the directory in effect before it. -/
def Line.move (before? : Option String) : Line → Move
  | .announcement (.enter directory) => .enter directory
  | .announcement .leave => .leave
  | .compilation _ =>
    if before? = none ∨ before? = some "" then .enter fallbackDirectory else .stay
  | .other => .stay

/-- What lines do one after the other, from the beginning of a log. -/
def moves (lines : List Line) : List Move :=
  lines.foldl (fun past line => past ++ [line.move (effective? past past.length)]) []

/-- The directory of a compilation in line `n`: the one in effect before the line if it has a name,
and otherwise the placeholder. -/
def directoryAt (lines : List Line) (n : Nat) : String :=
  ((effective? (moves lines) n).filter (· ≠ "")).getD fallbackDirectory

/-- The record of a line, given its number. -/
def recordAt? (lines : List Line) : Line × Nat → Option Record
  | (.compilation compiled, n) => some ⟨directoryAt lines n, compiled.file, compiled.command⟩
  | _ => none

/-! ### The moves of lines -/

theorem moves_concat (lines : List Line) (line : Line) :
    moves (lines ++ [line]) =
      moves lines ++ [line.move (effective? (moves lines) (moves lines).length)] := by
  rw [moves, List.foldl_append, List.foldl_cons, List.foldl_nil]
  rfl

@[simp] theorem length_moves (lines : List Line) : (moves lines).length = lines.length := by
  induction lines using List.reverseRecOn with
  | nil => rfl
  | append_singleton lines line ih => simp [moves_concat, ih]

/-- What is in effect up to a place does not depend on the lines from there on. -/
theorem effective?_moves_append {lines : List Line} {n : Nat} (h : n ≤ lines.length)
    (later : List Line) : effective? (moves (lines ++ later)) n = effective? (moves lines) n := by
  induction later using List.reverseRecOn with
  | nil => rw [List.append_nil]
  | append_singleton later line ih =>
    have hn : n ≤ (moves (lines ++ later)).length := by
      rw [length_moves, List.length_append]
      omega
    rw [← List.append_assoc, moves_concat, Move.effective?_append hn, ih]

/-- Each line does what it does in view of the directory in effect before it. -/
theorem getElem?_moves (lines : List Line) (n : Nat) :
    (moves lines)[n]? = lines[n]?.map (Line.move (effective? (moves lines) n)) := by
  induction lines using List.reverseRecOn with
  | nil => rfl
  | append_singleton lines line ih =>
    rcases Nat.lt_trichotomy n lines.length with hn | rfl | hn
    · rw [effective?_moves_append (Nat.le_of_lt hn), moves_concat,
        List.getElem?_append_left (by simpa using hn), List.getElem?_append_left hn, ih]
    · rw [effective?_moves_append (Nat.le_refl _), moves_concat, List.getElem?_concat_length,
        ← length_moves lines, List.getElem?_concat_length, Option.map_some]
    · rw [List.getElem?_eq_none (by simp; omega), List.getElem?_eq_none (by simp; omega),
        Option.map_none]

/-! ### Going through a log -/

private theorem orEnter_eq_move (dirs : DirectoryStack) (compiled : Compilation) :
    dirs.orEnter fallbackDirectory = dirs.move (Line.move dirs.latest (.compilation compiled)) := by
  obtain ⟨entered, latest⟩ := dirs
  cases latest with
  | none => rfl
  | some directory =>
    by_cases h : directory = "" <;>
      simp [DirectoryStack.orEnter, DirectoryStack.current?, DirectoryStack.move, Line.move, h]

/-- A line does to a stack what its move does. -/
theorem after_eq_move (dirs : DirectoryStack) (line : Line) :
    dirs.after line = dirs.move (line.move dirs.latest) := by
  match line with
  | .announcement (.enter directory) => rfl
  | .announcement .leave => rfl
  | .compilation compiled => exact orEnter_eq_move dirs compiled
  | .other => rfl

/-- Going through lines is going through their moves. -/
theorem foldl_after (lines : List Line) :
    lines.foldl DirectoryStack.after {} = DirectoryStack.ofMoves (moves lines) := by
  induction lines using List.reverseRecOn with
  | nil => rfl
  | append_singleton lines line ih =>
    rw [List.foldl_append, List.foldl_cons, List.foldl_nil, ih, after_eq_move, moves_concat,
      DirectoryStack.ofMoves_concat, DirectoryStack.latest_ofMoves]

/-- The name of the directory in effect once the placeholder has been entered if need be. -/
theorem name_orEnter (dirs : DirectoryStack) (fallback : String) :
    (dirs.orEnter fallback).name = (dirs.latest.filter (· ≠ "")).getD fallback := by
  obtain ⟨entered, latest⟩ := dirs
  cases latest with
  | none => rfl
  | some directory =>
    by_cases h : directory = "" <;>
      simp [DirectoryStack.orEnter, DirectoryStack.current?, DirectoryStack.name,
        DirectoryStack.enter, Option.filter_some, h]

private theorem recordAt?_append {lines : List Line} {place : Line × Nat}
    (h : place.2 ≤ lines.length)
    (later : List Line) : recordAt? (lines ++ later) place = recordAt? lines place := by
  obtain ⟨earlier, n⟩ := place
  cases earlier with
  | compilation compiled => simp only [recordAt?, directoryAt, effective?_moves_append h]
  | announcement | other => rfl

/-- A line yields the record with the directory in effect after the lines before it. -/
theorem record?_foldl_after (lines : List Line) (line : Line) :
    (lines.foldl DirectoryStack.after {}).record? line = recordAt? lines (line, lines.length) := by
  cases line with
  | compilation compiled =>
    rw [DirectoryStack.record?, name_orEnter, foldl_after, DirectoryStack.latest_ofMoves,
      length_moves]
    rfl
  | announcement | other => rfl

/-- Each line yields what it yields after the lines before it. -/
theorem records_run_eq_filterMap_take (dirs : DirectoryStack) (lines : List Line) :
    (run dirs lines).records.toList = lines.zipIdx.filterMap fun place =>
      ((lines.take place.2).foldl DirectoryStack.after dirs).record? place.1 := by
  induction lines using List.reverseRecOn with
  | nil => rfl
  | append_singleton lines line ih =>
    have hbefore : (lines.zipIdx.filterMap fun place =>
        (((lines ++ [line]).take place.2).foldl DirectoryStack.after dirs).record? place.1) =
          (run dirs lines).records.toList := by
      rw [ih]
      refine List.filterMap_congr fun place hplace => ?_
      have hlt : place.2 < lines.length := by simpa using List.snd_lt_of_mem_zipIdx hplace
      rw [List.take_append_of_le_length (Nat.le_of_lt hlt)]
    rw [records_run_append, records_run_cons, directories_run, List.zipIdx_append,
      List.filterMap_append, hbefore]
    simp only [List.zipIdx_singleton, List.filterMap_cons, List.filterMap_nil, Nat.zero_add,
      List.take_left', records_run_nil, List.append_nil]
    cases (lines.foldl DirectoryStack.after dirs).record? line <;> rfl

theorem records_run_eq_filterMap (lines : List Line) :
    (run {} lines).records.toList = lines.zipIdx.filterMap (recordAt? lines) := by
  rw [records_run_eq_filterMap_take]
  refine List.filterMap_congr fun place hplace => ?_
  have hlt : place.2 < lines.length := by simpa using List.snd_lt_of_mem_zipIdx hplace
  have hlength : (lines.take place.2).length = place.2 :=
    List.length_take_of_le (Nat.le_of_lt hlt)
  calc ((lines.take place.2).foldl DirectoryStack.after {}).record? place.1
      = recordAt? (lines.take place.2) place := by rw [record?_foldl_after, hlength]
    _ = recordAt? (lines.take place.2 ++ lines.drop place.2) place :=
        (recordAt?_append (Nat.le_of_eq hlength.symm) _).symm
    _ = recordAt? lines place := by rw [List.take_append_drop]

/-! ### Where directories come from -/

private theorem directoryAt_ne_empty (lines : List Line) (n : Nat) : directoryAt lines n ≠ "" := by
  rw [directoryAt]
  cases h : (effective? (moves lines) n).filter (· ≠ "") with
  | none => decide
  | some directory => exact of_decide_eq_true (Option.filter_eq_some_iff.1 h).2

/-- A line that enters a named directory other than the placeholder announces it. -/
private theorem eq_announcement_of_move {line : Line} {before? : Option String} {directory : String}
    (h : line.move before? = .enter directory) (hfallback : directory ≠ fallbackDirectory) :
    line = .announcement (.enter directory) := by
  match line with
  | .announcement (.enter announced) =>
    cases h
    rfl
  | .announcement .leave => cases h
  | .compilation _ =>
    rw [Line.move] at h
    split at h <;> cases h
    exact absurd rfl hfallback
  | .other => cases h

/-- A directory other than the placeholder is the one in effect. -/
theorem effective?_eq_directoryAt {lines : List Line} {n : Nat}
    (h : directoryAt lines n ≠ fallbackDirectory) :
    effective? (moves lines) n = some (directoryAt lines n) := by
  rw [directoryAt] at h ⊢
  cases hnamed : (effective? (moves lines) n).filter (· ≠ "") with
  | none =>
    rw [hnamed] at h
    exact absurd rfl h
  | some directory => exact (Option.filter_eq_some_iff.1 hnamed).1

/-- A directory other than the placeholder has been announced by an earlier line. -/
theorem directoryAt_eq_or_announced (lines : List Line) (n : Nat) :
    directoryAt lines n = fallbackDirectory ∨
      ∃ k < n, lines[k]? = some (.announcement (.enter (directoryAt lines n))) := by
  by_cases hfallback : directoryAt lines n = fallbackDirectory
  · exact .inl hfallback
  · obtain ⟨k, hk, hmove⟩ := Move.of_effective? (effective?_eq_directoryAt hfallback)
    rw [getElem?_moves] at hmove
    obtain ⟨line, hline, hmove⟩ := Option.map_eq_some_iff.1 hmove
    exact .inr ⟨k, hk, hline ▸ congrArg some (eq_announcement_of_move hmove hfallback)⟩

/-- **The directories of records.** The moves of a log are determined by the matching of entries
and leaves before each of them. Each compilation yields a record with the directory in effect
before its line. Such a directory has a name, and it is the placeholder or has been announced by an
earlier line. -/
theorem records_eq_filterMap_directoryAt (log : List Char) :
    (∀ n, (moves (said log))[n]? =
      (said log)[n]?.map (Line.move (effective? (moves (said log)) n))) ∧
    records log = (said log).zipIdx.filterMap (recordAt? (said log)) ∧
    ∀ n, directoryAt (said log) n ≠ "" ∧
      (directoryAt (said log) n = fallbackDirectory ∨
        ∃ k < n, (said log)[k]? = some (.announcement (.enter (directoryAt (said log) n)))) :=
  ⟨getElem?_moves (said log), records_run_eq_filterMap (said log), fun n =>
    ⟨directoryAt_ne_empty (said log) n, directoryAt_eq_or_announced (said log) n⟩⟩

end CompileCommands.BuildLog
