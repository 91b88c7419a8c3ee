import CompileCommands.BuildLog.Progress
import CompileCommands.Proofs.Command.Invocation
import CompileCommands.Proofs.Command.SourceName
import Mathlib.Data.List.Forall2

/-!
# What the commands of records say

Each record of a build log comes from one line, in which a compiler has been found and a source
file is named in the segment around it. The command is that segment up to its first chaining
operator. The operator is looked for in the whole segment, so it may stand ahead of the compiler,
or between the compiler and the source file. Then the command does not hold the compiler, or does
not name the source file. This file says exactly when it does.

## Main definitions

* `BuildLog.compilingLines`: the lines of a log that records come from.

## Main results

* `BuildLog.forall₂_invocations`: the records of a log, with the compilers and the source files that
  they come from.
* `BuildLog.command_holds_compiler_iff`: when a command holds the compiler of its line.
* `BuildLog.command_names_file_iff`: when a command names the source file of its record.
-/

namespace CompileCommands

open Text
open Chaining (IsChained front)

/-! ### Compilations -/

/-- A compilation comes from a compiler in its line, and from a source file in the segment around
the compiler. -/
theorem Compilation.exists_invocation {line : List Char} {compiled : Compilation}
    (h : Compilation.ofLine? line = some compiled) :
    ∃ invocation : Invocation line,
      SourceName.find? (segment invocation.place) = some compiled.file.toList ∧
      compiled.command.toList = unchain (segment invocation.place) := by
  simp only [Compilation.ofLine?, Option.bind_eq_bind, Option.bind_eq_some_iff,
    Option.some_inj] at h
  obtain ⟨place, hplace, file, hfile, rfl⟩ := h
  obtain ⟨invocation, rfl⟩ := Invocation.exists_of_find? hplace
  exact ⟨invocation, by simpa using hfile, by simp⟩

namespace BuildLog

/-! ### Lines and their records -/

/-- The line runs a compilation. -/
def Line.isCompilation : Line → Bool
  | .compilation _ => true
  | _ => false

/-- The lines of a log that run a compilation, without blank characters at their ends. -/
def compilingLines (log : List Char) : List (List Char) :=
  ((lines log).map trim).filter fun line => (Line.ofTrimmed line).isCompilation

private theorem forall₂_records_run (dirs : DirectoryStack) (texts : List (List Char)) :
    List.Forall₂
      (fun line record => Line.ofTrimmed line = .compilation ⟨record.file, record.command⟩)
      (texts.filter fun line => (Line.ofTrimmed line).isCompilation)
      (run dirs (texts.map Line.ofTrimmed)).records.toList := by
  induction texts generalizing dirs with
  | nil => exact .nil
  | cons line texts ih =>
    rw [List.map_cons, records_run_cons, List.filter_cons]
    have hrest := ih (dirs.after (Line.ofTrimmed line))
    cases hline : Line.ofTrimmed line with
    | compilation compiled =>
      rw [hline] at hrest
      exact .cons (by rw [hline]) hrest
    | announcement | other =>
      rw [hline] at hrest
      exact hrest

/-- The records of a log come from its compiling lines, one from each and in the same order. -/
theorem forall₂_records (log : List Char) :
    List.Forall₂
      (fun line record => Line.ofTrimmed line = .compilation ⟨record.file, record.command⟩)
      (compilingLines log) (records log) := by
  have h := forall₂_records_run {} ((lines log).map trim)
  rw [List.map_map] at h
  exact h

/-- The records of a log, with the compilers and the source files that they come from. -/
theorem forall₂_invocations (log : List Char) :
    List.Forall₂ (fun line record => ∃ invocation : Invocation line,
        SourceName.find? (segment invocation.place) = some record.file.toList ∧
        record.command.toList = unchain (segment invocation.place))
      (compilingLines log) (records log) := by
  refine (forall₂_records log).imp fun line record h => ?_
  rw [Line.ofTrimmed] at h
  split at h
  next => cases h
  next =>
    split at h
    next compiled hcompiled =>
      cases h
      exact Compilation.exists_invocation hcompiled
    next => cases h

/-! ### The compilers of commands -/

/-- **Commands and their compilers.** The command of a record is not empty and holds the compiler
that its line was recognised by exactly if no chaining operator stands ahead of the compiler in its
segment, or else what stands in front of that operator happens to hold the same name. The compiler
may be taken with or without its ending and its closing quote. In a line that is not quoted no
operator stands ahead of the compiler. -/
theorem command_holds_compiler_iff (log : List Char) :
    List.Forall₂ (fun line record => ∃ invocation : Invocation line,
        (∀ name ∈ [invocation.token.word.toList, invocation.token.text],
          (record.command ≠ "" ∧ name <:+: record.command.toList) ↔
            (¬ IsChained invocation.ahead ∨ name <:+: unchain invocation.ahead)) ∧
        (Segment.isQuoted invocation.place = false → ¬ IsChained invocation.ahead))
      (compilingLines log) (records log) := by
  refine (forall₂_invocations log).imp fun line record h => ?_
  obtain ⟨invocation, -, hcommand⟩ := h
  refine ⟨invocation, fun name hname => ?_, invocation.not_isChained_ahead⟩
  have hname : name ≠ [] ∧ name <:+: invocation.token.text := by
    rcases List.mem_pair.1 hname with rfl | rfl
    · exact ⟨CompilerToken.toList_word_ne_nil invocation.word_mem,
        invocation.token.isPrefix_text.isInfix⟩
    · exact ⟨invocation.plain_text.1, List.infix_refl _⟩
  have hnonempty : name <:+: record.command.toList → record.command ≠ "" := by
    intro hholds hempty
    rw [hempty] at hholds
    exact hname.1 (List.infix_nil.1 hholds)
  rw [and_iff_right_of_imp hnonempty, hcommand]
  by_cases hchained : IsChained invocation.ahead
  · rw [invocation.unchain_segment_of_isChained hchained]
    exact (or_iff_right (not_not_intro hchained)).symm
  · obtain ⟨more, heq⟩ := invocation.unchain_segment_of_not_isChained hchained
    have hholds : name <:+: unchain (segment invocation.place) := by
      rw [heq]
      exact hname.2.trans (List.infix_append _ _ _)
    exact iff_of_true hholds (.inl hchained)

/-- A quoted line that begins with an operator has a record without a command. -/
theorem command_empty_behind_operator :
    let log := "&& gcc -c \"a.c\"".toList
    compilingLines log = [log] ∧
      (∃ invocation : Invocation log, invocation.token = ⟨"gcc", false, false⟩) ∧
      records log = [⟨fallbackDirectory, "a.c", ""⟩] := by
  intro log
  have hplace : Compiler.find? log = some ⟨" &&".toList, "gcc -c \"a.c\"".toList⟩ := by decide
  refine ⟨by decide, ⟨⟨_, ⟨"gcc", false, false⟩, "&& ".toList, hplace, by decide, by decide⟩, rfl⟩,
    by decide⟩

/-! ### The source files of commands -/

/-- **Commands and their source files.** The file of a record is the first source file in the
segment around the compiler of its line. The command holds it, and names it first, exactly if some
source file is named in front of the first chaining operator of the segment. Otherwise the command
names no source file. -/
theorem command_names_file_iff (log : List Char) :
    List.Forall₂ (fun line record => ∃ invocation : Invocation line,
        SourceName.find? (segment invocation.place) = some record.file.toList ∧
        ((record.file.toList <:+: record.command.toList ∧
            SourceName.find? record.command.toList = some record.file.toList) ↔
          SourceName.find? (front (segment invocation.place)) ≠ none) ∧
        (SourceName.find? (front (segment invocation.place)) = none →
          SourceName.find? record.command.toList = none) ∧
        (¬ IsChained (segment invocation.place) →
          SourceName.find? (front (segment invocation.place)) ≠ none))
      (compilingLines log) (records log) := by
  refine (forall₂_invocations log).imp fun line record h => ?_
  obtain ⟨invocation, hfile, hcommand⟩ := h
  have hnamed : SourceName.find? record.command.toList =
      SourceName.find? (front (segment invocation.place)) := by
    rw [hcommand, SourceName.find?_unchain]
  refine ⟨invocation, hfile, ⟨fun ⟨_, hfound⟩ => ?_, fun hsome => ?_⟩, hnamed.trans,
    fun hchained => ?_⟩
  · rw [← hnamed, hfound]
    exact Option.some_ne_none _
  · have hfound := hnamed.trans ((SourceName.find?_front hfile).resolve_left hsome)
    exact ⟨SourceName.isInfix_of_find? hfound, hfound⟩
  · rw [Chaining.front_of_not_isChained hchained, hfile]
    exact Option.some_ne_none _

/-- A compiler that is run without a source file in front of a command with one has a record with
that file. -/
theorem file_named_behind_operator :
    let log := "gcc --version; ls a.c".toList
    records log = [⟨fallbackDirectory, "a.c", "gcc --version"⟩] ∧
      ¬ "a.c".toList <:+: "gcc --version".toList ∧
      SourceName.find? "gcc --version".toList = none := by
  decide

end BuildLog

end CompileCommands
