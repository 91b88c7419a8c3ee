import CompileCommands.Proofs.Directories.Attribution

/-!
# The placeholder is entered once

A compilation for which no named directory is in effect enters the placeholder. From then on some
directory is in effect, and it has a name unless a directory without one has been announced: what a
leave puts in effect has been entered before, and a leave that empties the stack puts nothing in
effect. So the placeholder is entered only once as long as all announced directories have names.

Without any announced directory, a log takes the directories through three states only, and the
placeholder is all that is ever entered.

## Main definitions

* `DirectoryStack.EntersPlaceholder`: a line enters the placeholder.
* `DirectoryStack.AllNamed`: a stack on which every directory has a name.
* `DirectoryStack.PlaceholderOnly`: the states of a log without announced directories.

## Main results

* `DirectoryStack.AllNamed.foldl_after`: directories have names if all announced ones do.
* `DirectoryStack.PlaceholderOnly.foldl_after`: without announced directories, only the placeholder
  is entered.
* `BuildLog.placeholder_entered_once`: the placeholder is entered once.
-/

namespace CompileCommands

open BuildLog (Line)

namespace DirectoryStack

/-- A line yields a record and puts the placeholder on top of the stack. -/
structure EntersPlaceholder (dirs : DirectoryStack) (line : Line) : Prop where
  /-- The line yields a record. -/
  compiles : (dirs.record? line).isSome
  /-- The placeholder comes on top of the stack. -/
  entered_eq : (dirs.after line).entered = fallbackDirectory :: dirs.entered

/-- Every directory of a stack has a name, those that have been entered and the one in effect. -/
structure AllNamed (dirs : DirectoryStack) : Prop where
  /-- Those that have been entered have names. -/
  entered_ne : ∀ directory ∈ dirs.entered, directory ≠ ""
  /-- The one entered or returned to last has a name. -/
  latest_ne : ∀ directory ∈ dirs.latest, directory ≠ ""

/-- The states of a log without announced directories. -/
inductive PlaceholderOnly : DirectoryStack → Prop
  /-- Nothing has been entered. -/
  | untouched : PlaceholderOnly ⟨[], none⟩
  /-- The placeholder has been entered. -/
  | entered : PlaceholderOnly ⟨[fallbackDirectory], some fallbackDirectory⟩
  /-- The placeholder has been left, and stays in effect. -/
  | left : PlaceholderOnly ⟨[], some fallbackDirectory⟩

/-! ### Directories with names -/

private theorem AllNamed.enter {dirs : DirectoryStack} (h : dirs.AllNamed) {directory : String}
    (hname : directory ≠ "") : (dirs.enter directory).AllNamed := by
  constructor
  · intro other hother
    rcases List.mem_cons.1 hother with rfl | hother
    · exact hname
    · exact h.entered_ne other hother
  · rintro _ ⟨⟩
    exact hname

private theorem AllNamed.leave {dirs : DirectoryStack} (h : dirs.AllNamed) :
    dirs.leave.AllNamed := by
  constructor
  · intro directory hdirectory
    rw [entered_leave] at hdirectory
    exact h.entered_ne directory (List.mem_of_mem_tail hdirectory)
  · intro directory hdirectory
    rw [latest_leave, Option.mem_def, Option.or_eq_some_iff] at hdirectory
    rcases hdirectory with houter | ⟨-, hstale⟩
    · exact h.entered_ne directory (List.mem_of_mem_tail (List.mem_of_mem_head? houter))
    · exact h.latest_ne directory hstale

/-- A line keeps all directories named, unless it announces one without a name. -/
theorem AllNamed.after {dirs : DirectoryStack} (h : dirs.AllNamed) {line : Line}
    (hline : line ≠ .announcement (.enter "")) : (dirs.after line).AllNamed := by
  match line with
  | .announcement (.enter directory) =>
    exact h.enter fun hempty => hline (by rw [hempty])
  | .announcement .leave => exact h.leave
  | .compilation _ =>
    rw [DirectoryStack.after, orEnter]
    split
    · exact h
    · exact h.enter (by decide)
  | .other => exact h

/-- All directories have names as long as all announced ones do. -/
theorem AllNamed.foldl_after {dirs : DirectoryStack} (h : dirs.AllNamed) {lines : List Line}
    (hlines : .announcement (.enter "") ∉ lines) :
    (lines.foldl DirectoryStack.after dirs).AllNamed := by
  induction lines generalizing dirs with
  | nil => exact h
  | cons line lines ih =>
    rw [List.mem_cons, not_or] at hlines
    exact ih (h.after (Ne.symm hlines.1)) hlines.2

/-- Where all directories have names, the one entered or returned to last is in effect. -/
theorem AllNamed.current?_eq {dirs : DirectoryStack} (h : dirs.AllNamed) :
    dirs.current? = dirs.latest := by
  cases hlatest : dirs.latest with
  | none => rw [current?, hlatest, Option.filter_none]
  | some directory => exact current?_eq_some_iff.2 ⟨hlatest, h.latest_ne directory hlatest⟩

/-! ### A directory in effect -/

/-- Once a directory has been entered, some directory has been entered or returned to last. -/
theorem isSome_latest_after {dirs : DirectoryStack} (h : dirs.latest.isSome) (line : Line) :
    (dirs.after line).latest.isSome := by
  match line with
  | .announcement (.enter _) => rfl
  | .announcement .leave =>
    rw [DirectoryStack.after, apply, latest_leave, Option.isSome_or, h, Bool.or_true]
  | .compilation _ =>
    rw [DirectoryStack.after, orEnter]
    split
    · exact h
    · rfl
  | .other => exact h

private theorem isSome_latest_foldl_after {dirs : DirectoryStack} (h : dirs.latest.isSome)
    (lines : List Line) : (lines.foldl DirectoryStack.after dirs).latest.isSome := by
  induction lines generalizing dirs with
  | nil => exact h
  | cons line lines ih => exact ih (isSome_latest_after h line)

/-- The placeholder is entered exactly by a compilation for which no named directory is in
effect. -/
theorem entersPlaceholder_iff {dirs : DirectoryStack} {line : Line} :
    dirs.EntersPlaceholder line ↔
      (∃ compiled, line = .compilation compiled) ∧ dirs.current? = none := by
  constructor
  · rintro ⟨hcompiles, hentered⟩
    cases line with
    | compilation compiled =>
      refine ⟨⟨compiled, rfl⟩, ?_⟩
      rw [DirectoryStack.after, orEnter] at hentered
      split at hentered
      · exact absurd hentered.symm (List.cons_ne_self _ _)
      next hnone => simpa using hnone
    | announcement | other => cases hcompiles
  · rintro ⟨⟨compiled, rfl⟩, hnone⟩
    exact ⟨rfl, by rw [DirectoryStack.after, orEnter, hnone]; rfl⟩

private theorem EntersPlaceholder.isSome_latest {dirs : DirectoryStack} {line : Line}
    (h : dirs.EntersPlaceholder line) : (dirs.after line).latest.isSome := by
  obtain ⟨⟨compiled, rfl⟩, hnone⟩ := entersPlaceholder_iff.1 h
  rw [DirectoryStack.after, orEnter, hnone]
  rfl

/-- Where all directories have names and one has been entered, the placeholder is not. -/
theorem AllNamed.not_entersPlaceholder {dirs : DirectoryStack} (h : dirs.AllNamed)
    (hlatest : dirs.latest.isSome) (line : Line) : ¬ dirs.EntersPlaceholder line := by
  intro henters
  rw [← h.current?_eq, (entersPlaceholder_iff.1 henters).2] at hlatest
  cases hlatest

/-! ### Without announced directories -/

/-- Only an announcement enters a directory other than the placeholder. -/
theorem PlaceholderOnly.after {dirs : DirectoryStack} (h : dirs.PlaceholderOnly) {line : Line}
    (hline : ∀ directory, line ≠ .announcement (.enter directory)) :
    (dirs.after line).PlaceholderOnly := by
  match line with
  | .announcement (.enter directory) => exact absurd rfl (hline directory)
  | .announcement .leave =>
    cases h with
    | untouched => exact .untouched
    | entered | left => exact .left
  | .compilation _ =>
    cases h with
    | untouched | entered => exact .entered
    | left => exact .left
  | .other => exact h

/-- Without announced directories, only the placeholder is entered. -/
theorem PlaceholderOnly.foldl_after {dirs : DirectoryStack} (h : dirs.PlaceholderOnly)
    {lines : List Line} (hlines : ∀ directory, .announcement (.enter directory) ∉ lines) :
    (lines.foldl DirectoryStack.after dirs).PlaceholderOnly := by
  induction lines generalizing dirs with
  | nil => exact h
  | cons line lines ih =>
    refine ih (h.after fun directory hline => ?_) fun directory hmem => ?_
    · exact hlines directory (hline ▸ List.mem_cons_self)
    · exact hlines directory (List.mem_cons_of_mem line hmem)

private theorem PlaceholderOnly.depth_le {dirs : DirectoryStack} (h : dirs.PlaceholderOnly) :
    dirs.depth ≤ 1 := by
  cases h <;> decide

end DirectoryStack

namespace BuildLog

open DirectoryStack (AllNamed PlaceholderOnly)

/-- Line `n` of a log enters the placeholder. -/
def EntersPlaceholderAt (log : List Char) (n : Nat) : Prop :=
  ∃ line, (said log)[n]? = some line ∧
    (run {} ((said log).take n)).directories.EntersPlaceholder line

/-- Before the later of two lines that enter the placeholder, a directory without a name has been
announced. -/
private theorem exists_unnamed_of_entersPlaceholderAt {log : List Char} {j k : Nat} (hjk : j < k)
    (hj : EntersPlaceholderAt log j) (hk : EntersPlaceholderAt log k) :
    ∃ i < k, (said log)[i]? = some (.announcement (.enter "")) := by
  obtain ⟨first, hfirst, hfirstEnters⟩ := hj
  obtain ⟨second, hsecond, hsecondEnters⟩ := hk
  rw [directories_run] at hfirstEnters hsecondEnters
  have hmem : .announcement (.enter "") ∈ (said log).take k := by
    by_contra hnamed
    have hall : (((said log).take k).foldl DirectoryStack.after {}).AllNamed :=
      AllNamed.foldl_after ⟨by simp, by simp⟩ hnamed
    -- the lines before line `k` are those before line `j`, line `j`, and those behind it
    have hsplit : (said log).take k =
        (said log).take j ++ first :: ((said log).take k).drop (j + 1) := by
      have hget : ((said log).take k)[j]? = some first := by
        rw [List.getElem?_take_of_lt hjk, hfirst]
      obtain ⟨hlt, heq⟩ := List.getElem?_eq_some_iff.1 hget
      have htake : ((said log).take k).take j = (said log).take j := by
        rw [List.take_take, Nat.min_eq_left (Nat.le_of_lt hjk)]
      rw [← htake, ← heq, ← List.drop_eq_getElem_cons hlt, List.take_append_drop]
    refine hall.not_entersPlaceholder ?_ second hsecondEnters
    rw [hsplit, List.foldl_append, List.foldl_cons]
    exact DirectoryStack.isSome_latest_foldl_after hfirstEnters.isSome_latest _
  obtain ⟨i, hi⟩ := List.mem_iff_getElem?.1 hmem
  have hik : i < k := by
    have hlt := (List.getElem?_eq_some_iff.1 hi).1
    rw [List.length_take] at hlt
    omega
  exact ⟨i, hik, by rwa [List.getElem?_take_of_lt hik] at hi⟩

/-- Without announced directories, every compilation is in the placeholder. -/
theorem directory_eq_of_no_enter {log : List Char}
    (h : ∀ directory, .announcement (.enter directory) ∉ said log) :
    ∀ record ∈ records log, record.directory = fallbackDirectory := by
  intro record hrecord
  rw [records, ← said, records_run_eq_filterMap] at hrecord
  obtain ⟨⟨line, n⟩, -, hrecordAt⟩ := List.mem_filterMap.1 hrecord
  cases line with
  | compilation compiled =>
    cases hrecordAt
    rcases directoryAt_eq_or_announced (said log) n with hfallback | ⟨k, -, hk⟩
    · exact hfallback
    · exact absurd (List.mem_of_getElem? hk) (h _)
  | announcement | other => cases hrecordAt

/-- **The placeholder is entered once.** If two lines of a log enter it, a directory without a name
has been announced before the later one. If no directory is announced at all, every record has the
placeholder, and never more than one directory has been entered and not left. -/
theorem placeholder_entered_once (log : List Char) :
    (∀ j k, j < k → EntersPlaceholderAt log j → EntersPlaceholderAt log k →
      ∃ i < k, (said log)[i]? = some (.announcement (.enter ""))) ∧
    ((∀ directory, .announcement (.enter directory) ∉ said log) →
      (∀ record ∈ records log, record.directory = fallbackDirectory) ∧
      ∀ n, (run {} ((said log).take n)).directories.depth ≤ 1) := by
  refine ⟨fun j k hjk hj hk => exists_unnamed_of_entersPlaceholderAt hjk hj hk, fun hnone => ?_⟩
  refine ⟨directory_eq_of_no_enter hnone, fun n => ?_⟩
  have honly : (((said log).take n).foldl DirectoryStack.after {}).PlaceholderOnly :=
    PlaceholderOnly.foldl_after .untouched fun directory hmem =>
      hnone directory (List.mem_of_mem_take hmem)
  rw [directories_run]
  exact honly.depth_le

/-- The placeholder is entered twice where a directory without a name is returned to. -/
theorem placeholder_entered_above_unnamed :
    let log := ("make: Entering directory ''\ngcc -c a.c\nmake: Leaving directory ''\n" ++
      "gcc -c b.c").toList
    EntersPlaceholderAt log 1 ∧ EntersPlaceholderAt log 3 ∧
      ∃ i < 3, (said log)[i]? = some (.announcement (.enter "")) := by
  intro log
  have hfirst : EntersPlaceholderAt log 1 :=
    ⟨.compilation ⟨"a.c", "gcc -c a.c"⟩, by decide, by decide, by decide⟩
  have hsecond : EntersPlaceholderAt log 3 :=
    ⟨.compilation ⟨"b.c", "gcc -c b.c"⟩, by decide, by decide, by decide⟩
  exact ⟨hfirst, hsecond,
    (placeholder_entered_once log).1 1 3 (by decide) hfirst hsecond⟩

end BuildLog

end CompileCommands
