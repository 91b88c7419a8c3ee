import CompileCommands.Proofs.Directories.Attribution
import Mathlib.Data.List.Infix

/-!
# Sub-builds

A sub-build is a stretch of a build log that leaves exactly the directories it enters: no leave in
it goes further out than where the stretch began, and in the end all is left. Where a named
directory is in effect and all directories entered have names, a compilation inside never enters
the placeholder, so the announcements alone decide what is in effect. In the end the directories
are what they were, and the lines that follow cannot tell that the sub-build took place.

## Main definitions

* `Move.CoveredThroughout`: moves that leave only what they enter.
* `Move.IsSubBuild`: moves that leave exactly what they enter.
* `Move.innermost?`: the directory of the latest entry that is open before a place of a history.
* `DirectoryStack.StandsIn`: a stack whose innermost directory is in effect.
* `BuildLog.Line.announced`: the move that a line announces.
* `BuildLog.directoryWithin`: the directory of a compilation inside a sub-build.

## Main results

* `DirectoryStack.StandsIn.foldl_move`: the directory in effect where nothing is left that has not
  been entered.
* `BuildLog.foldl_after_eq_announced`: a placeholder is never entered inside a sub-build.
* `BuildLog.run_subBuild`: a sub-build is transparent.
-/

namespace CompileCommands

namespace Move

/-- The directory of the latest entry that is open before place `n`. -/
def innermost? (moves : List Move) (n : Nat) : Option String :=
  lastBelow? (IsOpen moves · n) n >>= entered? moves

/-- At no place of a history have more directories been left than entered. -/
def CoveredThroughout (moves : List Move) : Prop :=
  ∀ front, front <+: moves → Covered front

/-- Moves that leave exactly what they enter. -/
structure IsSubBuild (moves : List Move) : Prop where
  /-- Nothing is left that has not been entered. -/
  covered : CoveredThroughout moves
  /-- All that has been entered is left. -/
  isEven : moves.countP isLeave = moves.countP isEnter

theorem CoveredThroughout.of_append {moves later : List Move}
    (h : CoveredThroughout (moves ++ later)) : CoveredThroughout moves :=
  fun front hfront => h front (hfront.trans (List.prefix_append moves later))

private theorem CoveredThroughout.take {moves : List Move} (h : CoveredThroughout moves) (n : Nat) :
    CoveredThroughout (moves.take n) :=
  CoveredThroughout.of_append ((List.take_append_drop n moves).symm ▸ h)

/-- Where nothing is left that has not been entered, every leave matches an entry. -/
theorem unmatched_eq_zero {moves : List Move} (h : CoveredThroughout moves) :
    unmatched moves = 0 := by
  induction moves using List.reverseRecOn with
  | nil => rfl
  | append_singleton moves next ih =>
    cases next with
    | enter directory => rw [unmatched_enter, ih h.of_append]
    | leave =>
      -- the leave is covered, so some entry before it is open
      have hopen : openPlaces moves ≠ [] := by
        intro hnil
        have hle := countP_isEnter_le moves
        have hleave : Covered (moves ++ [.leave]) := h _ (List.prefix_refl _)
        rw [Covered, List.countP_append, List.countP_append] at hleave
        simp [hnil, isEnter, isLeave] at hle hleave
        omega
      rw [unmatched_leave, if_neg hopen, ih h.of_append]
    | stay => rw [unmatched_stay, ih h.of_append]

/-- After a sub-build no entry is open. -/
theorem IsSubBuild.openPlaces_eq_nil {moves : List Move} (h : IsSubBuild moves) :
    openPlaces moves = [] := by
  have hunmatched := unmatched_eq_zero h.covered
  have heven := h.isEven
  rw [unmatched] at hunmatched
  exact List.length_eq_zero_iff.1 (by omega)

/-- At the end of a history, the innermost directory is the one of the first of the open entries in
the order of `openPlaces`. -/
private theorem innermost?_length (moves : List Move) :
    innermost? moves moves.length = ((openPlaces moves).head? >>= entered? moves) := by
  rw [innermost?, openPlaces, List.head?_filter, lastBelow?]

/-- The innermost directory before a place is settled by the moves before it. -/
theorem innermost?_take {moves : List Move} {l n : Nat} (hl : l ≤ n) :
    innermost? (moves.take n) l = innermost? moves l := by
  rw [innermost?, lastBelow?_congr fun k hk => isOpen_take (Nat.lt_of_lt_of_le hk hl) hl,
    innermost?]
  cases h : lastBelow? (IsOpen moves · l) l with
  | none => rfl
  | some k => exact entered?_take (Nat.lt_of_lt_of_le (of_lastBelow? h).1 hl)

/-- The innermost directory has been entered. -/
theorem mem_of_innermost? {moves : List Move} {n : Nat} {directory : String}
    (h : innermost? moves n = some directory) : .enter directory ∈ moves := by
  obtain ⟨k, -, hentered⟩ := Option.bind_eq_some_iff.1 h
  obtain ⟨move, hmove, hdirectory⟩ := Option.bind_eq_some_iff.1 hentered
  have hmem := List.mem_of_getElem? hmove
  cases move <;> simp_all [directory?]

end Move

namespace DirectoryStack

open Move

/-- The innermost directory of the stack is the given one, and it is in effect. -/
structure StandsIn (dirs : DirectoryStack) (outer : String) : Prop where
  /-- The directory is the innermost one of the stack. -/
  head?_entered : dirs.entered.head? = some outer
  /-- The directory is the one entered or returned to last. -/
  latest_eq : dirs.latest = some outer

/-- Two stacks with the same directories agree if the innermost one is in effect in both. -/
theorem StandsIn.eq_of_entered {dirs others : DirectoryStack} {outer inner : String}
    (h : dirs.StandsIn outer) (hothers : others.StandsIn inner)
    (hentered : dirs.entered = others.entered) : dirs = others := by
  have hsame : outer = inner := Option.some_inj.1 (by
    rw [← h.head?_entered, hentered, hothers.head?_entered])
  have hlatest : dirs.latest = others.latest := by rw [h.latest_eq, hothers.latest_eq, hsame]
  obtain ⟨entered, latest⟩ := dirs
  exact congrArg₂ DirectoryStack.mk hentered hlatest

/-- Moves that leave only what they enter put their open entries on top of the stack. -/
theorem entered_foldl_move_of_covered (dirs : DirectoryStack) {moves : List Move}
    (h : CoveredThroughout moves) : (moves.foldl move dirs).entered.map some =
      (openPlaces moves).map (entered? moves) ++ dirs.entered.map some := by
  rw [entered_foldl_move, unmatched_eq_zero h, List.drop_zero]

/-- A move keeps the innermost directory of the stack in effect as long as there is one. -/
theorem latest_move_eq_head? {dirs : DirectoryStack} (h : dirs.latest = dirs.entered.head?)
    {next : Move} (hne : (dirs.move next).entered ≠ []) :
    (dirs.move next).latest = (dirs.move next).entered.head? := by
  cases next with
  | enter directory => rfl
  | leave =>
    rw [move, entered_leave] at hne
    rw [move, latest_leave, entered_leave]
    obtain ⟨outer, others, heq⟩ := List.exists_cons_of_ne_nil hne
    rw [heq]
    rfl
  | stay => exact h

/-- Where nothing is left that has not been entered, the innermost directory of the stack stays in
effect. -/
private theorem latest_foldl_move {dirs : DirectoryStack}
    (hlatest : dirs.latest = dirs.entered.head?)
    (hne : dirs.entered ≠ []) {moves : List Move} (h : CoveredThroughout moves) :
    (moves.foldl move dirs).latest = (moves.foldl move dirs).entered.head? := by
  induction moves using List.reverseRecOn with
  | nil => exact hlatest
  | append_singleton moves next ih =>
    have hentered : ((moves ++ [next]).foldl move dirs).entered ≠ [] := by
      have hmap := entered_foldl_move_of_covered dirs h
      intro hnil
      rw [hnil] at hmap
      exact hne (by simpa using (List.append_eq_nil_iff.1 hmap.symm).2)
    rw [List.foldl_append, List.foldl_cons, List.foldl_nil] at hentered ⊢
    exact latest_move_eq_head? (ih h.of_append) hentered

/-- Where nothing is left that has not been entered, the directory in effect is the innermost one
that has been entered and not left, or else the outer one. -/
theorem StandsIn.foldl_move {dirs : DirectoryStack} {outer : String} (hdirs : dirs.StandsIn outer)
    {moves : List Move} (h : CoveredThroughout moves) :
    (moves.foldl move dirs).StandsIn ((innermost? moves moves.length).getD outer) := by
  have hhead : (moves.foldl move dirs).entered.head? =
      some ((innermost? moves moves.length).getD outer) := by
    have hentered := congrArg List.head? (entered_foldl_move_of_covered dirs h)
    rw [List.head?_append, List.head?_map, List.head?_map, List.head?_map,
      hdirs.head?_entered] at hentered
    rw [innermost?_length]
    cases hopen : (openPlaces moves).head? with
    | none =>
      rw [hopen] at hentered
      simpa using hentered
    | some latest =>
      obtain ⟨directory, hdirectory⟩ := Option.isSome_iff_exists.1
        (mem_openPlaces.1 (List.mem_of_mem_head? hopen)).1
      rw [hopen] at hentered
      simpa [hdirectory] using hentered
  have hne : dirs.entered ≠ [] := fun hnil => by simpa [hnil] using hdirs.head?_entered
  have hlatest : dirs.latest = dirs.entered.head? := by rw [hdirs.latest_eq, hdirs.head?_entered]
  exact ⟨hhead, (latest_foldl_move hlatest hne h).trans hhead⟩

/-- A sub-build leaves the stack as it was. -/
theorem StandsIn.foldl_move_of_isSubBuild {dirs : DirectoryStack} {outer : String}
    (hdirs : dirs.StandsIn outer) {moves : List Move} (h : IsSubBuild moves) :
    moves.foldl move dirs = dirs := by
  have hentered := entered_foldl_move_of_covered dirs h.covered
  rw [h.openPlaces_eq_nil, List.map_nil, List.nil_append] at hentered
  exact (hdirs.foldl_move h.covered).eq_of_entered hdirs
    (List.map_injective_iff.2 (fun _ _ heq => Option.some_inj.1 heq) hentered)

end DirectoryStack

namespace BuildLog

open Text
open Move (CoveredThroughout IsSubBuild innermost?)

/-- The move that a line announces. -/
def Line.announced : Line → Move
  | .announcement (.enter directory) => .enter directory
  | .announcement .leave => .leave
  | _ => .stay

/-- The directory of a compilation in line `n` of a stretch of lines that begins in the outer
directory: the innermost one that is entered in the stretch and not left before the line. -/
def directoryWithin (outer : String) (lines : List Line) (n : Nat) : String :=
  (innermost? (lines.map Line.announced) n).getD outer

/-- The record of a line of such a stretch, given its number. -/
def recordWithin? (outer : String) (lines : List Line) : Line × Nat → Option Record
  | (.compilation compiled, n) =>
    some ⟨directoryWithin outer lines n, compiled.file, compiled.command⟩
  | _ => none

/-- While a named directory is in effect, a line does nothing but what it announces. -/
theorem move_of_named {directory : String} (h : directory ≠ "") (line : Line) :
    line.move (some directory) = line.announced := by
  match line with
  | .announcement (.enter _) => rfl
  | .announcement .leave => rfl
  | .compilation _ => simp [Line.move, Line.announced, h]
  | .other => rfl

/-- A line that announces that a directory is entered says so. -/
theorem eq_announcement_of_announced {line : Line} {directory : String}
    (h : line.announced = .enter directory) : line = .announcement (.enter directory) := by
  match line with
  | .announcement (.enter _) =>
    cases h
    rfl
  | .announcement .leave => cases h
  | .compilation _ => cases h
  | .other => cases h

section Within

variable {dirs : DirectoryStack} {outer : String} {lines : List Line}

/-- The directory of a compilation has a name if the outer one and all announced ones have. -/
theorem directoryWithin_ne_empty (houter : outer ≠ "")
    (hnamed : .announcement (.enter "") ∉ lines) (n : Nat) :
    directoryWithin outer lines n ≠ "" := by
  rw [directoryWithin]
  cases h : innermost? (lines.map Line.announced) n with
  | none => exact houter
  | some directory =>
    rintro rfl
    obtain ⟨line, hline, hannounced⟩ := List.mem_map.1 (Move.mem_of_innermost? h)
    exact hnamed (eq_announcement_of_announced hannounced ▸ hline)

private theorem standsIn_foldl_announced (hdirs : dirs.StandsIn outer)
    (h : CoveredThroughout (lines.map Line.announced)) :
    ((lines.map Line.announced).foldl DirectoryStack.move dirs).StandsIn
      (directoryWithin outer lines lines.length) := by
  have hstands := hdirs.foldl_move h
  rwa [List.length_map] at hstands

/-- The placeholder is never entered where a named directory is in effect from the beginning,
nothing is left that has not been entered, and all that is entered has a name. -/
theorem foldl_after_eq_announced (hdirs : dirs.StandsIn outer) (houter : outer ≠ "")
    (hnamed : .announcement (.enter "") ∉ lines)
    (h : CoveredThroughout (lines.map Line.announced)) :
    lines.foldl DirectoryStack.after dirs =
      (lines.map Line.announced).foldl DirectoryStack.move dirs := by
  induction lines using List.reverseRecOn with
  | nil => rfl
  | append_singleton lines line ih =>
    rw [List.map_append] at h
    have hbefore : .announcement (.enter "") ∉ lines := fun hmem =>
      hnamed (List.mem_append_left _ hmem)
    have hne := directoryWithin_ne_empty houter hbefore lines.length
    rw [List.foldl_append, List.foldl_cons, List.foldl_nil, ih hbefore h.of_append, after_eq_move,
      (standsIn_foldl_announced hdirs h.of_append).latest_eq, move_of_named hne, List.map_append,
      List.foldl_append]
    rfl

/-- A line yields the record with the innermost directory before it. -/
theorem record?_foldl_after_take (hdirs : dirs.StandsIn outer) (houter : outer ≠ "")
    (hnamed : .announcement (.enter "") ∉ lines)
    (h : CoveredThroughout (lines.map Line.announced)) (line : Line) {n : Nat}
    (hn : n ≤ lines.length) :
    ((lines.take n).foldl DirectoryStack.after dirs).record? line =
      recordWithin? outer lines (line, n) := by
  have hbefore : .announcement (.enter "") ∉ lines.take n := fun hmem =>
    hnamed (List.mem_of_mem_take hmem)
  have hcovered : CoveredThroughout ((lines.take n).map Line.announced) := by
    rw [List.map_take]
    exact h.take n
  have hsame : directoryWithin outer (lines.take n) (lines.take n).length =
      directoryWithin outer lines n := by
    rw [directoryWithin, List.length_take_of_le hn, List.map_take,
      Move.innermost?_take (Nat.le_refl n), directoryWithin]
  cases line with
  | compilation compiled =>
    have hne := directoryWithin_ne_empty houter hnamed n
    rw [foldl_after_eq_announced hdirs houter hbefore hcovered, DirectoryStack.record?,
      name_orEnter, (standsIn_foldl_announced hdirs hcovered).latest_eq, hsame]
    simp [recordWithin?, Option.filter_some, hne]
  | announcement | other => rfl

end Within

/-- **A sub-build is transparent.** It leaves the directories as they were, so that the lines behind
it do and yield what they would without it. Inside it each compilation has the innermost directory
that the sub-build has entered and not left before the line, or else the outer one. -/
theorem run_subBuild {dirs : DirectoryStack} {outer : String} (hdirs : dirs.StandsIn outer)
    (houter : outer ≠ "") {texts : List (List Char)}
    (hnamed : .announcement (.enter "") ∉ texts.map Line.ofText)
    (hsubBuild : IsSubBuild ((texts.map Line.ofText).map Line.announced)) :
    (run dirs (texts.map Line.ofText)).directories = dirs ∧
      (run dirs (texts.map Line.ofText)).records.toList =
        (texts.map Line.ofText).zipIdx.filterMap (recordWithin? outer (texts.map Line.ofText)) ∧
      ∀ later : List (List Char),
        (run dirs ((texts ++ later).map Line.ofText)).directories =
          (run dirs (later.map Line.ofText)).directories ∧
        (run dirs ((texts ++ later).map Line.ofText)).records.toList =
          (run dirs (texts.map Line.ofText)).records.toList ++
            (run dirs (later.map Line.ofText)).records.toList := by
  have hsame : (run dirs (texts.map Line.ofText)).directories = dirs := by
    rw [directories_run, foldl_after_eq_announced hdirs houter hnamed hsubBuild.covered,
      hdirs.foldl_move_of_isSubBuild hsubBuild]
  refine ⟨hsame, ?_, fun later => ⟨?_, ?_⟩⟩
  · rw [records_run_eq_filterMap_take]
    refine List.filterMap_congr fun place hplace => ?_
    have hlt : place.2 < (texts.map Line.ofText).length := by
      simpa using List.snd_lt_of_mem_zipIdx hplace
    exact record?_foldl_after_take hdirs houter hnamed hsubBuild.covered _ (Nat.le_of_lt hlt)
  · rw [List.map_append, directories_run_append, hsame]
  · rw [List.map_append, records_run_append, hsame]

/-- A directory entered, compiled in and left again below another one. -/
theorem run_subBuild_below_src :
    let dirs : DirectoryStack := ⟨["/src"], some "/src"⟩
    let texts := ["make[1]: Entering directory '/src/sub'".toList, "gcc -c sub.c".toList,
      "make[1]: Leaving directory '/src/sub'".toList, "gcc -c again.c".toList]
    dirs.StandsIn "/src" ∧ .announcement (.enter "") ∉ texts.map Line.ofText ∧
      IsSubBuild ((texts.map Line.ofText).map Line.announced) ∧
      (run dirs (texts.map Line.ofText)).directories = dirs ∧
      (run dirs (texts.map Line.ofText)).records.toList =
        [⟨"/src/sub", "sub.c", "gcc -c sub.c"⟩, ⟨"/src", "again.c", "gcc -c again.c"⟩] := by
  intro dirs texts
  have hstands : dirs.StandsIn "/src" := ⟨rfl, rfl⟩
  have hnamed : .announcement (.enter "") ∉ texts.map Line.ofText := by decide
  have hcovered : ∀ front ∈ ((texts.map Line.ofText).map Line.announced).inits,
      Move.Covered front := by decide
  have hsubBuild : IsSubBuild ((texts.map Line.ofText).map Line.announced) :=
    ⟨fun front hfront => hcovered front ((List.mem_inits _ _).2 hfront), by decide⟩
  obtain ⟨hsame, hrecords, -⟩ := run_subBuild hstands (by decide) hnamed hsubBuild
  exact ⟨hstands, hnamed, hsubBuild, hsame, hrecords.trans (by decide)⟩

end BuildLog

end CompileCommands
