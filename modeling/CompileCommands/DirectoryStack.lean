import CompileCommands.Announcement

/-!
# The directories a build works in

A recursive build enters and leaves directories in a nested manner. The stack holds the directories
that have been entered and not left, and beside them the directory in effect. The two may part
company: leaving the outermost directory empties the stack and leaves that directory in effect,
since a build tool whose last announcement has been lost is likelier to be where it was than
nowhere. An announced directory without a name is entered like any other, but is never in effect.

## Main definitions

* `DirectoryStack`: the entered directories and the directory in effect.
* `DirectoryStack.enter`, `DirectoryStack.leave`, `DirectoryStack.apply`: what an announcement does.
* `DirectoryStack.current?`: the directory in effect.
* `DirectoryStack.orEnter`: a stack on which some directory is in effect.

## Main results

* `DirectoryStack.entered_leave`: leaving takes the innermost directory off the stack.
* `DirectoryStack.orEnter_orEnter`: a directory once in effect stays in effect.
-/

namespace CompileCommands

/-- The directories that have been entered and not left, and the directory in effect. -/
structure DirectoryStack where
  /-- The directories that have been entered and not left, the innermost first. -/
  entered : List String := []
  /-- The directory entered or returned to last, if there was one. -/
  latest : Option String := none
  deriving DecidableEq, Repr

namespace DirectoryStack

/-- The number of directories that have been entered and not left. -/
def depth (dirs : DirectoryStack) : Nat :=
  dirs.entered.length

/-- Entering a directory puts it in effect. -/
def enter (dirs : DirectoryStack) (directory : String) : DirectoryStack :=
  ⟨directory :: dirs.entered, some directory⟩

/-- Leaving a directory puts the enclosing one in effect. Without an enclosing directory the one in
effect stays. -/
def leave (dirs : DirectoryStack) : DirectoryStack :=
  match dirs.entered.tail with
  | [] => ⟨[], dirs.latest⟩
  | outer :: others => ⟨outer :: others, some outer⟩

/-- What an announcement does. -/
def apply (dirs : DirectoryStack) : Announcement → DirectoryStack
  | .enter directory => dirs.enter directory
  | .leave => dirs.leave

/-- The directory in effect. A directory without a name is none. -/
def current? (dirs : DirectoryStack) : Option String :=
  dirs.latest.filter (· ≠ "")

/-- The name of the directory entered or returned to last, empty if there was none. -/
def name (dirs : DirectoryStack) : String :=
  dirs.latest.getD ""

/-- The directories after the fallback has been entered, unless some directory is in effect. -/
def orEnter (dirs : DirectoryStack) (fallback : String) : DirectoryStack :=
  if dirs.current?.isSome then dirs else dirs.enter fallback

@[simp] theorem entered_enter (dirs : DirectoryStack) (directory : String) :
    (dirs.enter directory).entered = directory :: dirs.entered := rfl

@[simp] theorem latest_enter (dirs : DirectoryStack) (directory : String) :
    (dirs.enter directory).latest = some directory := rfl

/-- Leaving takes the innermost directory off the stack. -/
@[simp] theorem entered_leave (dirs : DirectoryStack) : dirs.leave.entered = dirs.entered.tail := by
  unfold leave
  split <;> simp_all

/-- After a directory has been left, the enclosing one is in effect, or the same one as before. -/
theorem latest_leave (dirs : DirectoryStack) :
    dirs.leave.latest = dirs.entered.tail.head?.or dirs.latest := by
  unfold leave
  split <;> simp_all

/-- Leaving the directory just entered returns to the enclosing one. -/
theorem leave_enter {dirs : DirectoryStack} {outer : String}
    (h : dirs.entered.head? = some outer) (hlatest : dirs.latest = some outer)
    (directory : String) : (dirs.enter directory).leave = dirs := by
  obtain ⟨_ | ⟨head, others⟩, latest⟩ := dirs <;> simp_all [enter, leave]

/-- A named directory in effect is the one entered or returned to last. -/
theorem current?_eq_some_iff {dirs : DirectoryStack} {directory : String} :
    dirs.current? = some directory ↔ dirs.latest = some directory ∧ directory ≠ "" := by
  simp [current?, Option.filter_eq_some_iff]

/-- With a directory in effect nothing is entered. -/
theorem orEnter_of_current? {dirs : DirectoryStack} {directory : String}
    (h : dirs.current? = some directory) (fallback : String) : dirs.orEnter fallback = dirs := by
  simp [orEnter, h]

/-- A directory once in effect stays in effect. -/
theorem orEnter_orEnter (dirs : DirectoryStack) {fallback : String} (h : fallback ≠ "")
    (other : String) : (dirs.orEnter fallback).orEnter other = dirs.orEnter fallback := by
  cases hcurrent : dirs.current? with
  | some directory => simp [orEnter_of_current? hcurrent]
  | none =>
    have hentered : (dirs.enter fallback).current? = some fallback :=
      current?_eq_some_iff.2 ⟨rfl, h⟩
    have heq : dirs.orEnter fallback = dirs.enter fallback := by simp [orEnter, hcurrent]
    rw [heq, orEnter_of_current? hentered]

end DirectoryStack

end CompileCommands
