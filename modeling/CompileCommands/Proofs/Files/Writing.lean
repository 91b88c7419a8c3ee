import CompileCommands.Files.Tree

/-!
# Writing a file

Writing goes through only if the path leads to a place where no directory stands. It then changes
this one location, which afterwards holds exactly what was written: a path is found by its
directories alone, and writing leaves those as they were.

## Main definitions

* `FileTree.SameDirectories`: two trees with the same directories.
* `FileTree.Overwrites`: what writing does to a tree.

## Main results

* `FileTree.target_congr`: trees with the same directories lead paths to the same places.
* `FileTree.overwrites_of_write`: writing a file.
-/

namespace CompileCommands.FileTree

/-- Two trees have the same directories. -/
structure SameDirectories (tree other : FileTree) : Prop where
  /-- Paths begin at the same place. -/
  workingDirectory : tree.workingDirectory = other.workingDirectory
  /-- Directories stand at the same locations. -/
  directory_iff : ∀ location,
    tree.lookup? location = some .directory ↔ other.lookup? location = some .directory

/-- One tree comes from the other by giving the file of a path the given content. -/
structure Overwrites (tree after : FileTree) (path : String) (location : Location)
    (content : List UInt8) : Prop where
  /-- The path leads to the location. -/
  leads : tree.location? path = some location
  /-- The content is read from the path afterwards. -/
  holds : after.read path = .ok content
  /-- The content is that of the file at the location. -/
  stands : after.lookup? location = some (.file content)
  /-- Every other location is as it was. -/
  frame : ∀ other, other ≠ location → after.lookup? other = tree.lookup? other
  /-- Paths begin where they did. -/
  workingDirectory : after.workingDirectory = tree.workingDirectory

/-! ### Finding a path -/

/-- Going on by a name, which stays, goes up, or leads to a directory. -/
theorem enter_eq_ok_iff {tree : FileTree} {here there : Location} {name : String} :
    tree.enter here name = .ok there ↔
      (name = "." ∧ there = here) ∨
      (name = ".." ∧ there = here.dropLast) ∨
      (isDots name = false ∧ name.utf8ByteSize ≤ maxName ∧
        tree.lookup? (here ++ [name]) = some .directory ∧ there = here ++ [name]) := by
  rw [enter]
  by_cases hdot : name = "."
  · subst hdot
    simp [isDots, eq_comm]
  · by_cases hdots : name = ".."
    · subst hdots
      simp [isDots, eq_comm]
    · rw [if_neg hdot, if_neg hdots, child?]
      by_cases hlong : maxName < name.utf8ByteSize
      · rw [if_pos hlong]
        constructor
        · intro h
          cases h
        · rintro (⟨rfl, -⟩ | ⟨rfl, -⟩ | ⟨-, hshort, -⟩)
          · exact absurd rfl hdot
          · exact absurd rfl hdots
          · omega
      · have hshort : name.utf8ByteSize ≤ maxName := Nat.le_of_not_lt hlong
        have hname : isDots name = false := by simp [isDots, hdot, hdots]
        rw [if_neg hlong]
        rcases tree.lookup? (here ++ [name]) with _ | ⟨_ | _⟩ <;>
          simp [bind, Except.bind, hdot, hdots, hname, hshort, eq_comm]

/-- A path leads to a name in a directory. -/
theorem target_eq_ok_entry_iff {tree : FileTree} {path name : String} {here : Location}
    {slash : Bool} :
    tree.target path = .ok (.entry here name slash) ↔
      checkPath path = .ok () ∧ (namesOf path).getLast? = some name ∧
        tree.descend (tree.start path) (namesOf path).dropLast = .ok here ∧
        isDots name = false ∧ endsInSlash path = slash := by
  rw [target]
  cases checkPath path with
  | error cause => simp [bind, Except.bind]
  | ok =>
    cases (namesOf path).getLast? with
    | none => simp [bind, Except.bind]
    | some last =>
      cases tree.descend (tree.start path) (namesOf path).dropLast with
      | error cause => simp [bind, Except.bind]
      | ok there =>
        cases hdots : isDots last with
        | true =>
          simp only [bind, Except.bind, hdots, if_pos]
          constructor
          · intro h
            cases h
          · rintro ⟨-, hlast, -, hname, -⟩
            rw [Option.some_inj.1 hlast, hname] at hdots
            cases hdots
        | false =>
          simp only [bind, Except.bind, hdots, Bool.false_eq_true, if_false, Except.ok.injEq,
            Target.entry.injEq, Option.some_inj, true_and]
          constructor
          · rintro ⟨rfl, rfl, hslash⟩
            exact ⟨rfl, rfl, hdots, hslash⟩
          · rintro ⟨rfl, rfl, -, hslash⟩
            exact ⟨rfl, rfl, hslash⟩

/-! ### Trees with the same directories -/

section Same

variable {tree other : FileTree}

private theorem enter_congr (hsame : SameDirectories tree other) {here there : Location}
    {name : String} (h : tree.enter here name = .ok there) : other.enter here name = .ok there := by
  rw [enter_eq_ok_iff] at h ⊢
  rwa [← hsame.directory_iff]

private theorem descend_congr (hsame : SameDirectories tree other) {names : List String}
    {here there : Location} (h : tree.descend here names = .ok there) :
    other.descend here names = .ok there := by
  induction names generalizing here with
  | nil => exact h
  | cons name names ih =>
    rw [descend, List.foldlM_cons] at h ⊢
    cases henter : tree.enter here name with
    | error cause =>
      rw [henter] at h
      cases h
    | ok next =>
      rw [henter] at h
      rw [enter_congr hsame henter]
      exact ih h

/-- Trees with the same directories lead a path to the same place. -/
theorem target_congr (hsame : SameDirectories tree other) {path name : String} {here : Location}
    {slash : Bool} (h : tree.target path = .ok (.entry here name slash)) :
    other.target path = .ok (.entry here name slash) := by
  obtain ⟨hcheck, hlast, hdescend, hdots, hslash⟩ := target_eq_ok_entry_iff.1 h
  refine target_eq_ok_entry_iff.2 ⟨hcheck, hlast, ?_, hdots, hslash⟩
  have hstart : other.start path = tree.start path := by
    rw [start, start, hsame.workingDirectory]
  rw [hstart]
  exact descend_congr hsame hdescend

end Same

/-! ### Writing -/

/-- Putting a file where no directory stands leaves the directories as they were. -/
theorem sameDirectories_insert {tree : FileTree} {location : Location}
    (hne : location ≠ []) (h : tree.lookup? location ≠ some .directory) (content : List UInt8) :
    SameDirectories tree (tree.insert location (.file content)) := by
  refine ⟨rfl, fun other => ?_⟩
  by_cases heq : other = location
  · subst heq
    rw [lookup?_insert_self tree hne]
    simp [h]
  · rw [lookup?_insert_of_ne tree heq]

/-- Writing puts a file under a name in a directory, where no directory may stand. -/
theorem write_eq_ok_iff {tree after : FileTree} {path : String} {content : List UInt8} :
    tree.write path content = .ok after ↔
      ∃ here name, tree.target path = .ok (.entry here name false) ∧
        name.utf8ByteSize ≤ maxName ∧ tree.lookup? (here ++ [name]) ≠ some .directory ∧
        after = tree.insert (here ++ [name]) (.file content) := by
  rw [write]
  rcases tree.target path with cause | ⟨_ | ⟨here, name, _ | _⟩⟩
  · simp [bind, Except.bind]
  · simp [bind, Except.bind]
  · by_cases hlong : maxName < name.utf8ByteSize
    · have hshort : ¬ name.utf8ByteSize ≤ maxName := Nat.not_le_of_lt hlong
      simp [bind, Except.bind, child?, hlong, hshort]
    · have hshort : name.utf8ByteSize ≤ maxName := Nat.le_of_not_lt hlong
      simp only [bind, Except.bind, child?, if_neg hlong]
      by_cases hdirectory : tree.lookup? (here ++ [name]) = some .directory
      · simp [hdirectory]
      · constructor
        · intro h
          split at h
          next heq => exact absurd heq hdirectory
          next => exact ⟨here, name, rfl, hshort, hdirectory, (Except.ok.inj h).symm⟩
        · rintro ⟨_, _, hplace, -, -, rfl⟩
          cases hplace
          split
          next heq => exact absurd heq hdirectory
          next => rfl
  · simp [bind, Except.bind]

/-- **Writing changes one location.** The path leads to it, and what was written is read back. -/
theorem overwrites_of_write {tree after : FileTree} {path : String} {content : List UInt8}
    (h : tree.write path content = .ok after) :
    ∃ location, tree.Overwrites after path location content := by
  obtain ⟨here, name, htarget, hshort, hdirectory, rfl⟩ := write_eq_ok_iff.1 h
  have hne : here ++ [name] ≠ [] :=
    List.append_ne_nil_of_right_ne_nil here (List.cons_ne_nil name [])
  have hself := lookup?_insert_self tree hne (.file content)
  have hafter := target_congr (sameDirectories_insert hne hdirectory content) htarget
  have hchild : (tree.insert (here ++ [name]) (.file content)).child? here name =
      .ok (some (.file content)) := by
    rw [child?, if_neg (Nat.not_lt_of_le hshort), hself]
  refine ⟨here ++ [name], ?_, ?_, hself, fun other hother => ?_, rfl⟩
  · rw [location?, htarget]
  · simp only [read, find, hafter, hchild, bind, Except.bind]
  · exact lookup?_insert_of_ne tree hother _

end CompileCommands.FileTree
