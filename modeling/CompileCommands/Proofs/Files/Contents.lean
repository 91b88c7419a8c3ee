import CompileCommands.Proofs.Files.Writing

/-!
# Trees that differ in contents

Paths are found by directories, and by the mere presence of files. So two trees with the same shape,
which may differ in what stands in their files, lead a path to the same place, and fail for the same
reason. The content of a file matters only where this file is read. Whether a file can be written
does not depend on any content, neither on one that is there nor on the one that is written.

## Main definitions

* `FileTree.slot`: the location at which a file can be written.
* `FileTree.SameShape`: two trees that may differ in the contents of files only.

## Main results

* `FileTree.write_eq_map_slot`: whether a file can be written does not depend on what is written.
* `FileTree.SameShape.target_eq`: paths lead to the same places.
* `FileTree.SameShape.slot_eq`: files can be written at the same locations.
* `FileTree.SameShape.read_eq`: reading depends on the content of the one file that is read.
-/

namespace CompileCommands.FileTree

/-- The location at which a file can be written, given its path. -/
def slot (tree : FileTree) (path : String) : Except FileError Location := do
  match ← tree.target path with
  | .directory => .error .isDirectory
  | .entry _ _ true => .error .isDirectory
  | .entry here name false =>
    match ← tree.child? here name with
    | some .directory => .error .isDirectory
    | _ => .ok (here ++ [name])

/-- The same stands at a location of two trees, or a file in both. -/
inductive SameKind : Option Entry → Option Entry → Prop
  | same (found : Option Entry) : SameKind found found
  | files (content other : List UInt8) : SameKind (some (.file content)) (some (.file other))

/-- Two trees that may differ in the contents of files only. -/
structure SameShape (tree other : FileTree) : Prop where
  /-- Paths begin at the same place. -/
  workingDirectory_eq : tree.workingDirectory = other.workingDirectory
  /-- At each location stands the same in both, or a file in both. -/
  sameKind : ∀ location, SameKind (tree.lookup? location) (other.lookup? location)

/-- Whether a file can be written, and where, does not depend on what is written. -/
theorem write_eq_map_slot (tree : FileTree) (path : String) (content : List UInt8) :
    tree.write path content =
      (tree.slot path).map fun location => tree.insert location (.file content) := by
  rw [write, slot]
  rcases tree.target path with failure | ⟨_ | ⟨here, name, _ | _⟩⟩
  · rfl
  · rfl
  · simp only [bind, Except.bind]
    rcases tree.child? here name with failure | _ | _ | _ <;> rfl
  · rfl

/-- A file cannot be written, whatever is written. -/
theorem write_eq_error_iff {tree : FileTree} {path : String} {content : List UInt8}
    {cause : FileError} :
    tree.write path content = .error cause ↔ tree.slot path = .error cause := by
  rw [write_eq_map_slot]
  cases tree.slot path <;> simp [Except.map]

/-- What stands under a name stands at its location. -/
private theorem lookup?_of_child? {tree : FileTree} {here : Location} {name : String}
    {found : Option Entry}
    (h : tree.child? here name = .ok found) : tree.lookup? (here ++ [name]) = found := by
  rw [child?] at h
  split at h
  · cases h
  · exact Except.ok.inj h

/-- A file at the location of a path is read, unless its name is too long. -/
theorem read_of_location? {tree : FileTree} {path : String} {location : Location}
    {content : List UInt8} (h : tree.location? path = some location)
    (hfile : tree.lookup? location = some (.file content)) :
    tree.read path = .ok content ∨ tree.read path = .error .nameTooLong := by
  rw [location?] at h
  rw [read, find]
  revert h
  rcases tree.target path with failure | ⟨_ | ⟨here, name, _ | _⟩⟩ <;> intro h
  · cases h
  · cases h
  · cases h
    simp only [bind, Except.bind, child?, hfile]
    by_cases hlong : maxName < name.utf8ByteSize
    · rw [if_pos hlong]
      exact .inr rfl
    · rw [if_neg hlong]
      exact .inl rfl
  · cases h

namespace SameShape

variable {tree other : FileTree}

/-- Under a name in a directory stands the same in both trees, or a file in both. -/
theorem child?_cases (h : SameShape tree other) (here : Location) (name : String) :
    tree.child? here name = other.child? here name ∨
      ∃ content content', tree.child? here name = .ok (some (.file content)) ∧
        other.child? here name = .ok (some (.file content')) := by
  have hkind := h.sameKind (here ++ [name])
  rw [child?, child?]
  split
  · exact .inl rfl
  · revert hkind
    generalize tree.lookup? (here ++ [name]) = first
    generalize other.lookup? (here ++ [name]) = second
    rintro (_ | ⟨content, content'⟩)
    · exact .inl rfl
    · exact .inr ⟨content, content', rfl, rfl⟩

private theorem enter_eq (h : SameShape tree other) (here : Location) (name : String) :
    tree.enter here name = other.enter here name := by
  rw [enter, enter]
  rcases h.child?_cases here name with heq | ⟨content, content', htree, hother⟩
  · rw [heq]
  · rw [htree, hother]
    rfl

private theorem descend_eq (h : SameShape tree other) (here : Location) (names : List String) :
    tree.descend here names = other.descend here names := by
  have henter : tree.enter = other.enter := by
    funext here name
    exact h.enter_eq here name
  rw [descend, descend, henter]

/-- Paths lead to the same places, or nowhere for the same reason. -/
theorem target_eq (h : SameShape tree other) (path : String) :
    tree.target path = other.target path := by
  simp only [target, start, h.workingDirectory_eq, h.descend_eq]

theorem location?_eq (h : SameShape tree other) (path : String) :
    tree.location? path = other.location? path := by
  rw [location?, location?, h.target_eq]

/-- Files can be written at the same locations, or cannot be written for the same reason. -/
theorem slot_eq (h : SameShape tree other) (path : String) : tree.slot path = other.slot path := by
  rw [slot, slot, h.target_eq]
  rcases other.target path with failure | ⟨_ | ⟨here, name, _ | _⟩⟩
  · rfl
  · rfl
  · rcases h.child?_cases here name with heq | ⟨content, content', htree, hother⟩
    · simp only [bind, Except.bind, heq]
    · simp only [bind, Except.bind, htree, hother]
  · rfl

/-- The same is read from a path, or the content of one file in each tree. -/
theorem read_cases (h : SameShape tree other) (path : String) :
    tree.read path = other.read path ∨
      ∃ location content content', tree.location? path = some location ∧
        tree.lookup? location = some (.file content) ∧
        other.lookup? location = some (.file content') ∧
        tree.read path = .ok content ∧ other.read path = .ok content' := by
  rw [read, read, find, find, location?, ← h.target_eq]
  rcases tree.target path with failure | ⟨_ | ⟨here, name, _ | _⟩⟩
  · exact .inl rfl
  · exact .inl rfl
  · rcases h.child?_cases here name with heq | ⟨content, content', htree, hother⟩
    · exact .inl (by simp only [bind, Except.bind, heq])
    · exact .inr ⟨here ++ [name], content, content', rfl, lookup?_of_child? htree,
        lookup?_of_child? hother, by simp only [bind, Except.bind, htree],
        by simp only [bind, Except.bind, hother]⟩
  · rcases h.child?_cases here name with heq | ⟨content, content', htree, hother⟩
    · exact .inl (by simp only [bind, Except.bind, heq])
    · exact .inl (by simp only [bind, Except.bind, htree, hother])

/-- What is read from a path depends on the content of the one file that the path leads to. -/
theorem read_eq (h : SameShape tree other) {path : String}
    (hcontent : ∀ location ∈ tree.location? path,
      tree.lookup? location = other.lookup? location) :
    tree.read path = other.read path := by
  obtain heq | ⟨location, content, content', hlocation, htree, hother, hread, hread'⟩ :=
    h.read_cases path
  · exact heq
  · have hsame := hcontent location hlocation
    rw [htree, hother] at hsame
    cases hsame
    rw [hread, hread']

end SameShape

end CompileCommands.FileTree
