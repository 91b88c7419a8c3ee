/-!
# Trees of files

A tree of files holds files and directories under their locations. A path names a location: one
that begins with a slash from the root of the tree downwards, any other from the working directory.
Empty names and `.` stay where they are, and `..` goes up, except at the root. Every name but the
last must lead to a directory. A path that ends in a slash, in `.` or in `..` names a directory, so
nothing can be written there. Names and paths have a greatest length, counted in bytes.

Writing creates a file or replaces the content of one. It creates no directory, and it leaves every
other location as it was.

## Main definitions

* `FileError`: why a file cannot be read or written.
* `FileTree`: files and directories under their locations.
* `FileTree.place`: a tree with one more entry and the directories above it.
* `FileTree.location?`: where the file of a path stands, or would stand.
* `FileTree.find`: what a path names.
* `FileTree.read`, `FileTree.write`: the content of a file.
* `FileTree.changes`: the files that are new or have another content.

## Main results

* `FileTree.lookup?_insert_self`, `FileTree.lookup?_insert_of_ne`: writing changes one location.
-/

namespace CompileCommands

/-- Why a file cannot be read or written. -/
inductive FileError where
  /-- The path leads to nothing. -/
  | notFound
  /-- The path goes on behind a file. -/
  | notDirectory
  /-- The path names a directory. -/
  | isDirectory
  /-- The path, or a name in it, is longer than the system allows. -/
  | nameTooLong
  /-- The path holds a null character, which ends a path for the system. -/
  | nullInPath
  /-- The content of the file is not UTF-8. -/
  | notUtf8
  /-- Another cause, in the words of the system. -/
  | other (text : String)
  deriving DecidableEq, Repr

/-- The cause in the words of the system. -/
def FileError.message : FileError → String
  | .notFound => "No such file or directory (os error 2)"
  | .notDirectory => "Not a directory (os error 20)"
  | .isDirectory => "Is a directory (os error 21)"
  | .nameTooLong => "File name too long (os error 36)"
  | .nullInPath => "file name contained an unexpected NUL byte"
  | .notUtf8 => "stream did not contain valid UTF-8"
  | .other text => text

/-- What stands at a location of a tree. -/
inductive Entry where
  /-- A file with its content. -/
  | file (content : List UInt8)
  /-- A directory. -/
  | directory
  deriving DecidableEq, Repr

/-- A location: the names that lead to it from the root of the tree. -/
abbrev Location := List String

/-- Files and directories under their locations. -/
structure FileTree where
  /-- The locations other than the root, with what stands there. -/
  entries : List (Location × Entry) := []
  /-- Where the paths begin that do not begin at the root. -/
  workingDirectory : Location := []
  deriving DecidableEq, Repr

namespace FileTree

/-- What stands at a location. The root is a directory. -/
def lookup? (tree : FileTree) (location : Location) : Option Entry :=
  if location = [] then some .directory
  else (tree.entries.find? (·.1 = location)).map Prod.snd

/-- The tree with an entry at a location in place of what stood there. -/
def insert (tree : FileTree) (location : Location) (entry : Entry) : FileTree :=
  { tree with entries := (location, entry) :: tree.entries.filter (·.1 ≠ location) }

/-! ### Paths -/

/-- The names in a path, without the empty ones between, before and behind its slashes. -/
def namesOf (path : String) : List String :=
  ((path.toList.splitOn '/').filter (· ≠ [])).map String.ofList

/-- A path that ends in a slash. -/
def endsInSlash (path : String) : Bool :=
  path.toList.getLast? == some '/'

/-- Where a path begins. -/
def start (tree : FileTree) (path : String) : Location :=
  if path.toList.head? = some '/' then [] else tree.workingDirectory

/-- The greatest length of a name, in bytes. -/
def maxName : Nat :=
  255

/-- The greatest length of a path, in bytes. -/
def maxPath : Nat :=
  4095

/-- What stands under a name in a directory. -/
def child? (tree : FileTree) (here : Location) (name : String) : Except FileError (Option Entry) :=
  if maxName < name.utf8ByteSize then .error .nameTooLong
  else .ok (tree.lookup? (here ++ [name]))

/-- A name that leads to no entry of its own. -/
def isDots (name : String) : Bool :=
  name == "." || name == ".."

/-- Going from one directory to another by a name. -/
def enter (tree : FileTree) (here : Location) (name : String) : Except FileError Location :=
  if name = "." then .ok here
  else if name = ".." then .ok here.dropLast
  else do
    match ← tree.child? here name with
    | none => .error .notFound
    | some (.file _) => .error .notDirectory
    | some .directory => .ok (here ++ [name])

/-- Going from one directory to another by several names in a row. -/
def descend (tree : FileTree) (here : Location) (names : List String) : Except FileError Location :=
  names.foldlM tree.enter here

/-- A path is acceptable to the system, whatever it may name. -/
def checkPath (path : String) : Except FileError Unit :=
  if path.toList.contains '\x00' then .error .nullInPath
  else if path = "" then .error .notFound
  else if maxPath < path.utf8ByteSize then .error .nameTooLong
  else .ok ()

/-- Where a path leads: to a directory, or to a name in a directory, under which there may be
anything or nothing. -/
inductive Target where
  /-- The path ends in the root, in `.` or in `..`. -/
  | directory
  /-- The path ends in a name, with or without a slash behind it. -/
  | entry (here : Location) (name : String) (slash : Bool)
  deriving DecidableEq, Repr

/-- Where a path leads. -/
def target (tree : FileTree) (path : String) : Except FileError Target := do
  checkPath path
  match (namesOf path).getLast? with
  | none => .ok .directory
  | some last => do
    let here ← tree.descend (tree.start path) (namesOf path).dropLast
    if isDots last then .ok .directory
    else .ok (.entry here last (endsInSlash path))

/-- The location at which the file of a path stands, or would stand. -/
def location? (tree : FileTree) (path : String) : Option Location :=
  match tree.target path with
  | .ok (.entry here name false) => some (here ++ [name])
  | _ => none

/-! ### Reading and writing -/

/-- What a path names. -/
def find (tree : FileTree) (path : String) : Except FileError Entry := do
  match ← tree.target path with
  | .directory => .ok .directory
  | .entry here name slash =>
    match ← tree.child? here name, slash with
    | none, _ => .error .notFound
    | some (.file _), true => .error .notDirectory
    | some entry, _ => .ok entry

/-- The content of the file that a path names. -/
def read (tree : FileTree) (path : String) : Except FileError (List UInt8) := do
  match ← tree.find path with
  | .directory => .error .isDirectory
  | .file content => .ok content

/-- The tree with the given content in the file that a path names. -/
def write (tree : FileTree) (path : String) (content : List UInt8) : Except FileError FileTree := do
  match ← tree.target path with
  | .directory => .error .isDirectory
  | .entry _ _ true => .error .isDirectory
  | .entry here name false =>
    match ← tree.child? here name with
    | some .directory => .error .isDirectory
    | _ => .ok (tree.insert (here ++ [name]) (.file content))

/-- The tree with an entry at the place that a path spells out, and with directories above it. -/
def place (tree : FileTree) (path : String) (entry : Entry) : FileTree :=
  let location := tree.start path ++ namesOf path
  let parents := (List.range location.length).tail.map location.take
  (parents.foldl (·.insert · .directory) tree).insert location entry

/-- A location as it is seen from the working directory, if it is below it. -/
def below? (tree : FileTree) (location : Location) : Option Location :=
  if tree.workingDirectory.isPrefixOf location then
    some (location.drop tree.workingDirectory.length)
  else none

/-- The files below the working directory that another tree does not have with the same content. -/
def changes (before after : FileTree) : List (Location × List UInt8) :=
  after.entries.filterMap fun (location, entry) =>
    match entry with
    | .directory => none
    | .file content =>
      if before.lookup? location = some entry then none
      else (after.below? location).map (·, content)

/-- An entry that was put at a location stands there. -/
theorem lookup?_insert_self (tree : FileTree) {location : Location} (h : location ≠ [])
    (entry : Entry) : (tree.insert location entry).lookup? location = some entry := by
  simp [lookup?, insert, h]

/-- Putting an entry at a location leaves every other location as it was. -/
theorem lookup?_insert_of_ne (tree : FileTree) {location other : Location} (h : other ≠ location)
    (entry : Entry) : (tree.insert location entry).lookup? other = tree.lookup? other := by
  have hsame (e : Location × Entry) :
      (decide (e.1 ≠ location) = true ∧ decide (e.1 = other) = true) ↔ e.1 = other := by
    by_cases he : e.1 = other <;> simp [he, h]
  simp only [lookup?, insert, List.find?_cons, h.symm, decide_false, List.find?_filter, hsame]

end FileTree

end CompileCommands
