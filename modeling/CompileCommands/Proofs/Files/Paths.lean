import CompileCommands.Proofs.Files.Contents

/-!
# Paths of plain names

A plain name stands for an entry of a directory: it is not empty, holds no slash, and is neither `.`
nor `..`. A path of plain names goes down from where it begins, one name at a time, and whether a
file can be written there depends on what stands at each name. Every name but the last must lead to
a directory, and the last must not. The first name of which this fails decides on the cause.

The system refuses some paths before it follows them, and it refuses names that are too long when
it comes to them.

## Main definitions

* `FileTree.PlainPath`: a path of plain names.
* `FileTree.IsFault`: what may be wrong with a name.
* `FileTree.PlainPath.IsWritable`: nothing is wrong with the path.
* `FileTree.PlainPath.Refused`: the cause for which the path is refused.

## Main results

* `FileTree.PlainPath.namesOf_text`: the names in the text of a path.
* `FileTree.follow_cases`: following names up to the first that something is wrong with.
* `FileTree.PlainPath.slot_text_cases`: whether a file can be written.
-/

namespace CompileCommands.FileTree

/-- A name that stands for an entry of a directory. -/
structure IsPlainName (name : String) : Prop where
  /-- The name is not empty. -/
  ne_empty : name ≠ ""
  /-- There is no slash in the name. -/
  slash_notMem : '/' ∉ name.toList
  /-- The name is neither `.` nor `..`. -/
  isDots : isDots name = false

/-- A path of plain names. -/
structure PlainPath where
  /-- The path begins at the root. -/
  absolute : Bool
  /-- The names, which slashes separate. -/
  names : List String
  /-- There is a name. -/
  ne_nil : names ≠ []
  /-- The names are plain. -/
  isPlainName : ∀ name ∈ names, IsPlainName name

/-- Something is wrong with a name in a directory, given the names behind it. -/
inductive IsFault (tree : FileTree) (here : Location) (name : String) (behind : List String) :
    FileError → Prop
  /-- The name is too long. -/
  | nameTooLong (hlong : maxName < name.utf8ByteSize) : IsFault tree here name behind .nameTooLong
  /-- Nothing stands there, and the path goes on. -/
  | notFound (hshort : name.utf8ByteSize ≤ maxName) (hbehind : behind ≠ [])
      (h : tree.lookup? (here ++ [name]) = none) : IsFault tree here name behind .notFound
  /-- A file stands there, and the path goes on. -/
  | notDirectory {content : List UInt8} (hshort : name.utf8ByteSize ≤ maxName)
      (hbehind : behind ≠ []) (h : tree.lookup? (here ++ [name]) = some (.file content)) :
      IsFault tree here name behind .notDirectory
  /-- A directory stands there, and the path ends. -/
  | isDirectory (hshort : name.utf8ByteSize ≤ maxName) (hbehind : behind = [])
      (h : tree.lookup? (here ++ [name]) = some .directory) :
      IsFault tree here name behind .isDirectory

/-- Something is wrong with the name at a position, if all names before it lead to directories. -/
def OffendsAt (tree : FileTree) (here : Location) (names : List String) (n : Nat)
    (cause : FileError) : Prop :=
  ∃ name, names[n]? = some name ∧
    IsFault tree (here ++ names.take n) name (names.drop (n + 1)) cause

/-- The first name that something is wrong with, and what is wrong with it. -/
structure OffendsFirst (tree : FileTree) (here : Location) (names : List String) (n : Nat)
    (cause : FileError) : Prop where
  /-- Something is wrong with this name. -/
  offends : OffendsAt tree here names n cause
  /-- Nothing is wrong with the names before it. -/
  before : ∀ m < n, ∀ other, ¬ OffendsAt tree here names m other

/-- Nothing can be written at a path that the system refuses as it is written. -/
private theorem slot_of_checkPath {tree : FileTree} {path : String} {cause : FileError}
    (h : checkPath path = .error cause) : tree.slot path = .error cause := by
  rw [slot, target, h]
  rfl

/-- The path of a file that can be written leads to its location. -/
theorem location?_of_slot {tree : FileTree} {path : String} {location : Location}
    (h : tree.slot path = .ok location) : tree.location? path = some location := by
  rw [slot] at h
  rw [location?]
  revert h
  rcases tree.target path with failure | ⟨_ | ⟨here, name, _ | _⟩⟩ <;> intro h
  · cases h
  · cases h
  · revert h
    simp only [bind, Except.bind]
    rcases tree.child? here name with failure | _ | _ | _ <;> intro h <;> cases h <;> rfl
  · cases h

/-! ### The text of a path -/

namespace PlainPath

/-- A path as it is written. -/
def text (path : PlainPath) : String :=
  (if path.absolute then "/" else "") ++ "/".intercalate path.names

/-- Where a path begins. -/
def origin (path : PlainPath) (tree : FileTree) : Location :=
  if path.absolute then [] else tree.workingDirectory

/-- Where a path leads. -/
def location (path : PlainPath) (tree : FileTree) : Location :=
  path.origin tree ++ path.names

/-- The names with slashes between them. -/
def body (path : PlainPath) : List Char :=
  ['/'].intercalate (path.names.map String.toList)

variable (path : PlainPath)

theorem toList_text : path.text.toList = (if path.absolute then ['/'] else []) ++ path.body := by
  rw [text, String.toList_append, String.toList_intercalate]
  split <;> rfl

private theorem splitOn_body : path.body.splitOn '/' = path.names.map String.toList := by
  have hne : path.names.map String.toList ≠ [] := mt List.map_eq_nil_iff.1 path.ne_nil
  refine List.splitOn_intercalate '/' (fun piece hpiece => ?_) hne
  obtain ⟨name, hname, rfl⟩ := List.mem_map.1 hpiece
  exact (path.isPlainName name hname).slash_notMem

theorem nil_notMem_splitOn_body : [] ∉ path.body.splitOn '/' := by
  rw [splitOn_body]
  intro hmem
  obtain ⟨name, hname, hnil⟩ := List.mem_map.1 hmem
  exact (path.isPlainName name hname).ne_empty (String.toList_eq_nil_iff.1 hnil)

/-- The names are found in the text of a path. -/
theorem namesOf_text : namesOf path.text = path.names := by
  have hnil := path.nil_notMem_splitOn_body
  have hfilter : (path.body.splitOn '/').filter (· ≠ []) = path.names.map String.toList := by
    rw [List.filter_eq_self.2, splitOn_body]
    intro piece hpiece
    exact decide_eq_true fun heq => hnil (heq ▸ hpiece)
  have hpieces : (path.text.toList.splitOn '/').filter (· ≠ []) = path.names.map String.toList := by
    rw [toList_text]
    split
    · rw [← hfilter, List.singleton_append, List.splitOn_cons_eq_if_modifyHead,
        if_pos (beq_self_eq_true _)]
      rfl
    · exact hfilter
  have hid : String.ofList ∘ String.toList = id := by
    funext name
    exact String.ofList_toList
  rw [namesOf, hpieces, List.map_map, hid, List.map_id]

private theorem head?_body_ne : path.body.head? ≠ some '/' := by
  intro hhead
  obtain ⟨rest, hbody⟩ := List.head?_eq_some_iff.1 hhead
  refine path.nil_notMem_splitOn_body ?_
  rw [hbody, ← List.nil_append ('/' :: rest), List.splitOn_append_cons_self]
  exact List.mem_cons_self

private theorem getLast?_body_ne : path.body.getLast? ≠ some '/' := by
  intro hlast
  obtain ⟨front, hbody⟩ := List.getLast?_eq_some_iff.1 hlast
  refine path.nil_notMem_splitOn_body ?_
  rw [hbody, List.splitOn_append_cons_self]
  exact List.mem_append_right _ List.mem_cons_self

private theorem body_ne_nil : path.body ≠ [] := by
  intro hnil
  refine path.nil_notMem_splitOn_body ?_
  rw [hnil]
  exact List.mem_cons_self

private theorem start_text (tree : FileTree) : tree.start path.text = path.origin tree := by
  rw [start, origin, toList_text]
  split <;> simp_all [head?_body_ne]

private theorem endsInSlash_text : endsInSlash path.text = false := by
  have hlast := path.getLast?_body_ne
  rw [List.getLast?_eq_some_getLast path.body_ne_nil] at hlast
  rw [endsInSlash, toList_text, List.getLast?_append,
    List.getLast?_eq_some_getLast path.body_ne_nil, Option.some_or]
  exact beq_eq_false_iff_ne.2 hlast

private theorem text_ne_empty : path.text ≠ "" := by
  intro hempty
  have hnil := String.toList_eq_nil_iff.2 hempty
  rw [toList_text] at hnil
  exact path.body_ne_nil (List.append_eq_nil_iff.1 hnil).2

end PlainPath

/-! ### One name -/

section Name

variable {tree : FileTree} {here : Location} {name : String} {behind : List String}

/-- Only one thing is wrong with a name. -/
theorem IsFault.unique {cause other : FileError} (h : IsFault tree here name behind cause)
    (hother : IsFault tree here name behind other) : cause = other := by
  cases h <;> cases hother <;> first | rfl | omega | simp_all

theorem forall_not_isFault_iff :
    (∀ cause, ¬ IsFault tree here name behind cause) ↔
      name.utf8ByteSize ≤ maxName ∧
        (behind ≠ [] → tree.lookup? (here ++ [name]) = some .directory) ∧
        (behind = [] → tree.lookup? (here ++ [name]) ≠ some .directory) := by
  constructor
  · intro h
    have hshort : name.utf8ByteSize ≤ maxName :=
      Nat.not_lt.1 fun hlong => h _ (.nameTooLong hlong)
    refine ⟨hshort, fun hbehind => ?_, fun hbehind hdirectory => ?_⟩
    · rcases hfound : tree.lookup? (here ++ [name]) with _ | ⟨_ | _⟩
      · exact absurd (.notFound hshort hbehind hfound) (h _)
      · exact absurd (.notDirectory hshort hbehind hfound) (h _)
      · rfl
    · exact h _ (.isDirectory hshort hbehind hdirectory)
  · rintro ⟨hshort, hproper, hlast⟩ cause hfault
    cases hfault with
    | nameTooLong hlong => omega
    | notFound _ hbehind h => simp_all
    | notDirectory _ hbehind h => simp_all
    | isDirectory _ hbehind h => exact hlast hbehind h

/-- Going on by a plain name, unless something is wrong with it. -/
private theorem enter_cases (hname : IsPlainName name) (hbehind : behind ≠ []) :
    (tree.enter here name = .ok (here ++ [name]) ∧ ∀ cause, ¬ IsFault tree here name behind cause) ∨
      ∃ cause, tree.enter here name = .error cause ∧ IsFault tree here name behind cause := by
  have hdots := hname.isDots
  rw [isDots, Bool.or_eq_false_iff, beq_eq_false_iff_ne, beq_eq_false_iff_ne] at hdots
  rw [enter, if_neg hdots.1, if_neg hdots.2, child?]
  by_cases hlong : maxName < name.utf8ByteSize
  · rw [if_pos hlong]
    exact .inr ⟨_, rfl, .nameTooLong hlong⟩
  · have hshort : name.utf8ByteSize ≤ maxName := Nat.le_of_not_lt hlong
    rw [if_neg hlong]
    rcases hfound : tree.lookup? (here ++ [name]) with _ | ⟨_ | _⟩
    · exact .inr ⟨_, rfl, .notFound hshort hbehind hfound⟩
    · exact .inr ⟨_, rfl, .notDirectory hshort hbehind hfound⟩
    · exact .inl ⟨rfl, forall_not_isFault_iff.2
        ⟨hshort, fun _ => hfound, fun h => absurd h hbehind⟩⟩

/-- The location under a name, at which a file can be written. -/
def slotUnder (tree : FileTree) (name : String) (here : Location) : Except FileError Location := do
  match ← tree.child? here name with
  | some .directory => .error .isDirectory
  | _ => .ok (here ++ [name])

/-- A file can be written under the last name, unless something is wrong with it. -/
private theorem slotUnder_cases (tree : FileTree) (here : Location) (name : String) :
    (tree.slotUnder name here = .ok (here ++ [name]) ∧ ∀ cause, ¬ IsFault tree here name [] cause) ∨
      ∃ cause, tree.slotUnder name here = .error cause ∧ IsFault tree here name [] cause := by
  rw [slotUnder, child?]
  by_cases hlong : maxName < name.utf8ByteSize
  · rw [if_pos hlong]
    exact .inr ⟨_, rfl, .nameTooLong hlong⟩
  · have hshort : name.utf8ByteSize ≤ maxName := Nat.le_of_not_lt hlong
    rw [if_neg hlong]
    by_cases hfound : tree.lookup? (here ++ [name]) = some .directory
    · rw [hfound]
      exact .inr ⟨_, rfl, .isDirectory hshort rfl hfound⟩
    · refine .inl ⟨?_, forall_not_isFault_iff.2 ⟨hshort, fun h => absurd rfl h, fun _ => hfound⟩⟩
      rcases hentry : tree.lookup? (here ++ [name]) with _ | ⟨_ | _⟩
      · rfl
      · rfl
      · exact absurd hentry hfound

end Name

/-! ### Several names -/

section Names

variable {tree : FileTree} {here : Location} {first : String} {names : List String} {n : Nat}
  {cause : FileError}

theorem offendsAt_zero :
    OffendsAt tree here (first :: names) 0 cause ↔ IsFault tree here first names cause := by
  rw [OffendsAt, List.take_zero, List.append_nil]
  constructor
  · rintro ⟨_, hname, hfault⟩
    cases hname
    exact hfault
  · exact fun hfault => ⟨first, rfl, hfault⟩

/-- What is wrong with a later name is found below the directory of the first. -/
theorem offendsAt_succ :
    OffendsAt tree here (first :: names) (n + 1) cause ↔
      OffendsAt tree (here ++ [first]) names n cause := by
  rw [OffendsAt, OffendsAt, List.take_succ_cons, List.append_cons]
  rfl

private theorem not_offendsAt_nil : ¬ OffendsAt tree here [] n cause := by
  rintro ⟨_, hname, _⟩
  cases hname

private theorem forall_not_offendsAt_cons :
    (∀ n cause, ¬ OffendsAt tree here (first :: names) n cause) ↔
      (∀ cause, ¬ IsFault tree here first names cause) ∧
        ∀ n cause, ¬ OffendsAt tree (here ++ [first]) names n cause := by
  constructor
  · exact fun h => ⟨fun cause hfault => h 0 cause (offendsAt_zero.2 hfault),
      fun n cause hoffends => h (n + 1) cause (offendsAt_succ.2 hoffends)⟩
  · rintro ⟨hfaultless, hnone⟩ n cause hoffends
    cases n with
    | zero => exact hfaultless cause (offendsAt_zero.1 hoffends)
    | succ n => exact hnone n cause (offendsAt_succ.1 hoffends)

theorem IsFault.offendsFirst (h : IsFault tree here first names cause) :
    OffendsFirst tree here (first :: names) 0 cause :=
  ⟨offendsAt_zero.2 h, fun m hm => absurd hm (Nat.not_lt_zero m)⟩

private theorem OffendsFirst.succ (hfirst : ∀ other, ¬ IsFault tree here first names other)
    (h : OffendsFirst tree (here ++ [first]) names n cause) :
    OffendsFirst tree here (first :: names) (n + 1) cause := by
  refine ⟨offendsAt_succ.2 h.offends, fun m hm other => ?_⟩
  cases m with
  | zero => exact fun hoffends => hfirst other (offendsAt_zero.1 hoffends)
  | succ m =>
    exact fun hoffends => h.before m (Nat.lt_of_succ_lt_succ hm) other (offendsAt_succ.1 hoffends)

/-- Only one name is the first that something is wrong with, and only one thing is. -/
theorem OffendsFirst.unique {m : Nat} {other : FileError}
    (h : OffendsFirst tree here names n cause) (hother : OffendsFirst tree here names m other) :
    cause = other := by
  have hpos : n = m := by
    rcases Nat.lt_trichotomy n m with hlt | heq | hgt
    · exact absurd h.offends (hother.before n hlt cause)
    · exact heq
    · exact absurd hother.offends (h.before m hgt other)
  subst hpos
  obtain ⟨name, hname, hfault⟩ := h.offends
  obtain ⟨name', hname', hfault'⟩ := hother.offends
  rw [hname] at hname'
  cases hname'
  exact hfault.unique hfault'

private theorem descend_cons :
    tree.descend here (first :: names) =
      tree.enter here first >>= fun next => tree.descend next names := by
  rw [descend, List.foldlM_cons]
  rfl

/-- Names are followed to the location that they spell out, or up to the first of them that
something is wrong with. -/
theorem follow_cases {front : List String} {last : String} (here : Location)
    (hplain : ∀ name ∈ front, IsPlainName name) :
    ((tree.descend here front >>= tree.slotUnder last) = .ok (here ++ (front ++ [last])) ∧
        ∀ n cause, ¬ OffendsAt tree here (front ++ [last]) n cause) ∨
      ∃ n cause, (tree.descend here front >>= tree.slotUnder last) = .error cause ∧
        OffendsFirst tree here (front ++ [last]) n cause := by
  -- what is wrong with the names behind the first is found in the directory of the first
  induction front generalizing here with
  | nil =>
    show (tree.slotUnder last here = _ ∧ _) ∨ ∃ n cause, tree.slotUnder last here = _ ∧ _
    obtain ⟨hok, hfaultless⟩ | ⟨cause, herror, hfault⟩ := slotUnder_cases tree here last
    · exact .inl ⟨hok, forall_not_offendsAt_cons.2 ⟨hfaultless, fun _ _ => not_offendsAt_nil⟩⟩
    · exact .inr ⟨0, cause, herror, hfault.offendsFirst⟩
  | cons first front ih =>
    rw [List.forall_mem_cons] at hplain
    have hbehind : front ++ [last] ≠ [] :=
      List.append_ne_nil_of_right_ne_nil front (List.cons_ne_nil last [])
    rw [descend_cons, List.cons_append]
    obtain ⟨hok, hfaultless⟩ | ⟨cause, herror, hfault⟩ :=
      @enter_cases tree here first _ hplain.1 hbehind
    · rw [hok, List.append_cons here first (front ++ [last])]
      show ((tree.descend (here ++ [first]) front >>= _) = _ ∧ _) ∨
        ∃ n cause, (tree.descend (here ++ [first]) front >>= _) = _ ∧ _
      obtain ⟨hok, hnone⟩ | ⟨n, cause, herror, hfirst⟩ := ih (here ++ [first]) hplain.2
      · exact .inl ⟨hok, forall_not_offendsAt_cons.2 ⟨hfaultless, hnone⟩⟩
      · exact .inr ⟨n + 1, cause, herror, hfirst.succ hfaultless⟩
    · rw [herror]
      exact .inr ⟨0, cause, rfl, hfault.offendsFirst⟩

/-- Nothing is wrong with the names if none is too long, all but the last lead to directories, and
the last does not. -/
theorem forall_not_offendsAt_iff (hne : names ≠ []) :
    (∀ n cause, ¬ OffendsAt tree here names n cause) ↔
      (∀ name ∈ names, name.utf8ByteSize ≤ maxName) ∧
        (∀ n, n + 1 < names.length →
          tree.lookup? (here ++ names.take (n + 1)) = some .directory) ∧
        tree.lookup? (here ++ names) ≠ some .directory := by
  induction names generalizing here with
  | nil => exact absurd rfl hne
  | cons first names ih =>
    rw [forall_not_offendsAt_cons, forall_not_isFault_iff, List.forall_mem_cons]
    by_cases hnames : names = []
    · subst hnames
      constructor
      · rintro ⟨⟨hshort, -, hlast⟩, -⟩
        exact ⟨⟨hshort, fun _ hmem => absurd hmem List.not_mem_nil⟩,
          fun n hn => absurd hn (by simp), hlast rfl⟩
      · rintro ⟨⟨hshort, -⟩, -, hlast⟩
        exact ⟨⟨hshort, fun h => absurd rfl h, fun _ => hlast⟩, fun n cause => not_offendsAt_nil⟩
    · rw [ih hnames, List.append_cons here first names]
      constructor
      · rintro ⟨⟨hshort, hproper, -⟩, hothers, hparents, hlast⟩
        refine ⟨⟨hshort, hothers⟩, fun n hn => ?_, hlast⟩
        cases n with
        | zero => exact hproper hnames
        | succ n =>
          rw [List.take_succ_cons, List.append_cons]
          exact hparents n (Nat.lt_of_succ_lt_succ hn)
      · rintro ⟨⟨hshort, hothers⟩, hparents, hlast⟩
        have hlength := List.length_pos_iff.2 hnames
        refine ⟨⟨hshort, fun _ => ?_, fun h => absurd h hnames⟩, hothers, fun n hn => ?_, hlast⟩
        · exact hparents 0 (Nat.succ_lt_succ hlength)
        · have hparent := hparents (n + 1) (Nat.succ_lt_succ hn)
          rwa [List.take_succ_cons, List.append_cons] at hparent

end Names

/-! ### The whole path -/

namespace PlainPath

/-- A file can be written at the path. -/
structure IsWritable (path : PlainPath) (tree : FileTree) : Prop where
  /-- There is no null character in the path. -/
  null_notMem : '\x00' ∉ path.text.toList
  /-- The path is not too long. -/
  path_le : path.text.utf8ByteSize ≤ maxPath
  /-- No name is too long. -/
  name_le : ∀ name ∈ path.names, name.utf8ByteSize ≤ maxName
  /-- All names but the last lead to directories. -/
  parents : ∀ n, n + 1 < path.names.length →
    tree.lookup? (path.origin tree ++ path.names.take (n + 1)) = some .directory
  /-- The path does not lead to a directory. -/
  free : tree.lookup? (path.location tree) ≠ some .directory

/-- The path is refused for a cause. -/
inductive Refused (path : PlainPath) (tree : FileTree) : FileError → Prop
  /-- There is a null character in the path. -/
  | nullInPath (h : '\x00' ∈ path.text.toList) : Refused path tree .nullInPath
  /-- The path is too long. -/
  | pathTooLong (hnull : '\x00' ∉ path.text.toList) (h : maxPath < path.text.utf8ByteSize) :
      Refused path tree .nameTooLong
  /-- Something is wrong with a name, and with none before it. -/
  | name (hnull : '\x00' ∉ path.text.toList) (hpath : path.text.utf8ByteSize ≤ maxPath) {n : Nat}
      {cause : FileError} (h : OffendsFirst tree (path.origin tree) path.names n cause) :
      Refused path tree cause

variable {path : PlainPath} {tree : FileTree}

/-- A path is refused for one cause. -/
theorem Refused.unique {cause other : FileError} (h : path.Refused tree cause)
    (hother : path.Refused tree other) : cause = other := by
  cases h with
  | nullInPath h =>
    cases hother with
    | nullInPath => rfl
    | pathTooLong hnull => exact absurd h hnull
    | name hnull => exact absurd h hnull
  | pathTooLong hnull h =>
    cases hother with
    | nullInPath hmem => exact absurd hmem hnull
    | pathTooLong => rfl
    | name _ hpath => omega
  | name hnull hpath h =>
    cases hother with
    | nullInPath hmem => exact absurd hmem hnull
    | pathTooLong _ hlong => omega
    | name _ _ hfirst => exact h.unique hfirst

/-- What the system makes of a path as it is written. -/
private theorem checkPath_text_cases (path : PlainPath) :
    (checkPath path.text = .error .nullInPath ∧ '\x00' ∈ path.text.toList) ∨
      (checkPath path.text = .error .nameTooLong ∧ '\x00' ∉ path.text.toList ∧
        maxPath < path.text.utf8ByteSize) ∨
      (checkPath path.text = .ok () ∧ '\x00' ∉ path.text.toList ∧
        path.text.utf8ByteSize ≤ maxPath) := by
  rw [checkPath, if_neg path.text_ne_empty]
  by_cases hnull : '\x00' ∈ path.text.toList
  · rw [if_pos (List.contains_iff_mem.2 hnull)]
    exact .inl ⟨rfl, hnull⟩
  · rw [if_neg (mt List.contains_iff_mem.1 hnull)]
    by_cases hlong : maxPath < path.text.utf8ByteSize
    · rw [if_pos hlong]
      exact .inr (.inl ⟨rfl, hnull, hlong⟩)
    · rw [if_neg hlong]
      exact .inr (.inr ⟨rfl, hnull, Nat.le_of_not_lt hlong⟩)

/-- What comes of following a path that the system accepts as it is written. -/
theorem slot_text (hcheck : checkPath path.text = .ok ()) {front : List String} {last : String}
    (hnames : path.names = front ++ [last]) :
    tree.slot path.text = tree.descend (path.origin tree) front >>= tree.slotUnder last := by
  have hdots : isDots last = false := by
    refine (path.isPlainName last ?_).isDots
    rw [hnames]
    exact List.mem_append_right front List.mem_cons_self
  rw [slot, target, hcheck, namesOf_text, start_text, endsInSlash_text, hnames,
    List.getLast?_concat, List.dropLast_concat]
  cases tree.descend (path.origin tree) front with
  | error cause => rfl
  | ok here =>
    rcases hchild : tree.child? here last with failure | _ | _ | _ <;>
      simp only [bind, Except.bind, hdots, slotUnder, hchild, Bool.false_eq_true, if_false]

/-- **A file can be written at a path, or the path is refused.** It can be written if all names but
the last lead to directories and the last does not, and if nothing is too long for the system. -/
theorem slot_text_cases (path : PlainPath) (tree : FileTree) :
    (tree.slot path.text = .ok (path.location tree) ∧ path.IsWritable tree) ∨
      ∃ cause, tree.slot path.text = .error cause ∧ path.Refused tree cause ∧
        ¬ path.IsWritable tree := by
  obtain ⟨hcheck, hnull⟩ | ⟨hcheck, hnull, hlong⟩ | ⟨hcheck, hnull, hpath⟩ :=
    path.checkPath_text_cases
  · exact .inr ⟨_, slot_of_checkPath hcheck, .nullInPath hnull, fun h => h.null_notMem hnull⟩
  · exact .inr ⟨_, slot_of_checkPath hcheck, .pathTooLong hnull hlong,
      fun h => absurd h.path_le (Nat.not_le_of_lt hlong)⟩
  · have hnone := @forall_not_offendsAt_iff tree (path.origin tree) _ path.ne_nil
    have hnames := (List.dropLast_concat_getLast path.ne_nil).symm
    have hplain : ∀ name ∈ path.names.dropLast, IsPlainName name := fun name hname =>
      path.isPlainName name (List.dropLast_subset _ hname)
    have hfollow := @follow_cases tree _ (path.names.getLast path.ne_nil) (path.origin tree) hplain
    rw [slot_text hcheck hnames]
    rw [← hnames] at hfollow
    obtain ⟨hok, hfaultless⟩ | ⟨n, cause, herror, hfirst⟩ := hfollow
    · obtain ⟨hshort, hparents, hfree⟩ := hnone.1 hfaultless
      exact .inl ⟨hok, hnull, hpath, hshort, hparents, hfree⟩
    · refine .inr ⟨cause, herror, .name hnull hpath hfirst, fun h => ?_⟩
      exact hnone.2 ⟨h.name_le, h.parents, h.free⟩ n cause hfirst.offends

end PlainPath

end CompileCommands.FileTree
