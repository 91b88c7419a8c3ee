import CompileCommands.Proofs.Files.Paths
import CompileCommands.Proofs.Program.Stages

/-!
# Delivering a database to a file

A database goes to the file of a path if every directory above the file is there and no directory
stands in its place. The file then holds the database and nothing else, whatever it held before, and
nothing else in the tree has changed. Otherwise the tree is as it was, and the failure names the
path as it was given and the first thing that is wrong with it. All this is about files: a device
keeps nothing of what is written to it.

## Main results

* `Workspace.put_text_cases`: a file is replaced, or its path is refused.
* `Program.replaces_file_or_refuses`: what writing a database to a file does.
-/

namespace CompileCommands

open FileTree (PlainPath)

/-- A database can be put at a path, and its file is then replaced, or the path is refused. -/
theorem Workspace.put_text_cases (database : Database) {workspace : Workspace} {path : PlainPath}
    (hdevice : workspace.device? path.text = none) :
    (∃ files, workspace.put database (.file path.text) = (.ok (), { workspace with files }) ∧
        path.IsWritable workspace.files ∧
        workspace.files.Overwrites files path.text (path.location workspace.files)
          database.print.toUTF8.data.toList) ∨
      ∃ cause, workspace.put database (.file path.text) =
          (.error (.file path.text cause), workspace) ∧
        path.Refused workspace.files cause ∧ ¬ path.IsWritable workspace.files := by
  have hwrite := workspace.files.write_eq_map_slot path.text database.print.toUTF8.data.toList
  obtain ⟨hslot, hwritable⟩ | ⟨cause, hslot, hrefused, hnot⟩ := path.slot_text_cases workspace.files
  · rw [hslot] at hwrite
    obtain ⟨location, hoverwrites⟩ := FileTree.overwrites_of_write hwrite
    obtain rfl : path.location workspace.files = location :=
      Option.some_inj.1 ((FileTree.location?_of_slot hslot).symm.trans hoverwrites.leads)
    refine .inl ⟨_, ?_, hwritable, hoverwrites⟩
    rw [put, deliver, store, hwrite, hdevice]
    rfl
  · rw [hslot] at hwrite
    refine .inr ⟨cause, ?_, hrefused, hnot⟩
    rw [put, deliver, store, hwrite]
    rfl

namespace Program

/-- **A database replaces a file or is refused.** It is written if every directory above the file is
there, no directory stands in its place, and nothing about the path is too long for the system. All
that changes in the tree is then this one file, which holds exactly the database. Otherwise nothing
changes, and the failure names the path and the first thing that is wrong with it. The path leads to
no device, so that what is written is kept. -/
theorem replaces_file_or_refuses (database : Database) (workspace : Workspace) (path : PlainPath)
    (hdevice : workspace.device? path.text = none) :
    ((evaluate (writeDatabase database (.file path.text)) workspace).1 = .ok () ↔
        path.IsWritable workspace.files) ∧
      (∀ after, evaluate (writeDatabase database (.file path.text)) workspace = (.ok (), after) →
        workspace.files.Overwrites after.files path.text (path.location workspace.files)
          database.print.toUTF8.data.toList) ∧
      ∀ failure after,
        evaluate (writeDatabase database (.file path.text)) workspace = (.error failure, after) →
        after = workspace ∧ ∃ cause, failure = .file path.text cause ∧
          ∀ other, path.Refused workspace.files other ↔ other = cause := by
  rw [evaluate_writeDatabase]
  obtain ⟨files, hput, hwritable, hoverwrites⟩ | ⟨cause, hput, hrefused, hnot⟩ :=
    Workspace.put_text_cases database hdevice
  · rw [hput]
    refine ⟨⟨fun _ => hwritable, fun _ => rfl⟩, fun _ h => ?_, fun _ _ h => ?_⟩
    · cases h
      exact hoverwrites
    · cases h
  · rw [hput]
    refine ⟨⟨fun h => ?_, fun h => absurd h hnot⟩, fun _ h => ?_, fun _ _ h => ?_⟩
    · cases h
    · cases h
    · cases h
      refine ⟨rfl, cause, rfl, fun other => ⟨fun hother => hother.unique hrefused, ?_⟩⟩
      rintro rfl
      exact hrefused

/-- The path of a file in a directory. -/
def outPath : PlainPath where
  absolute := false
  names := ["d", "out"]
  ne_nil := List.cons_ne_nil _ _
  isPlainName := List.forall_mem_cons.2 ⟨⟨by decide, by decide, by decide⟩,
    List.forall_mem_singleton.2 ⟨by decide, by decide, by decide⟩⟩

/-- A longer file makes way for a database, and what stood beside it stays. -/
theorem replaces_longer_file :
    let before : Workspace := { files := { entries :=
      [(["d"], .directory), (["d", "out"], .file (List.replicate 9 32)), (["e"], .file [])] } }
    before.device? "d/out" = none ∧
      (evaluate (writeDatabase ⟨[]⟩ (.file "d/out")) before).1 = .ok () ∧
      ∀ after, evaluate (writeDatabase ⟨[]⟩ (.file "d/out")) before = (.ok (), after) →
        after.files.lookup? ["d", "out"] = some (.file "[]\n".toUTF8.data.toList) ∧
        after.files.lookup? ["e"] = some (.file []) := by
  intro before
  have htext : outPath.text = "d/out" := by decide
  have hdevice : before.device? outPath.text = none := by decide
  obtain ⟨hok, hreplaces, -⟩ := replaces_file_or_refuses ⟨[]⟩ before outPath hdevice
  rw [htext] at hdevice hok hreplaces
  have hwritable : outPath.IsWritable before.files := by
    refine ⟨by decide, by decide, by decide, fun n hn => ?_, by decide⟩
    obtain rfl : n = 0 := Nat.lt_one_iff.1 (Nat.lt_of_succ_lt_succ hn)
    decide
  exact ⟨hdevice, hok.2 hwritable, fun after h =>
    ⟨(hreplaces after h).stands, (hreplaces after h).frame ["e"] (by decide)⟩⟩

/-- A path of one name, which is longer than the system allows. -/
def longName : PlainPath where
  absolute := false
  names := [String.ofList (List.replicate 256 'a')]
  ne_nil := List.cons_ne_nil _ _
  isPlainName := by
    have hne (text : String) (h : text.length < 256) :
        String.ofList (List.replicate 256 'a') ≠ text := by
      rintro rfl
      rw [String.length_ofList, List.length_replicate] at h
      exact Nat.lt_irrefl 256 h
    refine List.forall_mem_singleton.2 ⟨hne "" (by decide), ?_, ?_⟩
    · rw [String.toList_ofList, List.mem_replicate]
      decide
    · rw [FileTree.isDots, beq_eq_false_iff_ne.2 (hne "." (by decide)),
        beq_eq_false_iff_ne.2 (hne ".." (by decide))]
      rfl

/-- A path may be refused although every directory is there and none stands in its place. -/
theorem refuses_long_name :
    (∀ n, n + 1 < longName.names.length →
        ({} : FileTree).lookup? (longName.origin {} ++ longName.names.take (n + 1)) =
          some .directory) ∧
      ({} : FileTree).lookup? (longName.location {}) ≠ some .directory ∧
      evaluate (writeDatabase ⟨[]⟩ (.file longName.text)) {} =
        (.error (.file longName.text .nameTooLong), {}) := by
  have htext : longName.text = String.ofList (List.replicate 256 'a') := String.empty_append
  have hsize : (String.ofList (List.replicate 256 'a')).utf8ByteSize = 256 := by
    decide +kernel
  have hrefused : longName.Refused {} .nameTooLong := by
    refine .name ?_ ?_ (FileTree.IsFault.nameTooLong ?_).offendsFirst
    · rw [htext, String.toList_ofList, List.mem_replicate]
      decide
    · rw [htext, hsize]
      decide
    · rw [hsize]
      decide
  refine ⟨fun n hn => absurd (Nat.lt_of_succ_lt_succ hn) (Nat.not_lt_zero n), ?_, ?_⟩
  · rintro ⟨⟩
  have hdevice : ({} : Workspace).device? longName.text = none := by
    rw [Workspace.device?]
    exact Option.bind_eq_none_iff.2 fun _ _ => rfl
  obtain ⟨_, _, hwritable, _⟩ | ⟨cause, hput, hcause, _⟩ :=
    Workspace.put_text_cases ⟨[]⟩ hdevice
  · have hle := hwritable.name_le _ List.mem_cons_self
    rw [hsize] at hle
    exact absurd hle (by decide)
  · rw [evaluate_writeDatabase, hput, hcause.unique hrefused]

end Program

end CompileCommands
