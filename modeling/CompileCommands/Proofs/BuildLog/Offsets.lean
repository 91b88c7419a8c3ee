import CompileCommands.BuildLog.Progress
import CompileCommands.Proofs.Command.Segment

/-!
# Reading build logs by byte offset

A line of a build log may be read with byte offsets in place of places: the compiler is found at an
offset, the segment around it by going back over the bytes of the line, and chained commands are cut
off at an offset. Each of these steps cuts the line or the command at an offset, and such a cut
fails beyond the end or inside a character. No cut that is made in reading a log fails, whatever
characters the log holds, and so this way of reading agrees with the other one.

## Main definitions

* `unchainByOffset?`, `Compilation.byOffset?`: a command, and what a line compiles, by offset.
* `BuildLog.Line.byOffset?`, `BuildLog.recordsByOffset?`, `BuildLog.readBytesByOffset?`: reading a
  line, a log, and a log that comes as bytes, by offset.

## Main results

* `BuildLog.recordsByOffset?_eq`, `BuildLog.readBytesByOffset?_eq`: no cut fails.
* `BuildLog.cuts_between_characters`: when a segment can be found at an offset, and where it begins.
-/

namespace CompileCommands

open Text

/-- The command up to the offset of its first chaining operator. -/
def unchainByOffset? (command : List Char) : Option (List Char) :=
  match (Cursor.first? Chaining.isAt command).map Cursor.offset with
  | some stop => (takeBytes? command stop).map trim
  | none => some (trim command)

/-- The compilation that a line runs, every cut being made at an offset. The outer option is empty
if a cut fails. -/
def Compilation.byOffset? (line : List Char) : Option (Option Compilation) :=
  match (Compiler.find? line).map Cursor.offset with
  | some start => do
    let command ← segmentByOffset? line start
    match SourceName.find? command with
    | some file => do
      let unchained ← unchainByOffset? command
      some (some ⟨String.ofList file, String.ofList unchained⟩)
    | none => some none
  | none => some none

private theorem unchainByOffset?_eq (command : List Char) :
    unchainByOffset? command = some (unchain command) := by
  rw [unchainByOffset?, unchain]
  cases h : Cursor.first? Chaining.isAt command with
  | none => rfl
  | some place =>
    obtain rfl := Cursor.text_of_first? h
    rw [Option.map_some]
    dsimp only
    rw [takeBytes?_offset, Option.map_some]

/-- The segment around a place that is found in a line can be found at the offset of the place. -/
theorem segmentByOffset?_of_find? {line : List Char} {place : Cursor}
    (h : Compiler.find? line = some place) :
    segmentByOffset? line place.offset = some (segment place) := by
  rw [segmentByOffset?_eq, Cursor.at?_eq_some_iff.2 ⟨Cursor.text_of_first? h, rfl⟩, Option.map_some]

/-- No cut fails in finding the compilation of a line. -/
theorem Compilation.byOffset?_eq (line : List Char) :
    Compilation.byOffset? line = some (Compilation.ofLine? line) := by
  rw [Compilation.byOffset?, Compilation.ofLine?]
  cases hplace : Compiler.find? line with
  | none => rfl
  | some place =>
    simp only [Option.map_some, Option.bind_eq_bind, Option.bind_some,
      segmentByOffset?_of_find? hplace]
    cases SourceName.find? (segment place) with
    | none => rfl
    | some file =>
      simp only [unchainByOffset?_eq, Option.bind_some]

namespace BuildLog

/-- What a line says, every cut being made at an offset. -/
def Line.byOffset? (line : List Char) : Option Line :=
  match Announcement.ofLine? (trim line) with
  | some said => some (.announcement said)
  | none => do
    match ← Compilation.byOffset? (trim line) with
    | some compiled => some (.compilation compiled)
    | none => some .other

/-- The records of a log, every cut being made at an offset. -/
def recordsByOffset? (log : List Char) : Option (List Record) := do
  let said ← (lines log).mapM Line.byOffset?
  some (run {} said).records.toList

/-- Reading further lines of bytes, every cut being made at an offset. -/
def readLinesByOffset? (progress : Progress) : List (List UInt8) → Option Reading
  | [] => some ⟨progress.directories, some progress.records.toList⟩
  | bytes :: rest =>
    match decodeUtf8? bytes with
    | some line => do
      let said ← Line.byOffset? (withoutReturns line)
      readLinesByOffset? (progress.line said) rest
    | none => some ⟨progress.directories, none⟩

/-- Reading a log that comes as bytes, every cut being made at an offset. -/
def readBytesByOffset? (dirs : DirectoryStack) (bytes : List UInt8) : Option Reading :=
  readLinesByOffset? { directories := dirs } (byteLines bytes)

/-- No cut fails in reading a line. -/
theorem Line.byOffset?_eq (line : List Char) : Line.byOffset? line = some (Line.ofText line) := by
  rw [Line.byOffset?, Line.ofText, Line.ofTrimmed]
  cases Announcement.ofLine? (trim line) with
  | some said => rfl
  | none =>
    simp only [Compilation.byOffset?_eq, Option.bind_eq_bind, Option.bind_some]
    cases Compilation.ofLine? (trim line) <;> rfl

/-- No cut fails in reading a log. -/
theorem recordsByOffset?_eq (log : List Char) : recordsByOffset? log = some (records log) := by
  have hlines : (lines log).mapM Line.byOffset? = some ((lines log).map Line.ofText) := by
    rw [funext Line.byOffset?_eq]
    exact List.mapM_pure
  rw [recordsByOffset?, hlines]
  rfl

private theorem readLinesByOffset?_eq (progress : Progress) (pieces : List (List UInt8)) :
    readLinesByOffset? progress pieces = some (readLines progress pieces) := by
  induction pieces generalizing progress with
  | nil => rfl
  | cons bytes rest ih =>
    rw [readLinesByOffset?, readLines]
    cases decodeUtf8? bytes with
    | none => rfl
    | some line =>
      dsimp only
      rw [Line.byOffset?_eq, Option.bind_eq_bind, Option.bind_some, ih]

/-- No cut fails in reading a log that comes as bytes. -/
theorem readBytesByOffset?_eq (dirs : DirectoryStack) (bytes : List UInt8) :
    readBytesByOffset? dirs bytes = some (readBytes dirs bytes) :=
  readLinesByOffset?_eq _ _

/-- **Lines are cut between characters.** At an offset of a line a segment can be found exactly if
the offset is neither beyond the line nor inside a character. It is then the trimmed rest of the
line from the greatest index, up to the offset, at which the line has an opening quote or, where the
line is not quoted, behind a separator, and from the start if there is none. That index is a place
of the line, and the same segment is found by going back over places. No cut fails in reading a
line, a log, or a log that comes as bytes. -/
theorem cuts_between_characters :
    (∀ line start,
      (segmentByOffset? line start = none ↔ byteLength line < start ∨ IsInside line start) ∧
      (∀ command, segmentByOffset? line start = some command ↔
        ∃ place found : Cursor, place.text = line ∧ place.offset = start ∧ found.text = line ∧
          IsGreatest (Segment.beginnings place) found.offset ∧ command = trim found.after) ∧
      segmentByOffset? line start = (Cursor.at? line start).map segment) ∧
    (∀ line, Line.byOffset? line = some (Line.ofText line)) ∧
    (∀ log, recordsByOffset? log = some (records log)) ∧
    ∀ dirs bytes, readBytesByOffset? dirs bytes = some (readBytes dirs bytes) := by
  refine ⟨fun line start => ⟨?_, fun _ => segmentByOffset?_eq_some_iff,
    segmentByOffset?_eq line start⟩, Line.byOffset?_eq, recordsByOffset?_eq, readBytesByOffset?_eq⟩
  rw [segmentByOffset?_eq, Option.map_eq_none_iff, Cursor.at?_eq_none_iff]

end BuildLog

end CompileCommands
