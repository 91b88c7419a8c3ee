import CompileCommands.Database.Printer
import CompileCommands.Proofs.Json.Escapes
import CompileCommands.Proofs.Text.Lines

/-!
# The layout of a printed database

A database is printed in lines, and nothing that the texts of its records hold has a say in where
these lines end. The lines of a record are five: its opening brace, its members, each on a line of
its own, and its closing brace. Between its quotes the text of a member is escaped, so that it holds
no line feed and no quote that could end it.

Where a text stands in the printed database therefore depends on the place of its record alone. The
lines are counted here as a reader of the database counts them, by its line feeds.

## Main definitions

* `Database.IsMemberLine`: a line with a member of a record.
* `Database.IsRecordBlock`: the lines of a record.
* `Database.IsLaidOut`: a text with the lines of all records and of the brackets around them.

## Main results

* `Database.splitOn_print`: a database is split into the lines that it was made of.
* `Database.isLaidOut_print`: a database is printed in this layout, whatever texts it holds.
-/

namespace CompileCommands

namespace Database

/-! ### The layout -/

/-- A line with a member of a record, given what follows the member. The text is written between two
quotes, and reading it ends at the second one, whatever stands behind. -/
inductive IsMemberLine (key text : String) (ending : List Char) : List Char → Prop
  | mk {pieces : List Json.Piece} {content : List Char} (htext : Json.MakesUp pieces text.toList)
      (hcontent : Json.Content pieces content)
      (hends : ∀ rest, Json.readQuoted? (content ++ '"' :: rest) = some (pieces, rest)) :
      IsMemberLine key text ending
        ("    \"".toList ++ key.toList ++ "\": \"".toList ++ content ++ '"' :: ending)

/-- The lines of a record, given what follows its closing brace. -/
inductive IsRecordBlock (record : Record) (ending : List Char) : List (List Char) → Prop
  | mk {directory file command : List Char}
      (hdirectory : IsMemberLine "directory" record.directory [','] directory)
      (hfile : IsMemberLine "file" record.file [','] file)
      (hcommand : IsMemberLine "command" record.command [] command) :
      IsRecordBlock record ending
        ["  \x7b".toList, directory, file, command, "  \x7d".toList ++ ending]

/-- A text with the lines of all records. -/
structure IsLaidOut (records : List Record) (text : List Char) : Prop where
  /-- There are no control characters but line feeds. -/
  eq_lineFeed : ∀ c ∈ text, c.toNat < 0x20 → c = '\n'
  /-- One line feed ends the text, and no more than one. -/
  ends : ∃ front last, text = front ++ [last, '\n'] ∧ last ≠ '\n'
  /-- The line feeds depend on the number of the records alone. -/
  count : text.count '\n' = if records = [] then 1 else 5 * records.length + 2
  /-- Without records, both brackets stand in one line. -/
  empty : records = [] → text = ['[', ']', '\n']
  /-- Otherwise the opening bracket is the first line. -/
  opening : records ≠ [] → (text.splitOn '\n').head? = some ['[']
  /-- The closing bracket stands in a line behind those of all records, and nothing stands behind
  it. -/
  closing : records ≠ [] → (text.splitOn '\n').drop (5 * records.length + 1) = [[']'], []]
  /-- Each record has five lines, with a comma at their end unless the record is the last one. -/
  block : ∀ i record, records[i]? = some record →
    IsRecordBlock record (if i + 1 < records.length then [','] else [])
      (((text.splitOn '\n').drop (5 * i + 1)).take 5)

/-! ### One record -/

private theorem isMemberLine_member (key text : String) (ending : List Char)
    (hkey : key.toList.flatMap Json.escape = key.toList) :
    IsMemberLine key text ending (member key text ++ ending) := by
  obtain ⟨pieces, htext, hcontent⟩ := Json.writes_flatMap_escape text.toList
  have hline := @IsMemberLine.mk key text ending _ _ htext hcontent
    (Json.readQuoted?_of_content hcontent)
  rw [member, Json.quote, Json.quote, hkey]
  simpa using hline

private theorem isRecordBlock_recordLines (record : Record) (ending : List Char) :
    IsRecordBlock record ending (recordLines ending record) := by
  have hcommand := isMemberLine_member "command" record.command [] rfl
  rw [List.append_nil] at hcommand
  exact .mk (isMemberLine_member _ _ _ rfl) (isMemberLine_member _ _ _ rfl) hcommand

private theorem IsMemberLine.space_le {key text : String} {ending line : List Char}
    (h : IsMemberLine key text ending line) (hkey : ∀ c ∈ key.toList, 0x20 ≤ c.toNat)
    (hending : ∀ c ∈ ending, 0x20 ≤ c.toNat) : ∀ c ∈ line, 0x20 ≤ c.toNat := by
  obtain ⟨_, hcontent, _⟩ := h
  have hopen : ∀ c ∈ "    \"".toList, 0x20 ≤ c.toNat := by simp
  have hcolon : ∀ c ∈ "\": \"".toList, 0x20 ≤ c.toNat := by simp
  have hquote : 0x20 ≤ '"'.toNat := by decide
  simp only [List.forall_mem_append, List.forall_mem_cons]
  exact ⟨⟨⟨⟨hopen, hkey⟩, hcolon⟩, hcontent.space_le⟩, hquote, hending⟩

/-- There are no control characters in the lines of a record. -/
theorem IsRecordBlock.space_le {record : Record} {ending : List Char} {lines : List (List Char)}
    (h : IsRecordBlock record ending lines) (hending : ∀ c ∈ ending, 0x20 ≤ c.toNat) :
    ∀ line ∈ lines, ∀ c ∈ line, 0x20 ≤ c.toNat := by
  obtain ⟨hdirectory, hfile, hcommand⟩ := h
  have hbraces : ∀ brace ∈ ["  \x7b".toList, "  \x7d".toList], ∀ c ∈ brace, 0x20 ≤ c.toNat := by
    simp
  simp only [List.forall_mem_cons, List.forall_mem_append] at hbraces ⊢
  exact ⟨hbraces.1, hdirectory.space_le (by simp) (by simp),
    hfile.space_le (by simp) (by simp), hcommand.space_le (by simp) (by simp),
    ⟨hbraces.2.1, hending⟩, fun _ hmem => absurd hmem List.not_mem_nil⟩

/-! ### All records -/

private theorem recordsLines_cons (first : Record) (records : List Record) :
    recordsLines (first :: records) =
      recordLines (if 1 < (first :: records).length then [','] else []) first ++
        recordsLines records := by
  cases records with
  | nil => rfl
  | cons next records =>
    rw [recordsLines, if_pos (by simp)]
    exact List.cons_ne_nil next records

/-- The lines of the record at a position are found by counting. -/
private theorem take_drop_recordsLines {records : List Record} {i : Nat} {record : Record}
    (h : records[i]? = some record) : ((recordsLines records).drop (5 * i)).take 5 =
      recordLines (if i + 1 < records.length then [','] else []) record := by
  induction records generalizing i with
  | nil => cases h
  | cons first records ih =>
    rw [recordsLines_cons]
    cases i with
    | zero =>
      cases h
      rfl
    | succ i =>
      have hcomma : i + 1 + 1 < (first :: records).length ↔ i + 1 < records.length := by
        rw [List.length_cons, Nat.add_lt_add_iff_right]
      have hfive : 5 * (i + 1) = 5 + 5 * i := by omega
      simp only [hcomma]
      rw [hfive, ← List.drop_drop]
      exact ih h

/-- There are no control characters in the lines of records. -/
private theorem space_le_of_mem_recordsLines (records : List Record) :
    ∀ line ∈ recordsLines records, ∀ c ∈ line, 0x20 ≤ c.toNat := by
  induction records with
  | nil => exact fun _ hline => absurd hline List.not_mem_nil
  | cons first records ih =>
    rw [recordsLines_cons, List.forall_mem_append]
    refine ⟨(isRecordBlock_recordLines first _).space_le ?_, ih⟩
    split <;> simp

/-- There are no control characters in the lines of a database. -/
theorem space_le_of_mem_lines (database : Database) :
    ∀ line ∈ database.lines, ∀ c ∈ line, 0x20 ≤ c.toNat := by
  rw [lines]
  split
  · simp
  · simp only [List.forall_mem_append]
    exact ⟨⟨by simp, space_le_of_mem_recordsLines _⟩, by simp⟩

/-- The lines of a database hold no line feeds. -/
theorem lineFeed_notMem_of_mem_lines (database : Database) :
    ∀ line ∈ database.lines, '\n' ∉ line := by
  intro line hline hfeed
  exact absurd (space_le_of_mem_lines database line hline '\n' hfeed) (by decide)

theorem lines_eq {database : Database} (h : database.records ≠ []) :
    database.lines = ['['] :: (recordsLines database.records ++ [[']']]) := by
  rw [lines]
  split
  next heq => exact absurd heq h
  next => rfl

theorem toList_print (database : Database) :
    database.print.toList = database.lines.flatMap (· ++ ['\n']) := by
  rw [print, String.toList_ofList]

/-- The text of a database is split into its lines. -/
theorem splitOn_print (database : Database) :
    database.print.toList.splitOn '\n' = database.lines ++ [[]] := by
  rw [toList_print]
  exact Text.splitOn_flatMap_lineFeed (lineFeed_notMem_of_mem_lines database)

private theorem eq_lineFeed_of_mem_print {database : Database} {c : Char}
    (hc : c ∈ database.print.toList) (hcontrol : c.toNat < 0x20) : c = '\n' := by
  rw [toList_print, List.mem_flatMap] at hc
  obtain ⟨line, hline, hc⟩ := hc
  rcases List.mem_append.1 hc with hc | hc
  · exact absurd hcontrol (Nat.not_lt.2 (space_le_of_mem_lines database line hline c hc))
  · exact List.mem_singleton.1 hc

/-- The text of a database ends with a bracket and a line feed. -/
private theorem exists_print_eq_append (database : Database) :
    ∃ front, database.print.toList = front ++ [']', '\n'] := by
  rw [toList_print]
  by_cases h : database.records = []
  · rw [lines, h]
    exact ⟨['['], rfl⟩
  · rw [lines_eq h, ← List.cons_append, List.flatMap_append]
    exact ⟨_, rfl⟩

/-- The lines of the record at a position are found in the text by counting. -/
theorem take_drop_splitOn_print {database : Database} {i : Nat} {record : Record}
    (h : database.records[i]? = some record) :
    ((database.print.toList.splitOn '\n').drop (5 * i + 1)).take 5 =
      recordLines (if i + 1 < database.records.length then [','] else []) record := by
  have hne : database.records ≠ [] := by
    intro hnil
    rw [hnil] at h
    cases h
  have hlt : i < database.records.length := (List.getElem?_eq_some_iff.1 h).1
  have hlength := length_recordsLines database.records
  have hbefore : 5 * i ≤ (recordsLines database.records).length := by omega
  have hwithin : 5 ≤ ((recordsLines database.records).drop (5 * i)).length := by
    rw [List.length_drop]
    omega
  rw [splitOn_print, lines_eq hne, List.cons_append, List.drop_succ_cons, List.append_assoc,
    List.drop_append_of_le_length hbefore, List.take_append_of_le_length hwithin,
    take_drop_recordsLines h]

/-- **A database is printed in this layout, whatever texts it holds.** -/
theorem isLaidOut_print (database : Database) :
    IsLaidOut database.records database.print.toList where
  eq_lineFeed c := eq_lineFeed_of_mem_print
  ends := by
    obtain ⟨front, hprint⟩ := exists_print_eq_append database
    exact ⟨front, ']', hprint, by decide⟩
  count := by
    rw [toList_print, Text.count_flatMap_lineFeed (lineFeed_notMem_of_mem_lines database)]
    split
    next h =>
      rw [lines, h]
      rfl
    next h => exact length_lines h
  empty h := by
    rw [toList_print, lines, h]
    rfl
  opening h := by
    rw [splitOn_print, lines_eq h]
    rfl
  closing h := by
    rw [splitOn_print, lines_eq h, List.cons_append, List.drop_succ_cons, List.append_assoc,
      ← length_recordsLines, List.drop_left]
    rfl
  block i record h := by
    rw [take_drop_splitOn_print h]
    exact isRecordBlock_recordLines record _

/-- Quotes and line feeds in a record make no line more. -/
theorem isRecordBlock_of_quotes :
    let record : Record := ⟨"/w", "a\".c", "cc \\\n\"a\\\".c\",\n"⟩
    let lines := (print ⟨[record, record]⟩).toList.splitOn '\n'
    IsRecordBlock record [','] ((lines.drop 1).take 5) ∧
      IsRecordBlock record [] ((lines.drop 6).take 5) ∧ lines.drop 11 = [[']'], []] := by
  intro record lines
  have hlaid := isLaidOut_print ⟨[record, record]⟩
  exact ⟨hlaid.block 0 record rfl, hlaid.block 1 record rfl, hlaid.closing (List.cons_ne_nil _ _)⟩

end Database

end CompileCommands
