import CompileCommands.Database.Printer
import CompileCommands.Database.Reader
import CompileCommands.Proofs.Json.Spelling
import CompileCommands.Proofs.Json.Values

/-!
# A written database is read back

A record is a JSON object of three quoted texts, and a database is the array of its records. The
lines of a database spell the tokens of that array, and from the array the records are read.

## Main definitions

* `Record.value`: the JSON value that a record is written as.

## Main results

* `Record.ofValue?_value`: the record is read from its value.
* `Database.spells_print`: a written database spells the array of its records.
* `Database.loadAll?_print`: reading undoes writing.
-/

namespace CompileCommands

open Json (Piece Spells Token Value quote spells_of_isSpace spells_of_ofChar? spells_quote)

/-! ### The value of a record -/

namespace Record

/-- The pieces that a written text is read as. -/
def pieces (text : String) : List Piece :=
  text.toList.map Piece.ofChar

/-- The JSON value that a record is written as. -/
def value (record : Record) : Value :=
  .object
    [(pieces "directory", .text (pieces record.directory)),
      (pieces "file", .text (pieces record.file)),
      (pieces "command", .text (pieces record.command))]

private theorem decode?_pieces (text : String) : Json.decode? (pieces text) = some text.toList :=
  Json.decode?_map_ofChar text.toList

private theorem textOf?_pieces (text : String) : textOf? (.text (pieces text)) = some text := by
  rw [textOf?, decode?_pieces, Option.map_some, String.ofList_toList]

/-- A record is read from the value that it is written as. -/
theorem ofValue?_value (record : Record) : ofValue? record.value = some record := by
  have hnamed : named? [(pieces "directory", .text (pieces record.directory)),
      (pieces "file", .text (pieces record.file)),
      (pieces "command", .text (pieces record.command))] =
      some [("directory".toList, .text (pieces record.directory)),
        ("file".toList, .text (pieces record.file)),
        ("command".toList, .text (pieces record.command))] := by
    simp [named?, decode?_pieces]
  rw [value, ofValue?, hnamed]
  simp [member?, textOf?_pieces]

end Record

namespace Database

/-! ### What the lines of a database spell -/

/-- A line spells the same with the line feed that closes it. -/
theorem spells_line {line : List Char} {tokens : List Token} (h : Spells line tokens) :
    Spells (line ++ ['\n']) tokens := by
  have hfeed : Spells ['\n'] [] := spells_of_isSpace rfl
  have hclosed := h.append hfeed
  rwa [List.append_nil] at hclosed

private theorem spells_member (key text : String) :
    Spells (member key text)
      [.text (Record.pieces key), .colon, .text (Record.pieces text)] := by
  have hindent : Spells "    ".toList [] := spells_of_isSpace rfl
  have hcolon : Spells [':'] [.colon] := spells_of_ofChar? rfl
  have hspace : Spells [' '] [] := spells_of_isSpace rfl
  exact ((hindent.append (spells_quote key.toList)).append (hcolon.append hspace)).append
    (spells_quote text.toList)

/-- The lines of a record spell its value and what its closing brace is followed by. -/
theorem spells_recordLines {ending : List Char} {tokens : List Token} (h : Spells ending tokens)
    (record : Record) :
    Spells ((recordLines ending record).flatMap (· ++ ['\n'])) (record.value.tokens ++ tokens) := by
  have hindent : Spells "  ".toList [] := spells_of_isSpace rfl
  have hopen : Spells ['\x7b'] [.openObject] := spells_of_ofChar? rfl
  have hclose : Spells ['\x7d'] [.closeObject] := spells_of_ofChar? rfl
  have hcomma : Spells [','] [.comma] := spells_of_ofChar? rfl
  have hdirectory := (spells_member "directory" record.directory).append hcomma
  have hfile := (spells_member "file" record.file).append hcomma
  have hcommand := spells_member "command" record.command
  have hend : Spells ("  \x7d".toList ++ ending ++ ['\n'] ++ []) (.closeObject :: tokens) := by
    rw [List.append_nil]
    exact spells_line ((hindent.append hclose).append h)
  exact (spells_line (hindent.append hopen)).append
    ((spells_line hdirectory).append
      ((spells_line hfile).append
        ((spells_line hcommand).append hend)))

/-- The lines of a sequence of records spell their values with commas between them. -/
theorem spells_recordsLines (record : Record) (records : List Record) :
    Spells ((recordsLines (record :: records)).flatMap (· ++ ['\n']))
      (record.value.tokens ++ Value.laterItems (records.map Record.value)) := by
  induction records generalizing record with
  | nil => exact spells_recordLines Spells.nil record
  | cons next records ih =>
    have hcomma : Spells [','] [.comma] := spells_of_ofChar? rfl
    have hall := (spells_recordLines hcomma record).append (ih next)
    rw [← List.flatMap_append, List.append_assoc] at hall
    exact hall

/-- A written database spells the array of its records. -/
theorem spells_print (database : Database) :
    Spells database.print.toList (Value.array (database.records.map Record.value)).tokens := by
  have hopen : Spells ['['] [.openArray] := spells_of_ofChar? rfl
  have hclose : Spells [']'] [.closeArray] := spells_of_ofChar? rfl
  rw [print, String.toList_ofList, lines]
  rcases database with ⟨_ | ⟨record, records⟩⟩
  · exact (spells_line (hopen.append hclose)).append Spells.nil
  · have hlast := (spells_line hclose).append Spells.nil
    have hall := ((spells_line hopen).append (spells_recordsLines record records)).append hlast
    rw [List.flatMap_append, List.flatMap_append]
    exact hall

/-- **Reading undoes writing.** From a written database exactly its records are read, in their
order, whatever texts they are made of. -/
theorem loadAll?_print (records : List Record) :
    Record.loadAll? (print ⟨records⟩) = some records := by
  have hparse : Json.parse? (print ⟨records⟩).toList =
      some (.array (records.map Record.value)) := by
    rw [Json.parse?, (spells_print ⟨records⟩).tokens?_eq]
    exact Value.ofTokens?_tokens _
  have hread : Record.ofValue? ∘ Record.value = some := by
    funext record
    exact Record.ofValue?_value record
  rw [Record.loadAll?, hparse]
  show (records.map Record.value).mapM Record.ofValue? = some records
  rw [List.mapM_map, hread]
  exact (List.mapM_pure (m := Option) (f := id)).trans (congrArg some records.map_id)

end Database

end CompileCommands
