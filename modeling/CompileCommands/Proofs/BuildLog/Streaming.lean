import CompileCommands.BuildLog.Progress
import CompileCommands.Proofs.Text.Utf8

/-!
# Logs that come as bytes

A log may be read from bytes, a line at a time, instead of being taken apart as a text. The two ways
agree. Reading bytes yields what the lines of their text yield, carriage returns left out, and it
may be done in parts wherever a line ends. It fails exactly if the bytes are not UTF-8, and then the
lines before the first malformed one have been gone through.

## Main definitions

* `BuildLog.feed`: what a line says once its carriage returns are left out.
* `BuildLog.Progress.reading`: a reading that has come to the end.

## Main results

* `BuildLog.readBytes_of_byteLines`, `BuildLog.readBytes_of_malformed`: the two outcomes of reading.
* `BuildLog.readBytes_eq_reading`: reading bytes and going through their text agree.
-/

namespace CompileCommands.BuildLog

open Text

/-- What a line says once its carriage returns are left out. -/
def feed (line : List Char) : Line :=
  Line.ofText (withoutReturns line)

/-- A reading that has come to the end of the log. -/
def Progress.reading (progress : Progress) : Reading :=
  ⟨progress.directories, some progress.records.toList⟩

/-- The records of a log are those of its pieces between line feeds. -/
theorem records_eq_run_feed (log : List Char) :
    records log = (run {} ((log.splitOn '\n').map feed)).records.toList := by
  rw [records, lines_eq_map, List.map_map]
  rfl

/-- Carriage returns that come or go anywhere leave the records as they are. -/
theorem records_eq_of_eqvGen {text edited : List Char}
    (h : Relation.EqvGen AddsReturn text edited) : records text = records edited := by
  rw [records, records, lines, lines, withoutReturns_eq_of_eqvGen h]

/-! ### Lines that can be read -/

private theorem readLines_map_encodeUtf8 (progress : Progress) (texts : List (List Char))
    (rest : List (List UInt8)) :
    readLines progress (texts.map encodeUtf8 ++ rest) =
      readLines ((texts.map feed).foldl Progress.line progress) rest := by
  induction texts generalizing progress with
  | nil => rfl
  | cons text texts ih =>
    rw [List.map_cons, List.cons_append, readLines, decodeUtf8?_encodeUtf8, List.map_cons,
      List.foldl_cons]
    exact ih _

/-- Bytes whose lines can all be read yield what the lines yield. -/
theorem readBytes_of_byteLines {bytes : List UInt8} {texts : List (List Char)}
    (h : byteLines bytes = texts.map encodeUtf8) (dirs : DirectoryStack) :
    readBytes dirs bytes = (run dirs (texts.map feed)).reading := by
  rw [readBytes, h, ← List.append_nil (texts.map encodeUtf8), readLines_map_encodeUtf8]
  rfl

/-- Bytes that can be read yield what the lines of their text yield. -/
theorem readBytes_of_decodeUtf8? {bytes : List UInt8} {text : List Char}
    (h : decodeUtf8? bytes = some text) (dirs : DirectoryStack) :
    readBytes dirs bytes = (run dirs ((text.splitOn '\n').map feed)).reading := by
  refine readBytes_of_byteLines ?_ dirs
  rw [decodeUtf8?_eq_some_iff.1 h, byteLines_encodeUtf8]

/-- Reading ends at the first line that cannot be read, and keeps the directories so far. -/
theorem readBytes_of_malformed {bytes bad : List UInt8} {texts : List (List Char)}
    {rest : List (List UInt8)} (h : byteLines bytes = texts.map encodeUtf8 ++ bad :: rest)
    (hbad : decodeUtf8? bad = none) (dirs : DirectoryStack) :
    readBytes dirs bytes = ⟨(run dirs (texts.map feed)).directories, none⟩ := by
  rw [readBytes, h, readLines_map_encodeUtf8, readLines, hbad]
  rfl

/-- Malformed bytes have a first line that cannot be read. -/
theorem exists_malformed_line {bytes : List UInt8} (h : decodeUtf8? bytes = none) :
    ∃ (texts : List (List Char)) (bad : List UInt8) (rest : List (List UInt8)),
      byteLines bytes = texts.map encodeUtf8 ++ bad :: rest ∧ decodeUtf8? bad = none := by
  obtain ⟨piece, hpiece, hnone⟩ := decodeUtf8?_eq_none_iff.1 h
  cases hfound : (byteLines bytes).find? (decodeUtf8? · |>.isNone) with
  | none => simpa [hnone] using List.find?_eq_none.1 hfound piece hpiece
  | some bad =>
    obtain ⟨hbad, front, rest, heq, hfront⟩ := List.find?_eq_some_iff_append.1 hfound
    have hread : ∀ other ∈ front, decodeUtf8? other ≠ none := by
      intro other hother hnone'
      simpa [hnone'] using hfront other hother
    obtain ⟨texts, rfl⟩ := exists_map_encodeUtf8 hread
    exact ⟨texts, bad, rest, heq, Option.isNone_iff_eq_none.1 hbad⟩

/-- Reading fails exactly if the bytes are not UTF-8. -/
theorem records?_readBytes_eq_none_iff {dirs : DirectoryStack} {bytes : List UInt8} :
    (readBytes dirs bytes).records? = none ↔ decodeUtf8? bytes = none := by
  constructor
  · intro hnone
    by_contra hsome
    obtain ⟨text, htext⟩ := Option.ne_none_iff_exists'.1 hsome
    rw [readBytes_of_decodeUtf8? htext] at hnone
    cases hnone
  · intro hnone
    obtain ⟨texts, bad, rest, hlines, hbad⟩ := exists_malformed_line hnone
    rw [readBytes_of_malformed hlines hbad]

/-! ### Reading in parts -/

theorem feed_nil : feed [] = .other := rfl

/-- The empty line after a final line feed changes nothing. -/
theorem reading_run_append_nil (dirs : DirectoryStack) (texts : List (List Char)) :
    (run dirs ((texts ++ [[]]).map feed)).reading = (run dirs (texts.map feed)).reading := by
  rw [List.map_append, Progress.reading, Progress.reading, directories_run_append,
    records_run_append, List.map_singleton, feed_nil, records_run_cons, records_run_nil,
    directories_run _ [Line.other]]
  exact congrArg (fun found => Reading.mk _ (some found)) (List.append_nil _)

/-- Bytes that can be read may be read in two parts, the first of which ends a line. -/
theorem readBytes_append_lineFeed {front back : List UInt8} {text : List Char}
    (h : decodeUtf8? (front ++ 10 :: back) = some text) (dirs : DirectoryStack) :
    ∃ first second,
      (readBytes dirs (front ++ [10])).records? = some first ∧
      (readBytes (readBytes dirs (front ++ [10])).directories back).records? = some second ∧
      readBytes dirs (front ++ 10 :: back) =
        ⟨(readBytes (readBytes dirs (front ++ [10])).directories back).directories,
          some (first ++ second)⟩ := by
  have hlines : byteLines (front ++ 10 :: back) = (text.splitOn '\n').map encodeUtf8 := by
    rw [decodeUtf8?_eq_some_iff.1 h, byteLines_encodeUtf8]
  have hparts := hlines
  rw [byteLines, List.splitOn_append_cons_self] at hparts
  obtain ⟨texts₁, texts₂, htexts, h₁, h₂⟩ := List.append_eq_map_iff.1 hparts
  have hfront : byteLines (front ++ [10]) = (texts₁ ++ [[]]).map encodeUtf8 := by
    rw [byteLines, List.splitOn_append_cons_self, ← h₁, List.map_append]
    rfl
  have hfirst : readBytes dirs (front ++ [10]) = (run dirs (texts₁.map feed)).reading := by
    rw [readBytes_of_byteLines hfront, reading_run_append_nil]
  have hsecond : readBytes (readBytes dirs (front ++ [10])).directories back =
      (run (run dirs (texts₁.map feed)).directories (texts₂.map feed)).reading := by
    rw [hfirst, readBytes_of_byteLines h₂.symm]
    rfl
  refine ⟨_, _, congrArg Reading.records? hfirst, congrArg Reading.records? hsecond, ?_⟩
  rw [readBytes_of_byteLines hlines, htexts, List.map_append, hsecond, Progress.reading,
    directories_run_append, records_run_append]
  rfl

/-- **Reading bytes and going through their text agree.** Carriage returns that come or go anywhere
leave the records as they are. From any directories, reading fails exactly if the bytes are not
UTF-8. If it succeeds, it yields what the lines of the text yield, and so does reading in two parts,
the first of which ends a line. If it fails, it has gone through the lines before the first
malformed one. -/
theorem readBytes_eq_reading :
    (∀ text edited, Relation.EqvGen AddsReturn text edited →
      (readBytes {} (encodeUtf8 edited)).records? = some (records text)) ∧
    ∀ (dirs : DirectoryStack) (bytes : List UInt8),
      ((readBytes dirs bytes).records? = none ↔ decodeUtf8? bytes = none) ∧
      (∀ text, decodeUtf8? bytes = some text →
        readBytes dirs bytes = (run dirs ((text.splitOn '\n').map feed)).reading ∧
        ∀ front back, bytes = front ++ 10 :: back →
          ∃ first second,
            (readBytes dirs (front ++ [10])).records? = some first ∧
            (readBytes (readBytes dirs (front ++ [10])).directories back).records? = some second ∧
            readBytes dirs bytes =
              ⟨(readBytes (readBytes dirs (front ++ [10])).directories back).directories,
                some (first ++ second)⟩) ∧
      (decodeUtf8? bytes = none →
        ∃ (texts : List (List Char)) (bad : List UInt8) (rest : List (List UInt8)),
          byteLines bytes = texts.map encodeUtf8 ++ bad :: rest ∧
          decodeUtf8? bad = none ∧
          (readBytes dirs bytes).directories = (run dirs (texts.map feed)).directories) := by
  refine ⟨fun text edited hedited => ?_, fun dirs bytes => ⟨records?_readBytes_eq_none_iff, ?_, ?_⟩⟩
  · rw [readBytes_of_decodeUtf8? (decodeUtf8?_encodeUtf8 edited), Progress.reading,
      ← records_eq_run_feed, records_eq_of_eqvGen hedited]
  · intro text htext
    refine ⟨readBytes_of_decodeUtf8? htext dirs, ?_⟩
    rintro front back rfl
    exact readBytes_append_lineFeed htext dirs
  · intro hnone
    obtain ⟨texts, bad, rest, hlines, hbad⟩ := exists_malformed_line hnone
    exact ⟨texts, bad, rest, hlines, hbad, by rw [readBytes_of_malformed hlines hbad]⟩

end CompileCommands.BuildLog
