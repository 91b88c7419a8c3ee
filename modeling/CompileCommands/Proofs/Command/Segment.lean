import CompileCommands.Command.Segment
import CompileCommands.Proofs.Text.Offsets

/-!
# Where a segment begins

The segment around a place begins at the nearest byte to the left that begins one: an opening quote
if the line is quoted, and the byte behind a separator otherwise. It may be looked for among the
bytes of the line, an index at a time. The bytes in question are those of ASCII characters, so the
index that is found lies between two characters, and the line may be cut there.

Going by bytes can fail in three ways: the line is cut at an offset beyond its end or inside a
character, or a byte is looked at beyond the end. Of these only the first cut, at the offset that is
given, can fail.

## Main definitions

* `Segment.openings`, `Segment.separated`: the indices at which a segment may begin.
* `Segment.beginnings`: those that come into question for a place, and the start.
* `indexBack?`: the nearest index to the left that satisfies a condition.
* `segmentByOffset?`: the segment at a byte offset, found by going back over bytes.

## Main results

* `Segment.isGreatest_begin`: a segment begins at the greatest index that comes into question.
* `segmentByOffset?_eq`: going back over bytes finds the segment around the place.
-/

namespace CompileCommands

open Text

namespace Segment

/-! ### The bytes at which a segment begins -/

/-- The indices at which a double quote stands with no backslash in front of it. -/
def openings (bytes : List UInt8) : Set Nat :=
  {i | bytes[i]? = some '"'.toUInt8 ∧ ¬ ∃ j, i = j + 1 ∧ bytes[j]? = some '\\'.toUInt8}

/-- The indices in front of which a separator stands. -/
def separated (bytes : List UInt8) : Set Nat :=
  {i | ∃ c, isSeparator c = true ∧ ∃ j, i = j + 1 ∧ bytes[j]? = some c.toUInt8}

/-- The indices that come into question for the beginning of the segment around a place, and the
start of the line. -/
def beginnings (place : Cursor) : Set Nat :=
  insert 0 {i | i ≤ place.offset ∧
    i ∈ if isQuoted place then openings (encodeUtf8 place.text)
      else separated (encodeUtf8 place.text)}

/-- Separators are ASCII characters. -/
theorem toNat_lt_of_isSeparator {c : Char} (h : isSeparator c = true) : c.toNat < 0x80 := by
  simp only [isSeparator, Bool.or_eq_true, beq_iff_eq] at h
  rcases h with (((rfl | rfl) | rfl) | rfl) | rfl <;> decide

private theorem offset_mem_openings {place : Cursor} :
    place.offset ∈ openings (encodeUtf8 place.text) ↔ isOpening place = true := by
  rw [openings, Set.mem_ofPred_eq, Cursor.getElem?_offset_iff (by decide),
    Cursor.getElem?_pred_offset_iff (by decide), isOpening, Bool.and_eq_true, beq_iff_eq,
    bne_iff_ne]

private theorem offset_mem_separated {place : Cursor} :
    place.offset ∈ separated (encodeUtf8 place.text) ↔ isBehindSeparator place = true := by
  rw [isBehindSeparator, Option.any_eq_true]
  constructor
  · rintro ⟨c, hc, hbyte⟩
    exact ⟨c, (Cursor.getElem?_pred_offset_iff (toNat_lt_of_isSeparator hc)).1 hbyte, hc⟩
  · rintro ⟨c, hhead, hc⟩
    exact ⟨c, hc, (Cursor.getElem?_pred_offset_iff (toNat_lt_of_isSeparator hc)).2 hhead⟩

/-- A quote opens at the places in front of an opening quote. -/
private theorem mem_openings_iff {text : List Char} {i : Nat} :
    i ∈ openings (encodeUtf8 text) ↔
      ∃ place : Cursor, place.text = text ∧ place.offset = i ∧ isOpening place = true := by
  constructor
  · intro hi
    obtain ⟨before, after, rfl, rfl, -⟩ := Cursor.exists_of_getElem? (by decide) hi.1
    exact ⟨_, rfl, rfl, offset_mem_openings.1 hi⟩
  · rintro ⟨place, rfl, rfl, hplace⟩
    exact offset_mem_openings.2 hplace

/-- A separator ends at the places behind one. -/
private theorem mem_separated_iff {text : List Char} {i : Nat} :
    i ∈ separated (encodeUtf8 text) ↔
      ∃ place : Cursor, place.text = text ∧ place.offset = i ∧ isBehindSeparator place = true := by
  constructor
  · rintro hi
    obtain ⟨c, hc, j, rfl, hbyte⟩ := id hi
    obtain ⟨before, after, htext, -, hoffset⟩ :=
      Cursor.exists_of_getElem? (toNat_lt_of_isSeparator hc) hbyte
    rw [← Cursor.text_mk_cons] at htext
    rw [← htext, ← hoffset] at hi
    exact ⟨_, htext, hoffset, offset_mem_separated.1 hi⟩
  · rintro ⟨place, rfl, rfl, hplace⟩
    exact offset_mem_separated.2 hplace

/-- A segment begins at the greatest index that comes into question. -/
theorem isGreatest_begin (place : Cursor) :
    IsGreatest (beginnings place) (begin place).offset := by
  have h := Cursor.isGreatest_last? (if isQuoted place then isOpening else isBehindSeparator) place
  rw [beginnings, begin]
  cases hquoted : isQuoted place with
  | true => simpa only [hquoted, if_true, mem_openings_iff] using h
  | false => simpa only [hquoted, Bool.false_eq_true, if_false, mem_separated_iff] using h

end Segment

/-! ### Going back over bytes -/

/-- The nearest index, from the given one to the left, that satisfies the condition, and the start
if there is none. Fails where the condition cannot be checked. -/
def indexBack? (stops? : Nat → Option Bool) : Nat → Option Nat
  | 0 => some 0
  | i + 1 => do
    if ← stops? (i + 1) then some (i + 1) else indexBack? stops? i

/-- Where the condition can be checked at every index, the greatest index that satisfies it is
found. -/
private theorem exists_indexBack?_eq {stops? : Nat → Option Bool} {s : Set Nat} {n : Nat}
    (h : ∀ i, 0 < i → i ≤ n → ∃ stops, stops? i = some stops ∧ (stops = true ↔ i ∈ s)) :
    ∃ i, indexBack? stops? n = some i ∧ IsGreatest (insert 0 {j | j ≤ n ∧ j ∈ s}) i := by
  induction n with
  | zero =>
    refine ⟨0, rfl, Set.mem_insert _ _, ?_⟩
    rintro _ (rfl | ⟨hle, -⟩)
    · exact Nat.le_refl 0
    · exact hle
  | succ n ih =>
    obtain ⟨stops, hstops, hmem⟩ := h (n + 1) (Nat.succ_pos n) (Nat.le_refl _)
    rw [indexBack?, hstops, Option.bind_eq_bind, Option.bind_some]
    cases stops with
    | true =>
      refine ⟨n + 1, rfl, .inr ⟨Nat.le_refl _, hmem.1 rfl⟩, ?_⟩
      rintro _ (rfl | ⟨hle, -⟩)
      · exact Nat.zero_le _
      · exact hle
    | false =>
      obtain ⟨i, hi, hgreatest⟩ := ih fun j hpos hle => h j hpos (Nat.le_succ_of_le hle)
      refine ⟨i, hi, Set.insert_subset_insert ?_ hgreatest.1, ?_⟩
      · exact fun j hj => ⟨Nat.le_succ_of_le hj.1, hj.2⟩
      · rintro j (rfl | ⟨hle, hj⟩)
        · exact Nat.zero_le _
        · have hne : j ≠ n + 1 := by
            rintro rfl
            exact Bool.false_ne_true (hmem.2 hj)
          exact hgreatest.2 (.inr ⟨by omega, hj⟩)

namespace Segment

/-- The byte is that of a separator. -/
def isSeparatorByte (byte : UInt8) : Bool :=
  [' ', '\t', '\n', ';', '&'].any (·.toUInt8 == byte)

/-- Whether an opening quote stands at an index. -/
def opensAt? (bytes : List UInt8) (i : Nat) : Option Bool := do
  let byte ← bytes[i]?
  let previous ← bytes[i - 1]?
  some (byte == '"'.toUInt8 && previous != '\\'.toUInt8)

/-- Whether a separator stands in front of an index. -/
def separatedAt? (bytes : List UInt8) (i : Nat) : Option Bool := do
  let previous ← bytes[i - 1]?
  some (isSeparatorByte previous)

private theorem isSeparatorByte_iff {byte : UInt8} :
    isSeparatorByte byte = true ↔ ∃ c, isSeparator c = true ∧ byte = c.toUInt8 := by
  have hmem : ∀ c, c ∈ [' ', '\t', '\n', ';', '&'] ↔ isSeparator c = true := by
    simp [isSeparator, or_assoc]
  simp only [isSeparatorByte, List.any_eq_true, hmem, beq_iff_eq]
  exact exists_congr fun c => and_congr_right' eq_comm

variable {bytes : List UInt8} {i : Nat}

private theorem exists_opensAt?_eq (hpos : 0 < i) (hlt : i < bytes.length) :
    ∃ opens, opensAt? bytes i = some opens ∧ (opens = true ↔ i ∈ openings bytes) := by
  obtain ⟨j, rfl⟩ := Nat.exists_eq_add_one.2 hpos
  refine ⟨bytes[j + 1] == '"'.toUInt8 && bytes[j] != '\\'.toUInt8, ?_, ?_⟩
  · simp [opensAt?, hlt, Nat.lt_of_succ_lt hlt]
  · simp [openings, hlt, Nat.lt_of_succ_lt hlt]

private theorem exists_separatedAt?_eq (hpos : 0 < i) (hle : i ≤ bytes.length) :
    ∃ ends, separatedAt? bytes i = some ends ∧ (ends = true ↔ i ∈ separated bytes) := by
  obtain ⟨j, rfl⟩ := Nat.exists_eq_add_one.2 hpos
  refine ⟨isSeparatorByte bytes[j], ?_, ?_⟩
  · simp [separatedAt?, Nat.lt_of_succ_le hle]
  · simp [separated, isSeparatorByte_iff, Nat.lt_of_succ_le hle]

end Segment

/-- The segment at a byte offset of a line, found by going back over the bytes of the line. -/
def segmentByOffset? (line : List Char) (start : Nat) : Option (List Char) := do
  let rest ← dropBytes? line start
  let bytes := encodeUtf8 line
  let stops? :=
    if (trimEnd rest).getLast? == some '"' then Segment.opensAt? bytes
    else Segment.separatedAt? bytes
  let begin ← indexBack? stops? start
  let segment ← dropBytes? line begin
  some (trim segment)

namespace Segment

/-- Going back over bytes from a place ends where the segment around the place begins. -/
theorem indexBack?_offset (place : Cursor) :
    indexBack? (if isQuoted place then opensAt? (encodeUtf8 place.text)
        else separatedAt? (encodeUtf8 place.text)) place.offset =
      some (begin place).offset := by
  have hlength : (encodeUtf8 place.text).length = place.offset + byteLength place.after := by
    rw [length_encodeUtf8, Cursor.text, byteLength_append, byteLength_reverse, Cursor.offset]
  have hgreatest := isGreatest_begin place
  rw [beginnings] at hgreatest
  cases hquoted : isQuoted place with
  | true =>
    -- a quoted line has a byte behind the place
    have hpos : 0 < byteLength place.after := by
      rw [Nat.pos_iff_ne_zero, ne_eq, byteLength_eq_zero_iff]
      intro hnil
      rw [isQuoted, hnil] at hquoted
      cases hquoted
    have hlt : place.offset < (encodeUtf8 place.text).length := by omega
    obtain ⟨i, hi, hgreatest'⟩ := exists_indexBack?_eq fun j hj hle =>
      exists_opensAt?_eq hj (Nat.lt_of_le_of_lt hle hlt)
    rw [hquoted, if_pos rfl] at hgreatest
    rw [if_pos rfl, hgreatest.unique hgreatest', ← hi]
  | false =>
    have hle : place.offset ≤ (encodeUtf8 place.text).length := by omega
    obtain ⟨i, hi, hgreatest'⟩ := exists_indexBack?_eq fun j hj hle' =>
      exists_separatedAt?_eq hj (Nat.le_trans hle' hle)
    rw [hquoted, if_neg Bool.false_ne_true] at hgreatest
    rw [if_neg Bool.false_ne_true, hgreatest.unique hgreatest', ← hi]

end Segment

/-- Going back over bytes finds the segment around the place at the offset, and fails only if there
is no such place. -/
theorem segmentByOffset?_eq (line : List Char) (start : Nat) :
    segmentByOffset? line start = (Cursor.at? line start).map segment := by
  cases h : Cursor.at? line start with
  | none => simp [segmentByOffset?, dropBytes?, h]
  | some place =>
    obtain ⟨rfl, rfl⟩ := Cursor.of_at? h
    have hindex := Segment.indexBack?_offset place
    have hdrop := dropBytes?_offset (Segment.begin place)
    rw [Segment.text_begin] at hdrop
    rw [Segment.isQuoted] at hindex
    simp only [segmentByOffset?, dropBytes?_offset, Option.bind_eq_bind, Option.bind_some, hindex,
      hdrop]
    rfl

/-- A segment that is found by going back over bytes is the trimmed rest of the line from the
greatest index that comes into question. -/
theorem segmentByOffset?_eq_some_iff {line command : List Char} {start : Nat} :
    segmentByOffset? line start = some command ↔
      ∃ place found : Cursor, place.text = line ∧ place.offset = start ∧ found.text = line ∧
        IsGreatest (Segment.beginnings place) found.offset ∧ command = trim found.after := by
  rw [segmentByOffset?_eq, Option.map_eq_some_iff]
  constructor
  · rintro ⟨place, hplace, rfl⟩
    obtain ⟨htext, hoffset⟩ := Cursor.of_at? hplace
    exact ⟨place, Segment.begin place, htext, hoffset, (Segment.text_begin place).trans htext,
      Segment.isGreatest_begin place, rfl⟩
  · rintro ⟨place, found, htext, hoffset, hfound, hgreatest, rfl⟩
    refine ⟨place, Cursor.at?_eq_some_iff.2 ⟨htext, hoffset⟩, ?_⟩
    have heq : Segment.begin place = found :=
      Cursor.eq_of_offset_eq ((Segment.text_begin place).trans (htext.trans hfound.symm))
        ((Segment.isGreatest_begin place).unique hgreatest)
    rw [segment, heq]

example : segmentByOffset? "é;/bin/gcc -c".toList 8 = some "/bin/gcc -c".toList := by decide

example : segmentByOffset? "é;/bin/gcc -c".toList 1 = none := by decide

end CompileCommands
