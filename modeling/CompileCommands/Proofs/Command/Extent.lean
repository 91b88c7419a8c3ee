import CompileCommands.Proofs.Command.Invocation
import CompileCommands.Proofs.Command.Segment

/-!
# The extent of a command

Unless the line is quoted, the command around a compiler reaches from the nearest separator to the
left of the compiler to the nearest chaining operator to the right. Both are found among the bytes
of the line. The operator is looked for from the beginning of the segment on, and only after the
segment has been trimmed. It is the same one, since no separator stands between the beginning of the
segment and the compiler, no operator in the compiler token, and none in the margins.

## Main definitions

* `Chaining.operators`: the indices at which a chaining operator begins.

## Main results

* `Chaining.isLeast_front`: the text up to an operator ends at the least index from a place on.
* `unchain_segment_between_separators`: the extent of the command around a compiler.
-/

namespace CompileCommands

open Text
open Chaining (front)

namespace Chaining

/-- The indices at which a semicolon or a double ampersand begins. -/
def operators (bytes : List UInt8) : Set Nat :=
  {i | bytes[i]? = some ';'.toUInt8 ∨
    bytes[i]? = some '&'.toUInt8 ∧ bytes[i + 1]? = some '&'.toUInt8}

/-- The byte behind the first ampersand of two. -/
private theorem getElem?_succ_offset_iff {place : Cursor} {rest : List Char}
    (h : place.after = '&' :: rest) :
    (encodeUtf8 place.text)[place.offset + 1]? = some '&'.toUInt8 ↔ rest.head? = some '&' := by
  have htext : (Cursor.mk ('&' :: place.before) rest).text = place.text := by
    rw [Cursor.text_mk_cons, ← h]
  have hoffset : (Cursor.mk ('&' :: place.before) rest).offset = place.offset + 1 :=
    Nat.add_comm _ _
  rw [← htext, ← hoffset]
  exact Cursor.getElem?_offset_iff (by decide)

private theorem offset_mem_operators {place : Cursor} :
    place.offset ∈ operators (encodeUtf8 place.text) ↔ isAt place = true := by
  have hhead_iff : ∀ (c : Char) (text : List Char), text.head? = some c ↔ [c] <+: text := by
    intro c text
    rw [List.head?_eq_some_iff]
    exact exists_congr fun rest => eq_comm
  have hat : isAt place = true ↔ [';'] <+: place.after ∨ ['&', '&'] <+: place.after :=
    isAt_start_iff
  rw [operators, Set.mem_ofPred_eq, Cursor.getElem?_offset_iff (by decide),
    Cursor.getElem?_offset_iff (by decide), hat]
  refine or_congr (hhead_iff ';' _) ⟨?_, ?_⟩
  · rintro ⟨hhead, hbyte⟩
    obtain ⟨rest, hafter⟩ := List.head?_eq_some_iff.1 hhead
    rw [hafter, List.cons_prefix_cons, ← hhead_iff]
    exact ⟨rfl, (getElem?_succ_offset_iff hafter).1 hbyte⟩
  · rintro ⟨rest, hafter⟩
    rw [← hafter]
    exact ⟨rfl, (getElem?_succ_offset_iff hafter.symm).2 rfl⟩

/-- An operator begins at the places in front of one. -/
private theorem mem_operators_iff {text : List Char} {i : Nat} :
    i ∈ operators (encodeUtf8 text) ↔
      ∃ place : Cursor, place.text = text ∧ place.offset = i ∧ isAt place = true := by
  constructor
  · intro hi
    obtain ⟨c, hc, hbyte⟩ : ∃ c : Char, c.toNat < 0x80 ∧
        (encodeUtf8 text)[i]? = some c.toUInt8 :=
      hi.elim (fun h => ⟨';', by decide, h⟩) fun h => ⟨'&', by decide, h.1⟩
    obtain ⟨before, after, rfl, rfl, -⟩ := Cursor.exists_of_getElem? hc hbyte
    exact ⟨_, rfl, rfl, offset_mem_operators.1 hi⟩
  · rintro ⟨place, rfl, rfl, hplace⟩
    exact offset_mem_operators.2 hplace

/-- The text from a place up to an operator ends at the least index from the place on at which one
begins, or with the text around the place. -/
theorem isLeast_front (place : Cursor) :
    IsLeast (insert (byteLength place.text)
        {i | place.offset ≤ i ∧ i ∈ operators (encodeUtf8 place.text)})
      (byteLength (place.left ++ front place.after)) := by
  have hleast := Cursor.isLeast_seek? isAt place
  have hend : ((Cursor.seek? isAt place.before place.after).getD
      (Cursor.finish place.text)).offset = byteLength (place.left ++ front place.after) := by
    rw [Cursor.left, ← seek?_isAt]
    cases Cursor.seek? isAt place.before place.after with
    | none => exact byteLength_reverse _
    | some found => exact (byteLength_reverse _).symm
  rw [hend] at hleast
  simpa only [mem_operators_iff] using hleast

end Chaining

namespace Invocation

variable {line : List Char} (invocation : Invocation line)

/-- The command around a compiler ends at the least index behind the compiler at which an operator
begins, or with the line. -/
theorem isLeast_left_append_front :
    IsLeast (insert (byteLength line)
        {i | invocation.place.offset < i ∧ i ∈ Chaining.operators (encodeUtf8 line)})
      (byteLength (invocation.place.left ++ front invocation.place.after)) := by
  obtain ⟨more, hmore⟩ := invocation.exists_front_after
  have hleast := Chaining.isLeast_front invocation.place
  rw [Cursor.text_of_first? invocation.find?_eq] at hleast
  -- no operator begins at the compiler itself
  have hbehind : invocation.place.offset <
      byteLength (invocation.place.left ++ front invocation.place.after) := by
    have hpos := mt byteLength_eq_zero_iff.1 invocation.plain_text.1
    rw [hmore, byteLength_append, byteLength_append, Cursor.left, byteLength_reverse,
      Cursor.offset]
    omega
  refine ⟨hleast.1.imp_right fun hmem => ⟨hbehind, hmem.2⟩, fun i hi => ?_⟩
  exact hleast.2 (hi.imp_right fun hmem => ⟨Nat.le_of_lt hmem.1, hmem.2⟩)

end Invocation

/-- **Unless the line is quoted, the command around a compiler reaches from the nearest separator to
the left to the nearest chaining operator to the right.** The compiler and what is glued to it stay
in the command. -/
theorem unchain_segment_between_separators {line : List Char} {place : Cursor}
    (h : Compiler.find? line = some place) (hquoted : Segment.isQuoted place = false) :
    ∃ front glued token more back,
      line = front ++ (glued ++ token.text ++ more) ++ back ∧
      front ++ glued = place.left ∧ CompilerToken.at? place.after = some token ∧
      IsGreatest (insert 0 {i | i ≤ place.offset ∧ i ∈ Segment.separated (encodeUtf8 line)})
        (byteLength front) ∧
      IsLeast (insert (byteLength line)
          {i | place.offset < i ∧ i ∈ Chaining.operators (encodeUtf8 line)})
        (byteLength (front ++ (glued ++ token.text ++ more))) ∧
      unchain (segment place) = trim (glued ++ token.text ++ more) ∧
      unchain (segment place) = trimStart glued ++ token.text ++ trimEnd more := by
  obtain ⟨invocation, rfl⟩ := Invocation.exists_of_find? h
  have htext : invocation.place.text = line := Cursor.text_of_first? h
  obtain ⟨more, hmore⟩ := invocation.exists_front_after
  obtain ⟨back, hback, -⟩ := Chaining.exists_behind_front invocation.place.after
  have hextent : (Segment.begin invocation.place).left ++
      (invocation.ahead ++ invocation.token.text ++ more) =
      invocation.place.left ++ front invocation.place.after := by
    rw [hmore, ← invocation.left_begin_append_ahead]
    simp only [List.append_assoc]
  have hcommand : unchain (segment invocation.place) =
      trim (invocation.ahead ++ invocation.token.text ++ more) := by
    rw [invocation.unchain_segment_eq_trim (invocation.not_isChained_ahead hquoted), hmore,
      List.append_assoc]
  refine ⟨(Segment.begin invocation.place).left, invocation.ahead, invocation.token, more, back,
    ?_, invocation.left_begin_append_ahead, invocation.at?_eq, ?_, ?_, hcommand, ?_⟩
  · rw [hextent, List.append_assoc, ← hback]
    exact htext.symm
  · have hgreatest := Segment.isGreatest_begin invocation.place
    rw [Segment.beginnings, hquoted, if_neg Bool.false_ne_true, htext] at hgreatest
    rwa [Cursor.left, byteLength_reverse]
  · rw [hextent]
    exact invocation.isLeast_left_append_front
  · rw [hcommand, trim_append_append invocation.plain_text.1 invocation.isBlank_eq_false]

/-- A cross compiler behind a single ampersand, with a single ampersand in front of a double one. -/
theorem unchain_segment_of_cross_compiler :
    Compiler.find? "cd é&arm-none-eabi-gcc -c a.c & b && c;d ".toList =
        some ⟨"-ibae-enon-mra&é dc".toList, "gcc -c a.c & b && c;d ".toList⟩ ∧
      Segment.isQuoted ⟨"-ibae-enon-mra&é dc".toList, "gcc -c a.c & b && c;d ".toList⟩ = false ∧
      ∃ front glued token more back,
        "cd é&arm-none-eabi-gcc -c a.c & b && c;d ".toList =
          front ++ (glued ++ token.text ++ more) ++ back ∧
        front ++ glued = "cd é&arm-none-eabi-".toList ∧
        CompilerToken.at? "gcc -c a.c & b && c;d ".toList = some token ∧
        IsGreatest (insert 0 {i | i ≤ 20 ∧
          i ∈ Segment.separated (encodeUtf8 "cd é&arm-none-eabi-gcc -c a.c & b && c;d ".toList)})
          (byteLength front) ∧
        IsLeast (insert (byteLength "cd é&arm-none-eabi-gcc -c a.c & b && c;d ".toList)
          {i | 20 < i ∧ i ∈ Chaining.operators
            (encodeUtf8 "cd é&arm-none-eabi-gcc -c a.c & b && c;d ".toList)})
          (byteLength (front ++ (glued ++ token.text ++ more))) ∧
        unchain (segment ⟨"-ibae-enon-mra&é dc".toList, "gcc -c a.c & b && c;d ".toList⟩) =
          trim (glued ++ token.text ++ more) ∧
        unchain (segment ⟨"-ibae-enon-mra&é dc".toList, "gcc -c a.c & b && c;d ".toList⟩) =
          trimStart glued ++ token.text ++ trimEnd more := by
  have hfind : Compiler.find? "cd é&arm-none-eabi-gcc -c a.c & b && c;d ".toList =
      some ⟨"-ibae-enon-mra&é dc".toList, "gcc -c a.c & b && c;d ".toList⟩ := by decide +kernel
  have hquoted : Segment.isQuoted ⟨"-ibae-enon-mra&é dc".toList,
      "gcc -c a.c & b && c;d ".toList⟩ = false := by decide
  exact ⟨hfind, hquoted, unchain_segment_between_separators hfind hquoted⟩

end CompileCommands
