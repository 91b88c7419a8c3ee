import CompileCommands.Proofs.Text.Lines
import Mathlib.Tactic.ByContra

/-!
# The UTF-8 form of a text

`Text.decodeUtf8?` reads bytes as a text. This file gives the way back, and shows that bytes may be
taken apart at line feeds before they are read: no line feed stands inside the UTF-8 form of
another character, so the lines of the bytes are the UTF-8 forms of the lines of the text, and
bytes are well formed exactly if each of their lines is.

## Main definitions

* `Text.encodeUtf8`: the UTF-8 form of a text.

## Main results

* `Text.decodeUtf8?_eq_some_iff`: reading accepts exactly the UTF-8 forms of texts.
* `Text.byteLines_encodeUtf8`: the lines of a UTF-8 form.
* `Text.decodeUtf8?_eq_none_iff`: bytes are malformed exactly if one of their lines is.
-/

namespace CompileCommands.Text

/-- The UTF-8 form of a text. -/
def encodeUtf8 (text : List Char) : List UInt8 :=
  text.flatMap String.utf8EncodeChar

@[simp] theorem encodeUtf8_nil : encodeUtf8 [] = [] := rfl

@[simp] theorem encodeUtf8_cons (c : Char) (text : List Char) :
    encodeUtf8 (c :: text) = String.utf8EncodeChar c ++ encodeUtf8 text := rfl

@[simp] theorem encodeUtf8_append (a b : List Char) :
    encodeUtf8 (a ++ b) = encodeUtf8 a ++ encodeUtf8 b :=
  List.flatMap_append

/-! ### Reading what was written -/

private theorem toByteArray_encodeUtf8 (text : List Char) :
    (encodeUtf8 text).toByteArray = text.utf8Encode := by
  rw [List.utf8Encode, encodeUtf8]

/-- **Reading undoes writing.** Reading accepts exactly the UTF-8 forms of texts. -/
theorem decodeUtf8?_eq_some_iff {bytes : List UInt8} {text : List Char} :
    decodeUtf8? bytes = some text ↔ bytes = encodeUtf8 text := by
  rw [decodeUtf8?, Option.map_eq_some_iff, String.fromUTF8?]
  constructor
  · rintro ⟨read, hread, rfl⟩
    split at hread
    case isTrue hvalid =>
      cases hread
      rw [← List.toByteArray_inj, toByteArray_encodeUtf8, String.utf8Encode_toList]
      rfl
    case isFalse => cases hread
  · rintro rfl
    have hvalid : (encodeUtf8 text).toByteArray.IsValidUTF8 := ⟨text, toByteArray_encodeUtf8 text⟩
    refine ⟨String.ofList text, ?_, String.toList_ofList⟩
    rw [dif_pos hvalid, Option.some_inj, ← String.toByteArray_inj, String.toByteArray_ofList]
    exact toByteArray_encodeUtf8 text

@[simp] theorem decodeUtf8?_encodeUtf8 (text : List Char) :
    decodeUtf8? (encodeUtf8 text) = some text :=
  decodeUtf8?_eq_some_iff.2 rfl

/-- The bytes of a text are its UTF-8 form. -/
theorem toUTF8_eq_encodeUtf8 (text : String) :
    text.toUTF8.data.toList = encodeUtf8 text.toList := by
  rw [← List.toList_data_toByteArray (l := encodeUtf8 text.toList), toByteArray_encodeUtf8,
    String.utf8Encode_toList]
  rfl

/-! ### Line feeds -/

private theorem utf8EncodeChar_lineFeed : String.utf8EncodeChar '\n' = [10] := by decide

/-- A byte of the UTF-8 form of a character is the character itself or no ASCII character. -/
theorem of_mem_utf8EncodeChar {c : Char} {byte : UInt8} (h : byte ∈ String.utf8EncodeChar c) :
    byte.toNat = c.toNat ∨ 0x80 ≤ byte.toNat := by
  have hvalue : c.toNat = c.val.toNat := rfl
  revert h
  fun_cases String.utf8EncodeChar c
  all_goals
    intro h
    simp only [List.mem_cons, List.not_mem_nil, or_false] at h
    rcases h with rfl | rfl | rfl | rfl
  all_goals
    simp
    omega

/-- No other character has a line feed in its UTF-8 form. -/
theorem lineFeed_notMem_utf8EncodeChar {c : Char} (h : c ≠ '\n') :
    10 ∉ String.utf8EncodeChar c := by
  intro hmem
  rcases of_mem_utf8EncodeChar hmem with heq | hle
  · exact h (Char.toNat_inj.1 heq.symm)
  · exact absurd hle (by decide)

/-- The lines of the UTF-8 form of a text are the UTF-8 forms of its lines. -/
theorem byteLines_encodeUtf8 (text : List Char) :
    byteLines (encodeUtf8 text) = (text.splitOn '\n').map encodeUtf8 := by
  induction text with
  | nil => rfl
  | cons c text ih =>
    rw [byteLines] at ih ⊢
    by_cases hc : c = '\n'
    · subst hc
      rw [encodeUtf8_cons, utf8EncodeChar_lineFeed, List.singleton_append,
        List.splitOn_cons_eq_if_modifyHead, List.splitOn_cons_eq_if_modifyHead,
        if_pos (beq_self_eq_true _), if_pos (beq_self_eq_true _), ih]
      rfl
    · have hmark := lineFeed_notMem_utf8EncodeChar hc
      rw [encodeUtf8_cons, splitOn_append_of_notMem hmark, ih,
        List.splitOn_cons_eq_if_modifyHead, if_neg (by simpa using hc)]
      cases text.splitOn '\n' <;> rfl

/-- Lines joined by line feeds have their UTF-8 forms joined by line feeds. -/
theorem encodeUtf8_intercalate (texts : List (List Char)) :
    encodeUtf8 (['\n'].intercalate texts) = [10].intercalate (texts.map encodeUtf8) := by
  induction texts with
  | nil => rfl
  | cons text texts ih =>
    cases texts with
    | nil => rw [List.map_singleton, List.intercalate_singleton, List.intercalate_singleton]
    | cons next texts =>
      rw [List.intercalate_cons_cons, encodeUtf8_append, encodeUtf8_append, ih, encodeUtf8_cons,
        utf8EncodeChar_lineFeed, encodeUtf8_nil, List.append_nil]
      exact List.intercalate_cons_cons.symm

/-- Pieces that can all be read are the UTF-8 forms of texts. -/
theorem exists_map_encodeUtf8 {pieces : List (List UInt8)}
    (h : ∀ piece ∈ pieces, decodeUtf8? piece ≠ none) :
    ∃ texts : List (List Char), pieces = texts.map encodeUtf8 := by
  induction pieces with
  | nil => exact ⟨[], rfl⟩
  | cons piece pieces ih =>
    obtain ⟨text, htext⟩ := Option.ne_none_iff_exists'.1 (h piece List.mem_cons_self)
    obtain ⟨texts, htexts⟩ := ih fun other hother => h other (List.mem_cons_of_mem _ hother)
    exact ⟨text :: texts, by rw [decodeUtf8?_eq_some_iff.1 htext, htexts, List.map_cons]⟩

/-- Bytes are malformed exactly if one of their lines is. -/
theorem decodeUtf8?_eq_none_iff {bytes : List UInt8} :
    decodeUtf8? bytes = none ↔ ∃ piece ∈ byteLines bytes, decodeUtf8? piece = none := by
  constructor
  · intro hnone
    by_contra hall
    obtain ⟨texts, htexts⟩ := exists_map_encodeUtf8 fun piece hpiece h => hall ⟨piece, hpiece, h⟩
    have hbytes : bytes = encodeUtf8 (['\n'].intercalate texts) := by
      rw [encodeUtf8_intercalate, ← htexts, byteLines, List.intercalate_splitOn]
    rw [hbytes, decodeUtf8?_encodeUtf8] at hnone
    cases hnone
  · rintro ⟨piece, hpiece, hnone⟩
    by_contra hsome
    obtain ⟨text, htext⟩ := Option.ne_none_iff_exists'.1 hsome
    rw [decodeUtf8?_eq_some_iff.1 htext, byteLines_encodeUtf8] at hpiece
    obtain ⟨line, -, rfl⟩ := List.mem_map.1 hpiece
    rw [decodeUtf8?_encodeUtf8] at hnone
    cases hnone

end CompileCommands.Text
