import CompileCommands.Proofs.Text.Searches
import CompileCommands.Proofs.Text.Utf8

/-!
# Byte offsets and bytes

The places of a text and the byte offsets into its UTF-8 form belong to each other, except for the
offsets beyond the text and those inside a character. No byte inside the UTF-8 form of a character
is that of an ASCII character. So an ASCII character may be looked for among the bytes: wherever its
byte is found there is a place of the text, and the character stands there.

## Main definitions

* `Text.IsInside`: an offset inside a character.
* `Text.dropBytes?`, `Text.takeBytes?`: a text without its first bytes, and those bytes, unless a
  character would be cut in two.

## Main results

* `Text.Cursor.at?_eq_none_iff`: the offsets that are no place.
* `Text.exists_of_getElem?_encodeUtf8`: where an ASCII byte stands, an ASCII character stands.
* `Text.Cursor.getElem?_offset_iff`, `Text.Cursor.getElem?_pred_offset_iff`: the bytes on the two
  sides of a place.
-/

namespace CompileCommands.Text

/-! ### Offsets that are no place -/

/-- The offset lies inside a character of the text. -/
def IsInside (text : List Char) (n : Nat) : Prop :=
  ∃ front c back, text = front ++ c :: back ∧ byteLength front < n ∧
    n < byteLength front + c.utf8Size

private theorem not_isInside_nil (n : Nat) : ¬ IsInside [] n := by
  rintro ⟨front, c, back, heq, -⟩
  simp at heq

/-- An offset lies inside the first character of a text or inside a later one. -/
private theorem isInside_cons {c : Char} {text : List Char} {n : Nat} :
    IsInside (c :: text) n ↔
      0 < n ∧ n < c.utf8Size ∨ c.utf8Size ≤ n ∧ IsInside text (n - c.utf8Size) := by
  constructor
  · rintro ⟨front, d, back, heq, hlt, hgt⟩
    cases front with
    | nil =>
      obtain ⟨rfl, rfl⟩ := List.cons_eq_cons.1 heq
      rw [byteLength_nil, Nat.zero_add] at hgt
      exact .inl ⟨hlt, hgt⟩
    | cons e front =>
      obtain ⟨rfl, rfl⟩ := List.cons_eq_cons.1 heq
      rw [byteLength_cons] at hlt hgt
      exact .inr ⟨by omega, front, d, back, rfl, by omega, by omega⟩
  · rintro (⟨hlt, hgt⟩ | ⟨hle, front, d, back, rfl, hlt, hgt⟩)
    · exact ⟨[], c, text, rfl, hlt, by rwa [byteLength_nil, Nat.zero_add]⟩
    · refine ⟨c :: front, d, back, rfl, ?_, ?_⟩
      all_goals
        rw [byteLength_cons]
        omega

private theorem Cursor.advance?_eq_none_iff {n : Nat} {before after : List Char} :
    advance? n before after = none ↔ byteLength after < n ∨ IsInside after n := by
  induction after generalizing n before with
  | nil =>
    rw [advance?, or_iff_left (not_isInside_nil n), byteLength_nil, Nat.pos_iff_ne_zero]
    split <;> simp_all
  | cons c after ih =>
    have hpos : 0 < c.utf8Size := c.utf8Size_pos
    rw [advance?, isInside_cons, byteLength_cons]
    split
    case isTrue hzero => exact iff_of_false (Option.some_ne_none _) (by omega)
    case isFalse hzero =>
      split
      case isTrue hle =>
        have hfirst : ¬ (0 < n ∧ n < c.utf8Size) := fun h => absurd hle (Nat.not_le.2 h.2)
        rw [ih, or_iff_right hfirst, and_iff_right hle, Nat.lt_sub_iff_add_lt']
      case isFalse hgt => exact iff_of_true rfl (by omega)

/-- No place has an offset exactly if it lies beyond the text or inside a character. -/
theorem Cursor.at?_eq_none_iff {text : List Char} {n : Nat} :
    at? text n = none ↔ byteLength text < n ∨ IsInside text n :=
  advance?_eq_none_iff

/-- The place at an offset is the place of the text that has this offset. -/
theorem Cursor.at?_eq_some_iff {text : List Char} {n : Nat} {place : Cursor} :
    at? text n = some place ↔ place.text = text ∧ place.offset = n := by
  refine ⟨of_at?, ?_⟩
  rintro ⟨rfl, rfl⟩
  exact at?_offset place

/-! ### Cutting at an offset -/

/-- The text without its first `n` bytes. Fails if there are fewer, or if they end inside a
character. -/
def dropBytes? (text : List Char) (n : Nat) : Option (List Char) :=
  (Cursor.at? text n).map Cursor.after

/-- The first `n` bytes of the text. Fails if there are fewer, or if they end inside a character. -/
def takeBytes? (text : List Char) (n : Nat) : Option (List Char) :=
  (Cursor.at? text n).map Cursor.left

@[simp] theorem dropBytes?_offset (place : Cursor) :
    dropBytes? place.text place.offset = some place.after := by
  rw [dropBytes?, Cursor.at?_offset, Option.map_some]

@[simp] theorem takeBytes?_offset (place : Cursor) :
    takeBytes? place.text place.offset = some place.left := by
  rw [takeBytes?, Cursor.at?_offset, Option.map_some]

/-! ### ASCII characters and their bytes -/

theorem length_encodeUtf8 (text : List Char) : (encodeUtf8 text).length = byteLength text := by
  induction text with
  | nil => rfl
  | cons c text ih => rw [encodeUtf8_cons, List.length_append, ih, String.length_utf8EncodeChar,
      byteLength_cons]

section Ascii

variable {c d : Char} (hc : c.toNat < 0x80)

include hc

theorem utf8EncodeChar_of_lt : String.utf8EncodeChar c = [c.toUInt8] :=
  if_pos (Nat.le_of_lt_succ hc)

theorem utf8Size_of_lt : c.utf8Size = 1 := by
  rw [← String.length_utf8EncodeChar, utf8EncodeChar_of_lt hc, List.length_singleton]

private theorem toNat_toUInt8_of_lt : c.toUInt8.toNat = c.toNat :=
  Nat.mod_eq_of_lt (Nat.lt_trans hc (by decide))

private theorem eq_of_toUInt8_eq (hd : d.toNat < 0x80) (h : c.toUInt8 = d.toUInt8) : c = d := by
  rw [← Char.toNat_inj, ← toNat_toUInt8_of_lt hc, ← toNat_toUInt8_of_lt hd, h]

/-- The byte of an ASCII character stands at the offset of the character. -/
theorem getElem?_encodeUtf8 (front back : List Char) :
    (encodeUtf8 (front ++ c :: back))[byteLength front]? = some c.toUInt8 := by
  rw [encodeUtf8_append, encodeUtf8_cons, utf8EncodeChar_of_lt hc, ← length_encodeUtf8,
    List.getElem?_append_right (Nat.le_refl _), Nat.sub_self]
  rfl

end Ascii

/-- Where the byte of an ASCII character stands there is a place of the text, and the character
stands behind it. -/
theorem exists_of_getElem?_encodeUtf8 {text : List Char} {n : Nat} {byte : UInt8}
    (h : (encodeUtf8 text)[n]? = some byte) (hascii : byte.toNat < 0x80) :
    ∃ front c back, text = front ++ c :: back ∧ byteLength front = n ∧ c.toNat < 0x80 ∧
      byte = c.toUInt8 := by
  induction text generalizing n with
  | nil => simp at h
  | cons c text ih =>
    rw [encodeUtf8_cons, List.getElem?_append, String.length_utf8EncodeChar] at h
    split at h
    case isTrue hlt =>
      have hmem := List.mem_of_getElem? h
      have hc : c.toNat < 0x80 :=
        (of_mem_utf8EncodeChar hmem).resolve_right (Nat.not_le.2 hascii) ▸ hascii
      rw [utf8Size_of_lt hc, Nat.lt_one_iff] at hlt
      rw [utf8EncodeChar_of_lt hc, List.mem_singleton] at hmem
      exact ⟨[], c, text, rfl, hlt.symm, hc, hmem⟩
    case isFalse hge =>
      obtain ⟨front, d, back, rfl, hlength, hd⟩ := ih h
      refine ⟨c :: front, d, back, rfl, ?_, hd⟩
      rw [byteLength_cons]
      omega

namespace Cursor

/-- Where the byte of an ASCII character stands the character stands between two places. -/
theorem exists_of_getElem? {text : List Char} {n : Nat} {c : Char} (hc : c.toNat < 0x80)
    (h : (encodeUtf8 text)[n]? = some c.toUInt8) :
    ∃ before after, (Cursor.mk before (c :: after)).text = text ∧
      (Cursor.mk before (c :: after)).offset = n ∧
      (Cursor.mk (c :: before) after).offset = n + 1 := by
  obtain ⟨front, d, back, rfl, rfl, hd, heq⟩ :=
    exists_of_getElem?_encodeUtf8 h (by rwa [toNat_toUInt8_of_lt hc])
  obtain rfl := eq_of_toUInt8_eq hc hd heq
  refine ⟨front.reverse, back, by rw [Cursor.text, List.reverse_reverse], byteLength_reverse _, ?_⟩
  rw [offset, byteLength_cons, byteLength_reverse, utf8Size_of_lt hc, Nat.add_comm]

variable {place : Cursor} {c : Char} (hc : c.toNat < 0x80)

include hc

/-- The byte behind a place. -/
theorem getElem?_offset_iff :
    (encodeUtf8 place.text)[place.offset]? = some c.toUInt8 ↔ place.after.head? = some c := by
  constructor
  · intro hbyte
    obtain ⟨before, after, htext, hoffset, -⟩ := exists_of_getElem? hc hbyte
    rw [← eq_of_offset_eq htext hoffset]
    rfl
  · intro hhead
    obtain ⟨back, hafter⟩ := List.head?_eq_some_iff.1 hhead
    rw [Cursor.text, hafter, offset, ← byteLength_reverse]
    exact getElem?_encodeUtf8 hc _ _

/-- The byte in front of a place. -/
theorem getElem?_pred_offset_iff :
    (∃ n, place.offset = n + 1 ∧ (encodeUtf8 place.text)[n]? = some c.toUInt8) ↔
      place.before.head? = some c := by
  constructor
  · rintro ⟨n, hn, hbyte⟩
    obtain ⟨before, after, htext, -, hoffset⟩ := exists_of_getElem? hc hbyte
    have hplace : (Cursor.mk (c :: before) after).text = place.text := by
      rw [text_mk_cons, htext]
    rw [← eq_of_offset_eq hplace (hoffset.trans hn.symm)]
    rfl
  · intro hhead
    obtain ⟨far, hbefore⟩ := List.head?_eq_some_iff.1 hhead
    refine ⟨byteLength far.reverse, ?_, ?_⟩
    · rw [offset, hbefore, byteLength_cons, byteLength_reverse, utf8Size_of_lt hc, Nat.add_comm]
    · rw [Cursor.text, hbefore, List.reverse_cons, List.append_assoc]
      exact getElem?_encodeUtf8 hc _ _

end Cursor

end CompileCommands.Text
