import CompileCommands.Text.Blank

/-!
# Places in a text

A cursor is a place between two characters of a text. It holds the characters to its left,
nearest first, and the characters to its right, so that looking at either side and moving one
character are both cheap. Every search of this library looks for the first place of a text, or
the last one up to a given place, at which some condition on the two sides holds.

Positions are told to the outside as byte offsets into the UTF-8 form of the text. An offset that
lies beyond the text or inside a character is no place of the text.

## Main definitions

* `byteLength`: the number of bytes of the UTF-8 form of a text.
* `Cursor`: a place, with `Cursor.text` the text around it and `Cursor.offset` its byte offset.
* `Cursor.at?`: the place at a byte offset.
* `Cursor.first?`: the first place of a text that satisfies a condition.
* `Cursor.last?`: the last such place up to a given one.

## Main results

* `Cursor.at?_offset`, `Cursor.of_at?`: places and their byte offsets determine each other.
* `Cursor.text_of_first?`, `Cursor.text_of_last?`: a search stays in its text.
* `Cursor.holds_of_first?`, `Cursor.holds_of_last?`: the place that is found satisfies the
  condition.
-/

namespace CompileCommands.Text

/-- The number of bytes of the UTF-8 form of a text. -/
def byteLength (text : List Char) : Nat :=
  text.foldr (·.utf8Size + ·) 0

@[simp] theorem byteLength_nil : byteLength [] = 0 := rfl

@[simp] theorem byteLength_cons (c : Char) (text : List Char) :
    byteLength (c :: text) = c.utf8Size + byteLength text := rfl

@[simp] theorem byteLength_append (a b : List Char) :
    byteLength (a ++ b) = byteLength a + byteLength b := by
  induction a with
  | nil => simp
  | cons c a ih => simp [ih, Nat.add_assoc]

@[simp] theorem byteLength_reverse (text : List Char) :
    byteLength text.reverse = byteLength text := by
  induction text with
  | nil => rfl
  | cons c text ih => simp [ih, Nat.add_comm]

/-- A place between two characters of a text. -/
structure Cursor where
  /-- The characters to the left of the place, nearest first. -/
  before : List Char
  /-- The characters to the right of the place. -/
  after : List Char
  deriving DecidableEq, Repr

namespace Cursor

/-- The place in front of a text. -/
def start (text : List Char) : Cursor :=
  ⟨[], text⟩

/-- The place behind a text. -/
def finish (text : List Char) : Cursor :=
  ⟨text.reverse, []⟩

/-- The text around the place. -/
def text (place : Cursor) : List Char :=
  place.before.reverse ++ place.after

/-- The text to the left of the place, in reading order. -/
def left (place : Cursor) : List Char :=
  place.before.reverse

/-- The byte offset of the place. -/
def offset (place : Cursor) : Nat :=
  byteLength place.before

/-- The place `n` bytes to the right of a place, if those bytes end between two characters. -/
def advance? : (n : Nat) → (before after : List Char) → Option Cursor
  | n, before, [] => if n = 0 then some ⟨before, []⟩ else none
  | n, before, c :: after =>
    if n = 0 then some ⟨before, c :: after⟩
    else if c.utf8Size ≤ n then advance? (n - c.utf8Size) (c :: before) after
    else none

/-- The place at a byte offset into the text, if the offset is between two characters. -/
def at? (text : List Char) (n : Nat) : Option Cursor :=
  advance? n [] text

/-- The first place, from the given one to the right, that satisfies the condition and has a
character on its right. -/
def seek? (p : Cursor → Bool) : (before after : List Char) → Option Cursor
  | _, [] => none
  | before, c :: after =>
    if p ⟨before, c :: after⟩ then some ⟨before, c :: after⟩ else seek? p (c :: before) after

/-- The first place of the text that satisfies the condition and has a character on its right. -/
def first? (p : Cursor → Bool) (text : List Char) : Option Cursor :=
  seek? p [] text

/-- The last place, from the given one to the left, that satisfies the condition and has a
character on its left. -/
def recede? (p : Cursor → Bool) : (before after : List Char) → Option Cursor
  | [], _ => none
  | c :: before, after =>
    if p ⟨c :: before, after⟩ then some ⟨c :: before, after⟩ else recede? p before (c :: after)

/-- The last place up to the given one that satisfies the condition and has a character on its
left. -/
def last? (p : Cursor → Bool) (place : Cursor) : Option Cursor :=
  recede? p place.before place.after

@[simp] theorem text_start (text : List Char) : (start text).text = text := rfl

@[simp] theorem text_finish (text : List Char) : (finish text).text = text := by
  simp [finish, Cursor.text]

@[simp] theorem text_mk_cons (c : Char) (before after : List Char) :
    (Cursor.mk (c :: before) after).text = (Cursor.mk before (c :: after)).text := by
  simp [Cursor.text]

/-! ### Byte offsets -/

/-- Advancing by a number of bytes stays in the text and adds that number to the offset. -/
theorem of_advance? {n : Nat} {before after : List Char} {place : Cursor}
    (h : advance? n before after = some place) :
    place.text = before.reverse ++ after ∧ place.offset = byteLength before + n := by
  induction after generalizing n before with
  | nil =>
    rw [advance?] at h
    split at h <;> simp_all
    subst h
    simp [Cursor.text, offset]
  | cons c after ih =>
    rw [advance?] at h
    split at h
    · simp_all
      subst h
      simp [Cursor.text, offset]
    · split at h
      · obtain ⟨htext, hoffset⟩ := ih h
        refine ⟨by simpa using htext, ?_⟩
        rw [hoffset, byteLength_cons]
        omega
      · simp at h

/-- The bytes of the next characters lead to the place behind them. -/
theorem advance?_byteLength (before between after : List Char) :
    advance? (byteLength between) before (between ++ after) =
      some ⟨between.reverse ++ before, after⟩ := by
  induction between generalizing before with
  | nil => cases after <;> simp [advance?]
  | cons c between ih =>
    have hpos : 0 < c.utf8Size := c.utf8Size_pos
    have hne : c.utf8Size + byteLength between ≠ 0 := by omega
    rw [byteLength_cons, List.cons_append, advance?, if_neg hne, if_pos (by omega),
      Nat.add_sub_cancel_left, ih]
    simp

/-- A place is found again at its byte offset. -/
theorem at?_offset (place : Cursor) : at? place.text place.offset = some place := by
  have h := advance?_byteLength [] place.before.reverse place.after
  simpa [at?, Cursor.text, offset] using h

/-- The place at a byte offset lies in the text and has that offset. -/
theorem of_at? {text : List Char} {n : Nat} {place : Cursor} (h : at? text n = some place) :
    place.text = text ∧ place.offset = n := by
  simpa using of_advance? h

/-! ### Searches -/

theorem text_of_seek? {p : Cursor → Bool} {before after : List Char} {place : Cursor}
    (h : seek? p before after = some place) : place.text = before.reverse ++ after := by
  induction after generalizing before with
  | nil => simp [seek?] at h
  | cons c after ih =>
    rw [seek?] at h
    split at h
    · cases h
      rfl
    · simpa using ih h

theorem holds_of_seek? {p : Cursor → Bool} {before after : List Char} {place : Cursor}
    (h : seek? p before after = some place) : p place = true := by
  induction after generalizing before with
  | nil => simp [seek?] at h
  | cons c after ih =>
    rw [seek?] at h
    split at h
    case isTrue hp =>
      cases h
      exact hp
    case isFalse => exact ih h

/-- The first place that satisfies a condition lies in the text. -/
theorem text_of_first? {p : Cursor → Bool} {text : List Char} {place : Cursor}
    (h : first? p text = some place) : place.text = text :=
  text_of_seek? h

/-- The first place that satisfies a condition satisfies it. -/
theorem holds_of_first? {p : Cursor → Bool} {text : List Char} {place : Cursor}
    (h : first? p text = some place) : p place = true :=
  holds_of_seek? h

private theorem text_of_recede? {p : Cursor → Bool} {before after : List Char} {place : Cursor}
    (h : recede? p before after = some place) : place.text = before.reverse ++ after := by
  induction before generalizing after with
  | nil => simp [recede?] at h
  | cons c before ih =>
    rw [recede?] at h
    split at h
    · cases h
      rfl
    · simpa using ih h

private theorem holds_of_recede? {p : Cursor → Bool} {before after : List Char} {place : Cursor}
    (h : recede? p before after = some place) : p place = true := by
  induction before generalizing after with
  | nil => simp [recede?] at h
  | cons c before ih =>
    rw [recede?] at h
    split at h
    case isTrue hp =>
      cases h
      exact hp
    case isFalse => exact ih h

/-- The last place that satisfies a condition lies in the text. -/
theorem text_of_last? {p : Cursor → Bool} {start place : Cursor}
    (h : last? p start = some place) : place.text = start.text :=
  text_of_recede? h

/-- The last place that satisfies a condition satisfies it. -/
theorem holds_of_last? {p : Cursor → Bool} {start place : Cursor}
    (h : last? p start = some place) : p place = true :=
  holds_of_recede? h

end Cursor

end CompileCommands.Text
