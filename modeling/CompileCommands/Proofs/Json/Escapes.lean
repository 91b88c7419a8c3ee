import CompileCommands.Json.Quoted
import CompileCommands.Proofs.Text.Hex
import Mathlib.Data.List.Basic

/-!
# The ways to write a text

A text between double quotes may be written in many ways. A character that is neither a double
quote nor a backslash nor a control character may stand for itself. Eight characters may be written
as a letter behind a backslash. And every character may be written by the numbers of its UTF-16 code
units, four hexadecimal digits each, of which characters beyond the first 65,536 have two.

This file describes these ways on their own, without a reader in mind. All of them are read back as
the text, up to the quote that closes it and no further, and what the printer writes is one of them.

## Main definitions

* `Json.IsHex`: a number in four hexadecimal digits.
* `Json.Piece.Written`, `Json.Content`: the ways to write a piece, and several pieces.
* `Json.MakesUp`: the pieces that a text may be written in.
* `Json.Writes`: the ways to write a text.

## Main results

* `Json.readQuoted?_of_content`: what is written is read back, up to the closing quote.
* `Json.decode?_eq_some_iff`: the text that pieces make up.
* `Json.writes_flatMap_escape`: the printer writes the text.
* `Json.Content.space_le`: there are no control characters in what is written.
-/

namespace CompileCommands.Json

open Text

/-- The letters that may stand behind a backslash, with the characters that they stand for. -/
def letterEscapes : List (Char × Char) :=
  [('"', '"'), ('\\', '\\'), ('/', '/'), ('b', '\x08'), ('f', '\x0c'), ('n', '\n'), ('r', '\r'),
    ('t', '\t')]

/-- A number below 65,536 in four hexadecimal digits, of either size. -/
structure IsHex (n : Nat) (digits : List Char) : Prop where
  /-- Four digits suffice for the number. -/
  lt : n < 0x10000
  /-- In small letters, these are the digits of the number. -/
  map_toLower : digits.map Char.toLower =
    [hexDigit (n / 4096), hexDigit (n / 256 % 16), hexDigit (n / 16 % 16), hexDigit (n % 16)]

/-- The ways to write a piece of a quoted text. -/
inductive Piece.Written : Piece → List Char → Prop
  /-- A character stands for itself. -/
  | raw {c : Char} (hcontrol : 0x20 ≤ c.toNat) (hquote : c ≠ '"') (hbackslash : c ≠ '\\') :
      Written (.char c) [c]
  /-- A letter stands for a character. -/
  | letter {letter c : Char} (h : (letter, c) ∈ letterEscapes) : Written (.char c) ['\\', letter]
  /-- The number of a code unit stands for it. -/
  | unit {n : Nat} {digits : List Char} (h : IsHex n digits) :
      Written (.unit n) ('\\' :: 'u' :: digits)

/-- The ways to write several pieces in a row. -/
inductive Content : List Piece → List Char → Prop
  | nil : Content [] []
  | cons {piece : Piece} {pieces : List Piece} {part content : List Char}
      (hpiece : piece.Written part) (hrest : Content pieces content) :
      Content (piece :: pieces) (part ++ content)

/-- The pieces that a text may be written in. -/
inductive MakesUp : List Piece → List Char → Prop
  | nil : MakesUp [] []
  /-- A character is a piece of its own. -/
  | char {c : Char} {pieces : List Piece} {text : List Char} (h : MakesUp pieces text) :
      MakesUp (.char c :: pieces) (c :: text)
  /-- A character is one code unit. -/
  | unit {c : Char} {pieces : List Piece} {text : List Char} (h : MakesUp pieces text) :
      MakesUp (.unit c.toNat :: pieces) (c :: text)
  /-- A character beyond the first 65,536 is a surrogate pair. -/
  | pair {c : Char} {pieces : List Piece} {text : List Char} (hc : 0x10000 ≤ c.toNat)
      (h : MakesUp pieces text) :
      MakesUp (.unit (0xd800 + (c.toNat - 0x10000) / 0x400) ::
        .unit (0xdc00 + (c.toNat - 0x10000) % 0x400) :: pieces) (c :: text)

/-- The ways to write a text. -/
def Writes (text content : List Char) : Prop :=
  ∃ pieces, MakesUp pieces text ∧ Content pieces content

/-- Characters that may stand for themselves are one of the ways to write them. -/
theorem content_of_raw {text : List Char}
    (h : ∀ c ∈ text, 0x20 ≤ c.toNat ∧ c ≠ '"' ∧ c ≠ '\\') : Content (text.map .char) text := by
  induction text with
  | nil => exact .nil
  | cons c text ih =>
    obtain ⟨hcontrol, hquote, hbackslash⟩ := h c List.mem_cons_self
    exact .cons (.raw hcontrol hquote hbackslash) (ih fun d hd => h d (List.mem_cons_of_mem c hd))

/-! ### Four hexadecimal digits -/

namespace IsHex

variable {n : Nat} {digits : List Char}

private theorem length_eq (h : IsHex n digits) : digits.length = 4 := by
  rw [← List.length_map Char.toLower, h.map_toLower]
  rfl

/-- The four digits are the last four of the number. -/
theorem map_toLower_eq (h : IsHex n digits) : digits.map Char.toLower = hexDigits 4 n := by
  have hlt := h.lt
  have hfirst : n / 4096 = n / 16 / 16 / 16 % 16 := by omega
  have hsecond : n / 256 % 16 = n / 16 / 16 % 16 := by omega
  rw [h.map_toLower, hfirst, hsecond]
  rfl

/-- The number is read from its digits. -/
private theorem hexNumber?_eq (h : IsHex n digits) : hexNumber? digits = some n := by
  rw [hexNumber?_eq_some_iff, h.length_eq]
  exact ⟨h.lt, h.map_toLower_eq⟩

theorem space_le (h : IsHex n digits) : ∀ c ∈ digits, 0x20 ≤ c.toNat :=
  space_le_of_map_toLower h.map_toLower_eq

end IsHex

/-! ### Reading what is written -/

/-- The letters are those that the reader knows. -/
theorem unescapeLetter?_of_mem {letter c : Char} (h : (letter, c) ∈ letterEscapes) :
    unescapeLetter? letter = some c ∧ letter ≠ 'u' := by
  have hall : ∀ entry ∈ letterEscapes,
      unescapeLetter? entry.1 = some entry.2 ∧ entry.1 ≠ 'u' := by decide
  exact hall _ h

/-- A letter behind a backslash is read as the character that it stands for. -/
theorem readQuoted?_letter {letter c : Char} (h : (letter, c) ∈ letterEscapes)
    (text : List Char) : readQuoted? ('\\' :: letter :: text) =
      (readQuoted? text).map fun (pieces, rest) => (.char c :: pieces, rest) := by
  obtain ⟨hread, hne⟩ := unescapeLetter?_of_mem h
  rw [readQuoted?, hread]
  · cases readQuoted? text <;> rfl
  · rintro _ _ _ _ _ rfl
    exact absurd rfl hne

private theorem readQuoted?_unit {n : Nat} {digits : List Char} (h : IsHex n digits)
    (text : List Char) : readQuoted? ('\\' :: 'u' :: (digits ++ text)) =
      (readQuoted? text).map fun (pieces, rest) => (.unit n :: pieces, rest) := by
  obtain ⟨a, b, c, d, rfl⟩ : ∃ a b c d, digits = [a, b, c, d] := by
    have hlength := h.length_eq
    match digits, hlength with
    | [a, b, c, d], _ => exact ⟨a, b, c, d, rfl⟩
  show readQuoted? ('\\' :: 'u' :: a :: b :: c :: d :: text) = _
  rw [readQuoted?, h.hexNumber?_eq]
  cases readQuoted? text <;> rfl

private theorem readQuoted?_raw {c : Char} (hcontrol : 0x20 ≤ c.toNat) (hquote : c ≠ '"')
    (hbackslash : c ≠ '\\') (text : List Char) : readQuoted? (c :: text) =
      (readQuoted? text).map fun (pieces, rest) => (.char c :: pieces, rest) := by
  have hne : ¬ (c = '\\' ∨ c.toNat < 0x20) := by
    rintro (h | h)
    · exact hbackslash h
    · omega
  rw [readQuoted?.eq_def]
  split
  next heq => cases heq
  next heq => exact absurd (List.head_eq_of_cons_eq heq) hquote
  next heq => exact absurd (List.head_eq_of_cons_eq heq) hbackslash
  next heq => exact absurd (List.head_eq_of_cons_eq heq) hbackslash
  next heq =>
    cases heq
    rw [if_neg hne]
    cases readQuoted? text <;> rfl

/-- A piece is read however it is written. -/
theorem readQuoted?_of_written {piece : Piece} {part : List Char} (h : piece.Written part)
    (text : List Char) : readQuoted? (part ++ text) =
      (readQuoted? text).map fun (pieces, rest) => (piece :: pieces, rest) := by
  cases h with
  | raw hcontrol hquote hbackslash => exact readQuoted?_raw hcontrol hquote hbackslash text
  | letter h => exact readQuoted?_letter h text
  | unit h => exact readQuoted?_unit h text

/-- Pieces are read however they are written, up to the quote that closes them and no further. -/
theorem readQuoted?_of_content {pieces : List Piece} {content : List Char}
    (h : Content pieces content) (rest : List Char) :
    readQuoted? (content ++ '"' :: rest) = some (pieces, rest) := by
  induction h with
  | nil => rw [List.nil_append, readQuoted?]
  | cons hpiece _ ih => rw [List.append_assoc, readQuoted?_of_written hpiece, ih, Option.map_some]

/-! ### The text that pieces make up -/

/-- No character is a surrogate, and all characters are below the end of the code points. -/
theorem toNat_bounds (c : Char) :
    c.toNat < 0xd800 ∨ 0xdfff < c.toNat ∧ c.toNat < 0x110000 := by
  have hvalid : c.toNat.isValidChar := c.valid
  rwa [Nat.isValidChar] at hvalid

private theorem isHighSurrogate_toNat (c : Char) : isHighSurrogate c.toNat = false := by
  have hbounds := toNat_bounds c
  simp only [isHighSurrogate, Bool.and_eq_false_iff, decide_eq_false_iff_not]
  omega

private theorem isPair_iff {high low : Nat} : (isHighSurrogate high && isLowSurrogate low) = true ↔
    (0xd800 ≤ high ∧ high < 0xdc00) ∧ 0xdc00 ≤ low ∧ low < 0xe000 := by
  simp only [isHighSurrogate, isLowSurrogate, Bool.and_eq_true, decide_eq_true_eq]

/-- The two halves of the surrogate pair that stands for a code point. -/
theorem joinSurrogates_eq_iff {high low n : Nat}
    (h : (isHighSurrogate high && isLowSurrogate low) = true) :
    joinSurrogates high low = n ↔ 0x10000 ≤ n ∧ high = 0xd800 + (n - 0x10000) / 0x400 ∧
      low = 0xdc00 + (n - 0x10000) % 0x400 := by
  have hpair := isPair_iff.1 h
  unfold joinSurrogates
  omega

private theorem decode?_of_makesUp {pieces : List Piece} {text : List Char}
    (h : MakesUp pieces text) : decode? pieces = some text := by
  induction h with
  | nil => rfl
  | char _ ih => rw [decode?, ih, Option.map_some]
  | @unit c _ _ _ ih =>
    rw [decode?_unit (isHighSurrogate_toNat c), scalar?_toNat, ih]
    rfl
  | @pair c _ _ hc _ ih =>
    have hbounds := toNat_bounds c
    have hpair := isPair_iff.2 (by omega :
      (0xd800 ≤ 0xd800 + (c.toNat - 0x10000) / 0x400 ∧
        0xd800 + (c.toNat - 0x10000) / 0x400 < 0xdc00) ∧
      0xdc00 ≤ 0xdc00 + (c.toNat - 0x10000) % 0x400 ∧
        0xdc00 + (c.toNat - 0x10000) % 0x400 < 0xe000)
    rw [decode?, if_pos hpair, (joinSurrogates_eq_iff hpair).2 ⟨hc, rfl, rfl⟩, scalar?_toNat, ih]
    rfl

private theorem makesUp_of_decode? {pieces : List Piece} {text : List Char}
    (h : decode? pieces = some text) : MakesUp pieces text := by
  fun_induction decode? pieces generalizing text with
  | case1 =>
    cases h
    exact .nil
  | case2 c pieces ih =>
    obtain ⟨rest, hrest, rfl⟩ := Option.map_eq_some_iff.1 h
    exact .char (ih hrest)
  | case3 high low pieces hsurrogates ih =>
    obtain ⟨c, hc, h⟩ := Option.bind_eq_some_iff.1 h
    obtain ⟨rest, hrest, rfl⟩ := Option.map_eq_some_iff.1 h
    have hjoin := (scalar?_eq_some_iff.1 hc).symm
    obtain ⟨hle, hhigh, hlow⟩ := (joinSurrogates_eq_iff hsurrogates).1 hjoin
    rw [hhigh, hlow]
    exact .pair hle (ih hrest)
  | case4 high low pieces _ ih =>
    obtain ⟨c, hc, h⟩ := Option.bind_eq_some_iff.1 h
    obtain ⟨rest, hrest, rfl⟩ := Option.map_eq_some_iff.1 h
    obtain rfl := scalar?_eq_some_iff.1 hc
    exact .unit (ih hrest)
  | case5 n pieces _ ih =>
    obtain ⟨c, hc, h⟩ := Option.bind_eq_some_iff.1 h
    obtain ⟨rest, hrest, rfl⟩ := Option.map_eq_some_iff.1 h
    obtain rfl := scalar?_eq_some_iff.1 hc
    exact .unit (ih hrest)

/-- The text that is read from pieces is the one that they make up. -/
theorem decode?_eq_some_iff {pieces : List Piece} {text : List Char} :
    decode? pieces = some text ↔ MakesUp pieces text :=
  ⟨makesUp_of_decode?, decode?_of_makesUp⟩

/-! ### What the printer writes -/

/-- The letters that the printer writes may stand behind a backslash. -/
private theorem mem_letterEscapes {c letter : Char} (h : escapeLetter? c = some letter) :
    (letter, c) ∈ letterEscapes := by
  unfold escapeLetter? at h
  split at h <;> cases h <;> decide

/-- The printer writes a character in one of the ways to write it. -/
theorem written_escape (c : Char) : (Piece.ofChar c).Written (escape c) := by
  rw [Piece.ofChar, escape]
  cases hletter : escapeLetter? c with
  | some letter => exact .letter (mem_letterEscapes hletter)
  | none =>
    by_cases hcontrol : c.toNat < 0x20
    · rw [if_pos ⟨rfl, hcontrol⟩]
      show Piece.Written (.unit c.toNat) (if c.toNat < 0x20 then _ else _)
      rw [if_pos hcontrol]
      refine .unit ⟨by omega, ?_⟩
      generalize c.toNat = n at hcontrol
      revert n
      decide
    · rw [if_neg fun h => hcontrol h.2]
      show Piece.Written (.char c) (if c.toNat < 0x20 then _ else _)
      rw [if_neg hcontrol]
      refine .raw (by omega) ?_ ?_
      · rintro rfl
        cases hletter
      · rintro rfl
        cases hletter

/-- The printer writes the text. -/
theorem writes_flatMap_escape (text : List Char) : Writes text (text.flatMap escape) := by
  refine ⟨text.map Piece.ofChar, makesUp_of_decode? (decode?_map_ofChar text), ?_⟩
  induction text with
  | nil => exact .nil
  | cons c text ih =>
    rw [List.map_cons, List.flatMap_cons]
    exact .cons (written_escape c) ih

/-! ### Control characters -/

private theorem Piece.Written.space_le {piece : Piece} {part : List Char} (h : piece.Written part) :
    ∀ c ∈ part, 0x20 ≤ c.toNat := by
  cases h with
  | raw hcontrol => simpa using hcontrol
  | letter h =>
    have hall : ∀ entry ∈ letterEscapes, 0x20 ≤ entry.1.toNat := by decide
    simpa using hall _ h
  | unit h => simpa using h.space_le

/-- Nothing is written as a control character. -/
theorem Content.space_le {pieces : List Piece} {content : List Char} (h : Content pieces content) :
    ∀ c ∈ content, 0x20 ≤ c.toNat := by
  induction h with
  | nil => simp
  | cons hpiece _ ih =>
    intro c hc
    rcases List.mem_append.1 hc with hc | hc
    · exact hpiece.space_le c hc
    · exact ih c hc

end CompileCommands.Json
