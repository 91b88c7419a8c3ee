import CompileCommands.Text.Hex

/-!
# Quoted text in JSON

A text is written between double quotes. Double quotes, backslashes and control characters are
escaped, by a letter where JSON has one for them and otherwise by their code point; every other
character stands for itself.

Reading goes the other way in two steps, because a quoted text need not be a text. An escape
sequence names a UTF-16 code unit, and half of a surrogate pair may stand alone. The first step
takes the quoted text apart into characters and code units. The second puts pairs together and
refuses lone halves; it is left out for texts that nobody looks at.

## Main definitions

* `Json.escape`, `Json.quote`: writing a text.
* `Json.Piece`: a character or a code unit.
* `Json.readQuoted?`: the pieces of a quoted text.
* `Json.decode?`: the text that pieces make up.

## Main results

* `Json.readQuoted?_quote`, `Json.decode?_map_ofChar`: a text that was written is read back.
* `Json.decode?_map_char`: characters make up their text.
-/

namespace CompileCommands.Json

open Text

/-! ### Writing -/

/-- The letter that stands for a character behind a backslash. -/
def escapeLetter? (c : Char) : Option Char :=
  match c with
  | '"' => some '"'
  | '\\' => some '\\'
  | '\x08' => some 'b'
  | '\t' => some 't'
  | '\n' => some 'n'
  | '\x0c' => some 'f'
  | '\r' => some 'r'
  | _ => none

/-- A character as it is written in a quoted text. -/
def escape (c : Char) : List Char :=
  match escapeLetter? c with
  | some letter => ['\\', letter]
  | none =>
    if c.toNat < 0x20 then
      ['\\', 'u', '0', '0', hexDigit (c.toNat / 16), hexDigit (c.toNat % 16)]
    else [c]

/-- A text as it is written between double quotes. -/
def quote (text : List Char) : List Char :=
  '"' :: text.flatMap escape ++ ['"']

/-! ### Reading -/

/-- A part of a quoted text. -/
inductive Piece where
  /-- A character that stands for itself or is escaped by a letter. -/
  | char (c : Char)
  /-- A UTF-16 code unit, escaped by its number. -/
  | unit (n : Nat)
  deriving DecidableEq, Repr

/-- The character that a letter behind a backslash stands for. -/
def unescapeLetter? (letter : Char) : Option Char :=
  match letter with
  | '"' => some '"'
  | '\\' => some '\\'
  | '/' => some '/'
  | 'b' => some '\x08'
  | 't' => some '\t'
  | 'n' => some '\n'
  | 'f' => some '\x0c'
  | 'r' => some '\r'
  | _ => none

/-- The pieces of a quoted text behind its opening quote, and what follows its closing quote. -/
def readQuoted? : List Char → Option (List Piece × List Char)
  | [] => none
  | '"' :: rest => some ([], rest)
  | '\\' :: 'u' :: a :: b :: c :: d :: rest => do
    let n ← hexNumber? [a, b, c, d]
    let (pieces, rest) ← readQuoted? rest
    some (.unit n :: pieces, rest)
  | '\\' :: letter :: rest => do
    let c ← unescapeLetter? letter
    let (pieces, rest) ← readQuoted? rest
    some (.char c :: pieces, rest)
  | c :: rest =>
    if c = '\\' ∨ c.toNat < 0x20 then none
    else do
      let (pieces, rest) ← readQuoted? rest
      some (.char c :: pieces, rest)

/-- The first half of a surrogate pair. -/
def isHighSurrogate (n : Nat) : Bool :=
  0xd800 ≤ n && n < 0xdc00

/-- The second half of a surrogate pair. -/
def isLowSurrogate (n : Nat) : Bool :=
  0xdc00 ≤ n && n < 0xe000

/-- The code point that the two halves of a surrogate pair stand for. -/
def joinSurrogates (high low : Nat) : Nat :=
  0x10000 + 0x400 * (high - 0xd800) + (low - 0xdc00)

/-- The text that pieces make up, if no half of a surrogate pair stands alone. -/
def decode? : List Piece → Option (List Char)
  | [] => some []
  | .char c :: pieces => (decode? pieces).map (c :: ·)
  | .unit high :: .unit low :: pieces =>
    if isHighSurrogate high && isLowSurrogate low then do
      let c ← scalar? (joinSurrogates high low)
      (decode? pieces).map (c :: ·)
    else do
      let c ← scalar? high
      (decode? (.unit low :: pieces)).map (c :: ·)
  | .unit n :: pieces => do
    let c ← scalar? n
    (decode? pieces).map (c :: ·)

theorem length_readQuoted? {text rest : List Char} {pieces : List Piece}
    (h : readQuoted? text = some (pieces, rest)) : rest.length < text.length := by
  fun_induction readQuoted? text generalizing pieces with
  | case1 => simp at h
  | case2 => simp_all
  | case3 a b c d rest ih =>
    simp only [Option.bind_eq_bind, Option.bind_eq_some_iff, Option.some.injEq,
      Prod.mk.injEq] at h
    obtain ⟨_, _, ⟨_, _⟩, hrest, _, rfl⟩ := h
    have := ih hrest
    simp only [List.length_cons] at this ⊢
    omega
  | case4 letter rest _ ih =>
    simp only [Option.bind_eq_bind, Option.bind_eq_some_iff, Option.some.injEq,
      Prod.mk.injEq] at h
    obtain ⟨_, _, ⟨_, _⟩, hrest, _, rfl⟩ := h
    have := ih hrest
    simp only [List.length_cons] at this ⊢
    omega
  | case5 => simp at h
  | case6 c rest _ _ _ _ ih =>
    simp only [Option.bind_eq_bind, Option.bind_eq_some_iff, Option.some.injEq,
      Prod.mk.injEq] at h
    obtain ⟨⟨_, _⟩, hrest, _, rfl⟩ := h
    have := ih hrest
    simp only [List.length_cons] at this ⊢
    omega

/-- Characters make up their text. -/
theorem decode?_map_char (text : List Char) : decode? (text.map .char) = some text := by
  induction text with
  | nil => rfl
  | cons c text ih => simp [decode?, ih]

/-- A code unit that opens no surrogate pair is a character of its own. -/
theorem decode?_unit {n : Nat} (h : isHighSurrogate n = false) (pieces : List Piece) :
    decode? (.unit n :: pieces) = (do
      let c ← scalar? n
      (decode? pieces).map (c :: ·)) := by
  rcases pieces with _ | ⟨_ | _, _⟩ <;> simp [decode?, h]

/-! ### Reading what was written -/

/-- The piece that a written character is read as. -/
def Piece.ofChar (c : Char) : Piece :=
  if escapeLetter? c = none ∧ c.toNat < 0x20 then .unit c.toNat else .char c

/-- A letter that stands for a character is read as that character. -/
theorem unescapeLetter?_of_escapeLetter? {c letter : Char} (h : escapeLetter? c = some letter) :
    unescapeLetter? letter = some c ∧ letter ≠ 'u' := by
  unfold escapeLetter? at h
  split at h <;> simp at h <;> subst h <;> decide

/-- The two digits of a control character are read as its code point. -/
theorem hexNumber?_control {n : Nat} (h : n < 0x20) :
    hexNumber? ['0', '0', hexDigit (n / 16), hexDigit (n % 16)] = some n := by
  revert n
  decide

/-- A written character is read as one piece. -/
theorem readQuoted?_escape (c : Char) (text : List Char) :
    readQuoted? (escape c ++ text) =
      (readQuoted? text).map fun (pieces, rest) => (Piece.ofChar c :: pieces, rest) := by
  cases hletter : escapeLetter? c with
  | some letter =>
    obtain ⟨hread, hne⟩ := unescapeLetter?_of_escapeLetter? hletter
    have heq : readQuoted? ('\\' :: letter :: text) = (do
        let c ← unescapeLetter? letter
        let (pieces, rest) ← readQuoted? text
        some (.char c :: pieces, rest)) := by
      rw [readQuoted?]
      rintro _ _ _ _ _ rfl
      exact absurd rfl hne
    cases hrest : readQuoted? text <;>
      simp [escape, hletter, heq, hread, hrest, Piece.ofChar]
  | none =>
    by_cases hcontrol : c.toNat < 0x20
    · have heq : Piece.ofChar c = .unit c.toNat := by simp [Piece.ofChar, hletter, hcontrol]
      cases hrest : readQuoted? text <;>
        simp [escape, hletter, hcontrol, readQuoted?, hexNumber?_control hcontrol, hrest, heq]
    · have hquote : c ≠ '"' := by rintro rfl; simp [escapeLetter?] at hletter
      have hbackslash : c ≠ '\\' := by rintro rfl; simp [escapeLetter?] at hletter
      have heq : Piece.ofChar c = .char c := by simp [Piece.ofChar, hcontrol]
      cases hrest : readQuoted? text <;>
        simp [escape, hletter, hcontrol, readQuoted?, hbackslash, hrest, heq]

/-- A written text is read as its characters, up to its closing quote. -/
theorem readQuoted?_quote (text rest : List Char) :
    readQuoted? (text.flatMap escape ++ '"' :: rest) = some (text.map Piece.ofChar, rest) := by
  induction text with
  | nil => simp [readQuoted?]
  | cons c text ih => simp [readQuoted?_escape, ih]

/-- The pieces of a written text make up that text. -/
theorem decode?_map_ofChar (text : List Char) : decode? (text.map Piece.ofChar) = some text := by
  induction text with
  | nil => rfl
  | cons c text ih =>
    by_cases h : escapeLetter? c = none ∧ c.toNat < 0x20
    · have heq : Piece.ofChar c = .unit c.toNat := by simp [Piece.ofChar, h]
      have hhigh : isHighSurrogate c.toNat = false := by
        simp [isHighSurrogate]
        omega
      simp [heq, decode?_unit hhigh, scalar?_toNat, ih]
    · have heq : Piece.ofChar c = .char c := by simp [Piece.ofChar, h]
      simp [heq, decode?, ih]

end CompileCommands.Json
