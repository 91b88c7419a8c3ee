import CompileCommands.Text.Hex
import CompileCommands.Text.Start

/-!
# Quoted text in TOML

A text is written between double quotes, where a backslash escapes, or between single quotes, where
every character stands for itself. Between single copies of its quote it stays on one line. Between
three copies it may run over several lines: a line feed right behind the opening quotes is no part
of it, a backslash at the end of a line joins the line to the next text, and one or two quotes
right in front of the closing ones belong to it.

## Main definitions

* `Toml.Form`: which quotes stand around a text.
* `Toml.readBody?`: the text up to its closing quotes.
* `Toml.readQuoted?`: a quoted text at the start of a text.

## Main results

* `Toml.length_readQuoted?`: a quoted text takes up part of the text.
-/

namespace CompileCommands.Toml

open Text

/-- Which quotes stand around a text. -/
structure Form where
  /-- The quote: a double quote, where a backslash escapes, or a single quote. -/
  quote : Char
  /-- Three copies of the quote stand on either side, and the text may run over several lines. -/
  multiline : Bool
  deriving DecidableEq, Repr

/-- A space or a tab. -/
def isSpace (c : Char) : Bool :=
  c == ' ' || c == '\t'

/-- A character that may stand for itself: a tab or any character but a control character. -/
def isTextChar (c : Char) : Bool :=
  c == '\t' || (0x20 ≤ c.toNat && c.toNat != 0x7f)

/-- The character that a letter behind a backslash stands for. -/
def escapeLetter? (letter : Char) : Option Char :=
  match letter with
  | '"' => some '"'
  | '\\' => some '\\'
  | 'b' => some '\x08'
  | 'f' => some '\x0c'
  | 'n' => some '\n'
  | 'r' => some '\r'
  | 't' => some '\t'
  | _ => none

/-- The character that an escape sequence behind its backslash stands for, and what follows it. -/
def readEscape? : List Char → Option (Char × List Char)
  | 'u' :: a :: b :: c :: d :: rest =>
    (hexNumber? [a, b, c, d] >>= scalar?).map (·, rest)
  | 'U' :: a :: b :: c :: d :: e :: f :: g :: h :: rest =>
    (hexNumber? [a, b, c, d, e, f, g, h] >>= scalar?).map (·, rest)
  | letter :: rest => (escapeLetter? letter).map (·, rest)
  | [] => none

/-- What follows a backslash at the end of a line: the first character behind it, on this or a
later line, that is not a space, a tab or a line feed. -/
def skipLineEnd? (text : List Char) : Option (List Char) :=
  match text.dropWhile isSpace with
  | '\n' :: rest => some (rest.dropWhile fun c => isSpace c || c == '\n')
  | _ => none

/-- The quotes of the text that stand right in front of the closing ones, and what follows those,
if the closing quotes are reached. -/
def readClosing? (form : Form) (text : List Char) : Option (List Char × List Char) :=
  if form.multiline then do
    let rest ← after? [form.quote, form.quote, form.quote] text
    let extra := (rest.takeWhile (· == form.quote)).take 2
    some (extra, rest.drop extra.length)
  else do
    let rest ← after? [form.quote] text
    some ([], rest)

theorem length_readEscape? {text rest : List Char} {c : Char}
    (h : readEscape? text = some (c, rest)) : rest.length < text.length := by
  unfold readEscape? at h
  split at h
  case h_4 => simp at h
  all_goals
    simp only [Option.map_eq_some_iff, Prod.mk.injEq] at h
    obtain ⟨_, _, _, rfl⟩ := h
    simp only [List.length_cons]
    omega

theorem length_skipLineEnd? {text rest : List Char} (h : skipLineEnd? text = some rest) :
    rest.length < text.length := by
  have hspace := (List.dropWhile_suffix isSpace (l := text)).length_le
  unfold skipLineEnd? at h
  split at h
  case h_1 tail heq =>
    have htail := (List.dropWhile_suffix (fun c => isSpace c || c == '\n') (l := tail)).length_le
    cases h
    rw [heq, List.length_cons] at hspace
    omega
  case h_2 => simp at h

private theorem length_readClosing? {form : Form} {text rest extra : List Char}
    (h : readClosing? form text = some (extra, rest)) : rest.length < text.length := by
  unfold readClosing? at h
  split at h
  · simp only [Option.bind_eq_bind, Option.bind_eq_some_iff, Option.some.injEq,
      Prod.mk.injEq] at h
    obtain ⟨_, hafter, _, rfl⟩ := h
    rw [after?_eq_some_iff.1 hafter]
    simp
    omega
  · simp only [Option.bind_eq_bind, Option.bind_eq_some_iff, Option.some.injEq,
      Prod.mk.injEq] at h
    obtain ⟨_, hafter, _, rfl⟩ := h
    rw [after?_eq_some_iff.1 hafter]
    simp

/-- The text up to its closing quotes, and what follows those. -/
def readBody? (form : Form) (text : List Char) : Option (List Char × List Char) :=
  match readClosing? form text with
  | some (extra, rest) => some (extra, rest)
  | none =>
    match text with
    | [] => none
    | c :: tail =>
      if c = '\\' ∧ form.quote = '"' then
        match h : readEscape? tail with
        | some (escaped, rest) =>
          have := length_readEscape? h
          (readBody? form rest).map fun (text, rest) => (escaped :: text, rest)
        | none =>
          if form.multiline then
            match h : skipLineEnd? tail with
            | some rest =>
              have := length_skipLineEnd? h
              readBody? form rest
            | none => none
          else none
      else if isTextChar c || (form.multiline && c == '\n') then
        (readBody? form tail).map fun (text, rest) => (c :: text, rest)
      else none
termination_by text.length
decreasing_by all_goals (simp_all only [List.length_cons]; omega)

/-- The text without the line feed that it may begin with. -/
def skipLineFeed : List Char → List Char
  | '\n' :: text => text
  | text => text

/-- The form of the quoted text at the start of a text, and what follows its opening quotes. -/
def readOpening? : List Char → Option (Form × List Char)
  | [] => none
  | quote :: text =>
    if quote = '"' ∨ quote = '\'' then
      match after? [quote, quote] text with
      | some rest => some (⟨quote, true⟩, skipLineFeed rest)
      | none => some (⟨quote, false⟩, text)
    else none

/-- The quoted text at the start of a text, and what follows it. -/
def readQuoted? (text : List Char) : Option (Form × List Char × List Char) := do
  let (form, rest) ← readOpening? text
  let (body, rest) ← readBody? form rest
  some (form, body, rest)

/-! ### A quoted text takes up part of the text -/

private theorem length_readBody? {form : Form} {text body rest : List Char}
    (h : readBody? form text = some (body, rest)) : rest.length < text.length := by
  fun_induction readBody? form text generalizing body with
  | case1 text extra rest' hclosing =>
    have := length_readClosing? hclosing
    simp_all
  | case2 => simp at h
  | case3 c tail _ _ escaped rest' hescape _ ih =>
    simp only [Option.map_eq_some_iff, Prod.mk.injEq] at h
    obtain ⟨⟨_, _⟩, hbody, _, rfl⟩ := h
    have := ih hbody
    simp only [List.length_cons] at this ⊢
    omega
  | case4 c tail _ _ _ rest' hskip _ _ ih =>
    have := ih h
    simp only [List.length_cons]
    omega
  | case5 => simp at h
  | case6 => simp at h
  | case7 c tail _ _ _ ih =>
    simp only [Option.map_eq_some_iff, Prod.mk.injEq] at h
    obtain ⟨⟨_, _⟩, hbody, _, rfl⟩ := h
    have := ih hbody
    simp only [List.length_cons] at this ⊢
    omega
  | case8 => simp at h

private theorem length_skipLineFeed (text : List Char) :
    (skipLineFeed text).length ≤ text.length := by
  unfold skipLineFeed
  split <;> simp

private theorem length_readOpening? {form : Form} {text rest : List Char}
    (h : readOpening? text = some (form, rest)) : rest.length < text.length := by
  unfold readOpening? at h
  split at h
  case h_1 => simp at h
  case h_2 quote text =>
    split at h
    case isFalse => simp at h
    case isTrue =>
      split at h
      case h_1 tail hafter =>
        have hlength := length_skipLineFeed tail
        cases h
        rw [after?_eq_some_iff.1 hafter]
        simp
        omega
      case h_2 =>
        cases h
        simp

/-- A quoted text takes up part of the text. -/
theorem length_readQuoted? {form : Form} {text body rest : List Char}
    (h : readQuoted? text = some (form, body, rest)) : rest.length < text.length := by
  simp only [readQuoted?, Option.bind_eq_bind, Option.bind_eq_some_iff, Option.some.injEq,
    Prod.mk.injEq] at h
  obtain ⟨⟨_, _⟩, hopening, ⟨_, _⟩, hbody, _, _, rfl⟩ := h
  exact Nat.lt_trans (length_readBody? hbody) (length_readOpening? hopening)

end CompileCommands.Toml
