import CompileCommands.Proofs.Text.Hex
import CompileCommands.Proofs.Toml.Locality
import Mathlib.Data.List.Basic

/-!
# The ways to write a text

Between double quotes a character may be written as an escape: seven characters as a letter behind a
backslash, and every character by its code point, in four hexadecimal digits if they suffice or in
eight. Whatever is no control character may stand for itself, unless it would be read as a backslash
or together with what follows as the closing quotes.

This file describes the ways to write a text on their own, without a reader in mind. All of them are
read back as the text, and nothing else is read as a text.

## Main definitions

* `Toml.Escape`: the ways to write a character behind a backslash.
* `Toml.Body`: the ways to write a text up to its closing quotes.
* `Toml.Literal`: the ways to write a text between quotes.

## Main results

* `Toml.readEscape?_eq_some_iff`: escapes are what is read as one.
* `Toml.Literal.readQuoted?_append`: a text is read however it is written.
* `Toml.exists_literal_of_readQuoted?`: what is read as a text is one of the ways to write it.
* `Toml.exists_literal`: every text can be written.
-/

namespace CompileCommands.Toml

open Text

/-! ### Escapes -/

/-- The letters that may stand behind a backslash, with the characters that they stand for. -/
def escapeLetters : List (Char × Char) :=
  [('"', '"'), ('\\', '\\'), ('b', '\x08'), ('f', '\x0c'), ('n', '\n'), ('r', '\r'), ('t', '\t')]

/-- The code point of a character in hexadecimal digits, of either size. -/
structure IsCode (c : Char) (digits : List Char) : Prop where
  /-- The digits suffice for the code point. -/
  lt : c.toNat < 16 ^ digits.length
  /-- In small letters, these are the digits of the code point. -/
  map_toLower : digits.map Char.toLower = hexDigits digits.length c.toNat

/-- The ways to write a character behind a backslash. -/
inductive Escape (c : Char) : List Char → Prop
  /-- A letter stands for the character. -/
  | letter {letter : Char} (h : (letter, c) ∈ escapeLetters) : Escape c [letter]
  /-- The code point stands for the character, in four digits. -/
  | short {digits : List Char} (hlength : digits.length = 4) (h : IsCode c digits) :
      Escape c ('u' :: digits)
  /-- The code point stands for the character, in eight digits. -/
  | long {digits : List Char} (hlength : digits.length = 8) (h : IsCode c digits) :
      Escape c ('U' :: digits)

/-- The digits of a code point are what is read as the character. -/
theorem isCode_iff {c : Char} {digits : List Char} :
    IsCode c digits ↔ (hexNumber? digits >>= scalar?) = some c := by
  constructor
  · intro h
    exact Option.bind_eq_some_iff.2
      ⟨c.toNat, hexNumber?_eq_some_iff.2 ⟨h.lt, h.map_toLower⟩, scalar?_toNat c⟩
  · intro h
    obtain ⟨n, hn, hc⟩ := Option.bind_eq_some_iff.1 h
    obtain rfl := scalar?_eq_some_iff.1 hc
    obtain ⟨hlt, hdigits⟩ := hexNumber?_eq_some_iff.1 hn
    exact ⟨hlt, hdigits⟩

private theorem escapeLetter?_of_mem {letter c : Char} (h : (letter, c) ∈ escapeLetters) :
    escapeLetter? letter = some c ∧ letter ≠ 'u' ∧ letter ≠ 'U' := by
  have hall : ∀ entry ∈ escapeLetters,
      escapeLetter? entry.1 = some entry.2 ∧ entry.1 ≠ 'u' ∧ entry.1 ≠ 'U' := by decide
  exact hall _ h

private theorem mem_escapeLetters {letter c : Char} (h : escapeLetter? letter = some c) :
    (letter, c) ∈ escapeLetters := by
  unfold escapeLetter? at h
  split at h <;> cases h <;> decide

variable {text rest : List Char}

/-- An escape is read, whatever follows it. -/
theorem Escape.readEscape?_append {c : Char} {written : List Char} (h : Escape c written)
    (rest : List Char) : readEscape? (written ++ rest) = some (c, rest) := by
  cases h with
  | @letter letter h =>
    obtain ⟨hletter, hshort, hlong⟩ := escapeLetter?_of_mem h
    show readEscape? (letter :: rest) = _
    unfold readEscape?
    split
    next heq => exact absurd (List.head_eq_of_cons_eq heq) hshort
    next heq => exact absurd (List.head_eq_of_cons_eq heq) hlong
    next heq =>
      cases heq
      rw [hletter]
      rfl
    next heq => cases heq
  | @short digits hlength h =>
    match digits, hlength with
    | [a, b, c, d], _ =>
      show (Option.map _ (hexNumber? [a, b, c, d] >>= scalar?)) = _
      rw [isCode_iff.1 h]
      rfl
  | @long digits hlength h =>
    match digits, hlength with
    | [a, b, c, d, e, f, g, i], _ =>
      show (Option.map _ (hexNumber? [a, b, c, d, e, f, g, i] >>= scalar?)) = _
      rw [isCode_iff.1 h]
      rfl

/-- **Escapes are what is read as one.** -/
theorem readEscape?_eq_some_iff {c : Char} :
    readEscape? text = some (c, rest) ↔ ∃ written, Escape c written ∧ text = written ++ rest := by
  constructor
  · intro h
    unfold readEscape? at h
    split at h
    case h_1 =>
      obtain ⟨_, hcode, heq⟩ := Option.map_eq_some_iff.1 h
      cases heq
      exact ⟨_, .short rfl (isCode_iff.2 hcode), rfl⟩
    case h_2 =>
      obtain ⟨_, hcode, heq⟩ := Option.map_eq_some_iff.1 h
      cases heq
      exact ⟨_, .long rfl (isCode_iff.2 hcode), rfl⟩
    case h_3 =>
      obtain ⟨_, hletter, heq⟩ := Option.map_eq_some_iff.1 h
      cases heq
      exact ⟨_, .letter (mem_escapeLetters hletter), rfl⟩
    case h_4 => cases h
  · rintro ⟨written, h, rfl⟩
    exact h.readEscape?_append rest

/-! ### Up to the closing quotes -/

/-- The ways to write a text up to its closing quotes, and with these. -/
inductive Body (form : Form) : List Char → List Char → Prop
  /-- The closing quotes. Of three, up to two quotes of the text may stand in front. -/
  | closing {count : Nat} (hcount : count ≤ if form.multiline then 2 else 0) :
      Body form (List.replicate count form.quote) (List.replicate (form.width + count) form.quote)
  /-- A character stands for itself. -/
  | raw {c : Char} {text written : List Char}
      (htext : isTextChar c = true ∨ form.multiline = true ∧ c = '\n')
      (hbackslash : form.quote = '"' → c ≠ '\\')
      (hquotes : ¬ List.replicate form.width form.quote <+: c :: written)
      (h : Body form text written) : Body form (c :: text) (c :: written)
  /-- An escape stands for a character. -/
  | escape {c : Char} {text escape written : List Char} (hquote : form.quote = '"')
      (hescape : Escape c escape) (h : Body form text written) :
      Body form (c :: text) ('\\' :: (escape ++ written))
  /-- A backslash at the end of a line stands for nothing, with all blanks behind it. -/
  | lineEnd {text spaces blanks written : List Char} (hquote : form.quote = '"')
      (hmultiline : form.multiline = true) (hspaces : ∀ c ∈ spaces, isSpace c = true)
      (hblanks : ∀ c ∈ blanks, (isSpace c || c == '\n') = true)
      (hhead : ∀ c ∈ written.head?, (isSpace c || c == '\n') = false)
      (h : Body form text written) :
      Body form text ('\\' :: (spaces ++ '\n' :: (blanks ++ written)))

section Body

variable {form : Form} {written value : List Char}

/-- On one line, the closing quote alone stands for an empty text. -/
theorem Body.nil (quote : Char) : Body ⟨quote, false⟩ [] [quote] := by
  have hclosing : Body ⟨quote, false⟩ (List.replicate 0 quote) _ := .closing (Nat.le_refl 0)
  exact hclosing

private theorem Form.width_pos (form : Form) : 0 < form.width := by
  rw [Form.width]
  split <;> decide

private theorem Body.width_le (h : Body form text written) : form.width ≤ written.length := by
  induction h with
  | closing => simp
  | raw _ _ _ _ ih => exact Nat.le_succ_of_le ih
  | escape _ _ _ ih => simp; omega
  | lineEnd _ _ _ _ _ _ ih => simp; omega

theorem Body.ne_nil (h : Body form text written) : written ≠ [] :=
  List.ne_nil_of_length_pos (Nat.lt_of_lt_of_le form.width_pos h.width_le)

/-- Where no closing quotes stand, and whether some do can be told, none are read. -/
private theorem readClosing?_append_of_not_isPrefix (hwidth : form.width ≤ written.length)
    (hquotes : ¬ List.replicate form.width form.quote <+: written) (rest : List Char) :
    readClosing? form (written ++ rest) = none := by
  rw [readClosing?_eq_none_iff, after?_eq_none_iff]
  intro hprefix
  exact hquotes (List.prefix_of_prefix_length_le hprefix (List.prefix_append ..) (by simpa))

private theorem readClosing?_backslash (hquote : form.quote = '"') (tail : List Char) :
    readClosing? form ('\\' :: tail) = none := by
  rw [readClosing?_eq_none_iff, hquote, Form.width]
  split <;> rfl

/-- The closing quotes are read, with the quotes of the text in front of them. -/
private theorem readClosing?_replicate {count : Nat}
    (hcount : count ≤ if form.multiline then 2 else 0)
    (hrest : rest.head? ≠ some form.quote) :
    readClosing? form (List.replicate (form.width + count) form.quote ++ rest) =
      some (List.replicate count form.quote, rest) := by
  obtain ⟨quote, _ | _⟩ := form
  · obtain rfl := Nat.le_zero.1 hcount
    simp [readClosing?, Form.width, after?]
  · have hrun : (List.replicate count quote ++ rest).takeWhile (· == quote) =
        List.replicate count quote := by
      refine takeWhile_append_eq_left (by simp) fun c hc => ?_
      rw [beq_eq_false_iff_ne]
      rintro rfl
      exact hrest hc
    have htake : (List.replicate count quote).take 2 = List.replicate count quote :=
      List.take_of_length_le (by simpa using hcount)
    have hthree : List.replicate (3 + count) quote =
        [quote, quote, quote] ++ List.replicate count quote :=
      List.replicate_append_replicate.symm
    show readClosing? _ (List.replicate (3 + count) quote ++ rest) = _
    rw [hthree, List.append_assoc, readClosing?, if_pos rfl, after?_append]
    simp only [Option.bind_eq_bind, Option.bind_some, hrun, htake, List.drop_left]

/-- What closing quotes are read from. -/
private theorem exists_replicate_of_readClosing? {extra : List Char}
    (h : readClosing? form text = some (extra, rest)) :
    ∃ count, count ≤ (if form.multiline then 2 else 0) ∧
      extra = List.replicate count form.quote ∧
      text = List.replicate (form.width + count) form.quote ++ rest := by
  obtain ⟨quote, _ | _⟩ := form
  · obtain ⟨behind, hbehind, heq⟩ := Option.bind_eq_some_iff.1 h
    cases heq
    exact ⟨0, Nat.le_refl 0, rfl, after?_eq_some_iff.1 hbehind⟩
  · obtain ⟨behind, hbehind, heq⟩ := Option.bind_eq_some_iff.1 h
    cases heq
    let extra := (behind.takeWhile (· == quote)).take 2
    have hextra : extra = List.replicate extra.length quote := by
      refine List.eq_replicate_of_mem fun c hc => eq_of_beq ?_
      exact of_mem_takeWhile (p := (· == quote)) c (List.mem_of_mem_take hc)
    have hprefix : extra <+: behind := (List.take_prefix ..).trans (List.takeWhile_prefix _)
    refine ⟨extra.length, List.length_take_le .., hextra, ?_⟩
    show text = List.replicate (3 + extra.length) quote ++ behind.drop extra.length
    rw [after?_eq_some_iff.1 hbehind, ← List.replicate_append_replicate, ← hextra,
      List.append_assoc, List.prefix_iff_eq_append.1 hprefix]
    rfl

/-- What a backslash at the end of a line is read from. -/
private theorem exists_of_skipLineEnd? (h : skipLineEnd? text = some rest) :
    ∃ spaces blanks, (∀ c ∈ spaces, isSpace c = true) ∧
      (∀ c ∈ blanks, (isSpace c || c == '\n') = true) ∧
      (∀ c ∈ rest.head?, (isSpace c || c == '\n') = false) ∧
      text = spaces ++ '\n' :: (blanks ++ rest) := by
  rw [skipLineEnd?] at h
  split at h
  next behind heq =>
    cases h
    refine ⟨text.takeWhile isSpace, behind.takeWhile fun c => isSpace c || c == '\n',
      of_mem_takeWhile, of_mem_takeWhile, not_of_mem_head?_dropWhile, ?_⟩
    rw [List.takeWhile_append_dropWhile, ← heq, List.takeWhile_append_dropWhile]
  next => cases h

/-- **A text is read however it is written**, up to its closing quotes. -/
theorem Body.readBody?_append (h : Body form text written)
    (hrest : rest.head? ≠ some form.quote) :
    readBody? form (written ++ rest) = some (text, rest) := by
  -- That no closing quotes stand in front can be told from what is written, for it has some at its
  -- end. So what follows has a say at the end only.
  induction h with
  | closing hcount => rw [readBody?.eq_def, readClosing?_replicate hcount hrest]
  | @raw c text written htext hbackslash hquotes h ih =>
    have hclosing : readClosing? form (c :: (written ++ rest)) = none :=
      readClosing?_append_of_not_isPrefix (Nat.le_succ_of_le h.width_le) hquotes rest
    have hplain : ¬ (c = '\\' ∧ form.quote = '"') := fun h => hbackslash h.2 h.1
    rw [List.cons_append, readBody?_of_text hclosing hplain (by simpa using htext), ih]
    rfl
  | escape hquote hescape _ ih =>
    rw [List.cons_append, List.append_assoc,
      readBody?_of_escape (readClosing?_backslash hquote _) hquote
        (hescape.readEscape?_append _), ih]
    rfl
  | @lineEnd text spaces blanks written hquote hmultiline hspaces hblanks hhead h ih =>
    have hskip : skipLineEnd? (spaces ++ '\n' :: (blanks ++ (written ++ rest))) =
        some (written ++ rest) := by
      rw [skipLineEnd?, dropWhile_append_eq_right hspaces (by simp [isSpace])]
      refine congrArg some (dropWhile_append_eq_right hblanks ?_)
      rwa [List.head?_append_of_ne_nil _ h.ne_nil]
    rw [List.cons_append, List.append_assoc, List.cons_append, List.append_assoc,
      readBody?_of_lineEnd (readClosing?_backslash hquote _) hquote (readEscape?_eq_none hskip)
        hmultiline hskip, ih]

/-- **What is read as a text is one of the ways to write it**, up to its closing quotes. -/
theorem exists_body_of_readBody? (h : readBody? form text = some (value, rest)) :
    ∃ written, Body form value written ∧ text = written ++ rest := by
  -- One case for each way in which the reader goes on.
  fun_induction readBody? form text generalizing value with
  | case1 text extra rest' hclosing =>
    cases h
    obtain ⟨count, hcount, rfl, rfl⟩ := exists_replicate_of_readClosing? hclosing
    exact ⟨_, .closing hcount, rfl⟩
  | case2 => cases h
  | case3 c tail hquote escaped rest' hescape _ hclosing ih =>
    obtain ⟨⟨text, behind⟩, hbody, heq⟩ := Option.map_eq_some_iff.1 h
    cases heq
    obtain ⟨rfl, hquote⟩ := hquote
    obtain ⟨written, hwritten, rfl⟩ := ih hbody
    obtain ⟨escape, hescaped, rfl⟩ := readEscape?_eq_some_iff.1 hescape
    exact ⟨_, .escape hquote hescaped hwritten, by simp⟩
  | case4 c tail hquote hescape hmultiline rest' hskip _ hclosing ih =>
    obtain ⟨rfl, hquote⟩ := hquote
    obtain ⟨written, hwritten, rfl⟩ := ih h
    obtain ⟨spaces, blanks, hspaces, hblanks, hhead, rfl⟩ := exists_of_skipLineEnd? hskip
    rw [List.head?_append_of_ne_nil _ hwritten.ne_nil] at hhead
    exact ⟨_, .lineEnd hquote hmultiline hspaces hblanks hhead hwritten, by simp⟩
  | case5 => cases h
  | case6 => cases h
  | case7 c tail hplain htext hclosing ih =>
    obtain ⟨⟨text, behind⟩, hbody, heq⟩ := Option.map_eq_some_iff.1 h
    cases heq
    obtain ⟨written, hwritten, rfl⟩ := ih hbody
    refine ⟨c :: written, .raw (by simpa using htext) (fun hquote hc => hplain ⟨hc, hquote⟩) ?_
      hwritten, rfl⟩
    rw [readClosing?_eq_none_iff, after?_eq_none_iff] at hclosing
    exact fun hquotes => hclosing (hquotes.trans (List.prefix_append (c :: written) _))
  | case8 => cases h

end Body

/-! ### Between quotes -/

/-- The ways to write a text between quotes. -/
inductive Literal : Form → List Char → List Char → Prop
  /-- On one line. -/
  | line {quote : Char} {text written : List Char} (hquote : quote = '"' ∨ quote = '\'')
      (h : Body ⟨quote, false⟩ text written) : Literal ⟨quote, false⟩ text (quote :: written)
  /-- Over several lines. A line feed right behind the opening quotes stands for nothing. -/
  | lines {quote : Char} {text feed written : List Char} (hquote : quote = '"' ∨ quote = '\'')
      (hfeed : feed = ['\n'] ∨ feed = [] ∧ written.head? ≠ some '\n')
      (h : Body ⟨quote, true⟩ text written) :
      Literal ⟨quote, true⟩ text ([quote, quote, quote] ++ (feed ++ written))

section Literal

variable {form : Form} {written value : List Char}

/-- The first quote is not one of three. -/
theorem Body.after?_eq_none {quote : Char} (h : Body ⟨quote, false⟩ text written)
    (hrest : rest.head? ≠ some quote) : after? [quote, quote] (written ++ rest) = none := by
  rw [after?_eq_none_iff]
  rintro ⟨behind, hbehind⟩
  cases h with
  | closing hcount =>
    obtain rfl := Nat.le_zero.1 hcount
    have hrest' : quote :: behind = rest := (List.cons.inj hbehind).2
    exact hrest (by rw [← hrest', List.head?_cons])
  | raw _ _ hquotes =>
    obtain rfl := (List.cons.inj hbehind).1
    exact hquotes (List.prefix_append [_] _)
  | escape hquote =>
    have hbackslash : quote = '\\' := (List.cons.inj hbehind).1
    exact absurd (hbackslash.symm.trans hquote) (by decide)
  | lineEnd _ hmultiline => cases hmultiline

private theorem skipLineFeed_of_head? (h : text.head? ≠ some '\n') : skipLineFeed text = text := by
  rw [skipLineFeed.eq_def]
  split
  next => exact absurd rfl h
  next => rfl

/-- **A text between quotes is read however it is written**, unless a further quote follows. -/
theorem Literal.readQuoted?_append (h : Literal form text written)
    (hrest : rest.head? ≠ some form.quote) :
    readQuoted? (written ++ rest) = some (form, text, rest) := by
  cases h with
  | line hquote h =>
    rw [List.cons_append, readQuoted?, readOpening?, if_pos hquote, h.after?_eq_none hrest]
    simp [h.readBody?_append hrest]
  | @lines quote text feed written hquote hfeed h =>
    have hskip : skipLineFeed (feed ++ (written ++ rest)) = written ++ rest := by
      rcases hfeed with rfl | ⟨rfl, hhead⟩
      · rfl
      · rw [List.nil_append, skipLineFeed_of_head?]
        rwa [List.head?_append_of_ne_nil _ h.ne_nil]
    rw [List.append_assoc, List.append_assoc, List.cons_append, readQuoted?, readOpening?,
      if_pos hquote, after?_append]
    simp [hskip, h.readBody?_append hrest]

private theorem exists_of_skipLineFeed (h : skipLineFeed text = rest) :
    ∃ feed, text = feed ++ rest ∧ (feed = ['\n'] ∨ feed = [] ∧ rest.head? ≠ some '\n') := by
  rw [skipLineFeed.eq_def] at h
  split at h
  next =>
    subst h
    exact ⟨['\n'], rfl, .inl rfl⟩
  next hfeed =>
    subst h
    refine ⟨[], rfl, .inr ⟨rfl, fun hhead => ?_⟩⟩
    obtain ⟨behind, heq⟩ := List.head?_eq_some_iff.1 hhead
    exact hfeed behind heq

/-- **What is read as a text is one of the ways to write it** between quotes. -/
theorem exists_literal_of_readQuoted? (h : readQuoted? text = some (form, value, rest)) :
    ∃ written, Literal form value written ∧ text = written ++ rest := by
  obtain ⟨⟨_, inside⟩, hopening, h⟩ := Option.bind_eq_some_iff.1 h
  obtain ⟨⟨_, _⟩, hbody, heq⟩ := Option.bind_eq_some_iff.1 h
  cases heq
  obtain ⟨written, hwritten, rfl⟩ := exists_body_of_readBody? hbody
  cases text with
  | nil => cases hopening
  | cons quote tail =>
    rw [readOpening?] at hopening
    split at hopening
    next hquote =>
      split at hopening
      next behind hbehind =>
        simp only [Option.some.injEq, Prod.mk.injEq] at hopening
        obtain ⟨rfl, hskip⟩ := hopening
        obtain ⟨feed, rfl, hfeed⟩ := exists_of_skipLineFeed hskip
        rw [List.head?_append_of_ne_nil _ hwritten.ne_nil] at hfeed
        refine ⟨_, .lines hquote hfeed hwritten, ?_⟩
        rw [after?_eq_some_iff.1 hbehind]
        simp
      next =>
        cases hopening
        exact ⟨_, .line hquote hwritten, rfl⟩
    next => cases hopening

/-- A text between quotes begins with its quote. -/
theorem Literal.exists_cons (h : Literal form text written) :
    (form.quote = '"' ∨ form.quote = '\'') ∧ ∃ tail, written = form.quote :: tail := by
  cases h with
  | line hquote => exact ⟨hquote, _, rfl⟩
  | lines hquote => exact ⟨hquote, _, rfl⟩

/-- Every character can be written as an escape, by its code point in eight digits. -/
theorem escape_long (c : Char) : Escape c ('U' :: hexDigits 8 c.toNat) := by
  refine .long (length_hexDigits 8 _) ⟨?_, ?_⟩
  · rw [length_hexDigits]
    exact Nat.lt_of_lt_of_le c.val.toNat_lt (by decide)
  · rw [length_hexDigits, map_toLower_hexDigits]

/-- **Every text can be written**, on one line between double quotes. -/
theorem exists_literal (text : List Char) : ∃ written, Literal ⟨'"', false⟩ text written := by
  have hbody : ∃ written, Body ⟨'"', false⟩ text written := by
    induction text with
    | nil => exact ⟨_, .nil '"'⟩
    | cons c text ih =>
      obtain ⟨written, h⟩ := ih
      exact ⟨_, .escape rfl (escape_long c) h⟩
  obtain ⟨written, h⟩ := hbody
  exact ⟨_, .line (.inl rfl) h⟩

/-! ### Carriage returns -/

theorem return_notMem_of_forall {p : Char → Bool} (h : ∀ c ∈ written, p c = true)
    (hp : p '\r' = false) : '\r' ∉ written := by
  intro hmem
  rw [h '\r' hmem] at hp
  cases hp

private theorem IsCode.return_notMem {c : Char} (h : IsCode c written) : '\r' ∉ written :=
  fun hmem => absurd (space_le_of_map_toLower h.map_toLower '\r' hmem) (by decide)

private theorem Escape.return_notMem {c : Char} (h : Escape c written) : '\r' ∉ written := by
  cases h with
  | letter h =>
    have hall : ∀ entry ∈ escapeLetters, '\r' ∉ [entry.1] := by decide
    exact hall _ h
  | short _ h => simp [h.return_notMem]
  | long _ h => simp [h.return_notMem]

private theorem Body.return_notMem (h : Body form text written) (hquote : form.quote ≠ '\r') :
    '\r' ∉ written := by
  induction h with
  | closing => exact fun hmem => hquote (List.eq_of_mem_replicate hmem).symm
  | raw htext _ _ _ ih =>
    simp only [List.mem_cons, not_or]
    refine ⟨?_, ih⟩
    rintro rfl
    rcases htext with htext | ⟨_, htext⟩ <;> exact absurd htext (by decide)
  | escape _ hescape _ ih => simp [hescape.return_notMem, ih]
  | lineEnd _ _ hspaces hblanks _ _ ih =>
    simp [return_notMem_of_forall hspaces, return_notMem_of_forall hblanks, isSpace, ih]

/-- No text is written with a carriage return in it. -/
theorem Literal.return_notMem (h : Literal form text written) : '\r' ∉ written := by
  have hquote : form.quote ≠ '\r' := by
    rcases h.exists_cons.1 with heq | heq <;> rw [heq] <;> decide
  cases h with
  | line _ h => simp [h.return_notMem hquote, Ne.symm hquote]
  | lines _ hfeed h =>
    have hnot : '\r' ∉ _ := h.return_notMem hquote
    rcases hfeed with rfl | ⟨rfl, _⟩ <;> simp [hnot, Ne.symm hquote]

end Literal

end CompileCommands.Toml
