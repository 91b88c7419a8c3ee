import CompileCommands.Toml.Document

/-!
# Reading looks ahead by one character

What is read at the start of a document takes up the front of it. It does not depend on what follows
this front, but for the first character there: a name ends where no character of a name follows, and
a text between three quotes ends where no further quote follows. A line that is closed by a line
feed does not even depend on that character.

## Main definitions

* `Toml.ValueAt`: the place at which the value of a name stands in the first line of a text.
* `Toml.IsLine`: a text that is a line, whatever follows it.

## Main results

* `Toml.exists_front_of_readQuoted?`: a quoted text is read alike, whatever follows it.
* `Toml.exists_front_of_readAssignment?`: an assignment is read alike, whatever follows it.
* `Toml.exists_line_of_readLine?`: what is read as a line is a line, whatever follows it.
* `Toml.readLines?_eq`: a document is read line by line.
-/

namespace CompileCommands

/-! ### Looking ahead -/

namespace Text

section Ahead

variable {front rest later : List Char}

/-- Texts that begin alike still do so behind the same front. -/
theorem head?_append_congr (hhead : later.head? = rest.head?) :
    (front ++ later).head? = (front ++ rest).head? := by
  rw [List.head?_append, List.head?_append, hhead]

/-- A word is missing at the start of a text exactly if the text does not begin with it. -/
theorem after?_eq_none_iff {word text : List Char} : after? word text = none ↔ ¬ word <+: text := by
  rw [Option.eq_none_iff_forall_ne_some]
  constructor
  · rintro h ⟨behind, hbehind⟩
    exact h behind (after?_eq_some_iff.2 hbehind.symm)
  · intro h behind hbehind
    exact h ⟨behind, (after?_eq_some_iff.1 hbehind).symm⟩

/-- A word is missing behind a front, if it reaches behind the front by one character at most. -/
theorem after?_append_eq_none_iff {word : List Char} (hlength : word.length ≤ front.length + 1)
    (hhead : later.head? = rest.head?) :
    after? word (front ++ later) = none ↔ after? word (front ++ rest) = none := by
  induction word generalizing front with
  | nil => simp
  | cons w word ih =>
    cases front with
    | nil =>
      obtain rfl : word = [] := by simpa using hlength
      cases later <;> cases rest <;> simp_all [after?]
    | cons c front =>
      by_cases hw : w = c
      · simpa [after?, hw] using ih (by simpa using hlength)
      · simp [after?, hw]

variable {text : List Char} {p : Char → Bool}

/-- The characters of a kind at the start of a text end where one of another kind stands. -/
theorem takeWhile_append_eq_left (hfront : ∀ c ∈ front, p c = true)
    (hrest : ∀ c ∈ rest.head?, p c = false) : (front ++ rest).takeWhile p = front := by
  have hnil : rest.takeWhile p = [] := by
    cases rest with
    | nil => rfl
    | cons c rest => simp [hrest c rfl]
  rw [List.takeWhile_append_of_pos hfront, hnil, List.append_nil]

/-- What follows the characters of a kind begins with one of another kind. -/
theorem dropWhile_append_eq_right (hfront : ∀ c ∈ front, p c = true)
    (hrest : ∀ c ∈ rest.head?, p c = false) : (front ++ rest).dropWhile p = rest := by
  have hself : rest.dropWhile p = rest := by
    cases rest with
    | nil => rfl
    | cons c rest => simp [hrest c rfl]
  rw [List.dropWhile_append_of_pos hfront, hself]

theorem of_mem_takeWhile : ∀ c ∈ text.takeWhile p, p c = true :=
  List.all_eq_true.1 List.all_takeWhile

theorem not_of_mem_head?_dropWhile : ∀ c ∈ (text.dropWhile p).head?, p c = false := by
  intro c hc
  have hnot := List.head?_dropWhile_not p text
  rw [Option.mem_def.1 hc] at hnot
  simpa using hnot

/-- The characters of a kind at the start of a text, up to one of another kind. -/
theorem takeWhile_takeWhile_append (hhead : later.head? = (text.dropWhile p).head?) :
    (text.takeWhile p ++ later).takeWhile p = text.takeWhile p :=
  takeWhile_append_eq_left of_mem_takeWhile (hhead ▸ not_of_mem_head?_dropWhile)

/-- What follows the characters of a kind at the start of a text. -/
theorem dropWhile_takeWhile_append (hhead : later.head? = (text.dropWhile p).head?) :
    (text.takeWhile p ++ later).dropWhile p = later :=
  dropWhile_append_eq_right of_mem_takeWhile (hhead ▸ not_of_mem_head?_dropWhile)

/-- Of the characters of a kind at the start of a text, a given number at most. -/
private theorem take_takeWhile_append {count : Nat}
    (hhead : later.head? = (text.drop ((text.takeWhile p).take count).length).head?) :
    (((text.takeWhile p).take count ++ later).takeWhile p).take count =
      (text.takeWhile p).take count := by
  have htext := List.takeWhile_append_dropWhile (p := p) (l := text)
  have hall : ∀ c ∈ (text.takeWhile p).take count, p c = true :=
    fun c hc => of_mem_takeWhile c (List.mem_of_mem_take hc)
  by_cases hrun : (text.takeWhile p).length ≤ count
  · rw [List.take_of_length_le hrun] at hhead ⊢
    have hbehind : text.drop (text.takeWhile p).length = text.dropWhile p := by
      have hdrop : (text.takeWhile p ++ text.dropWhile p).drop (text.takeWhile p).length =
          text.dropWhile p := List.drop_left
      rwa [htext] at hdrop
    rw [hbehind] at hhead
    rw [takeWhile_takeWhile_append hhead, List.take_of_length_le hrun]
  · have hlength : ((text.takeWhile p).take count).length = count := by
      rw [List.length_take]
      omega
    rw [List.takeWhile_append_of_pos hall, List.take_append_of_le_length (by omega),
      List.take_take, Nat.min_self]

end Ahead

end Text

namespace Toml

open Text

/-! ### Quoted texts -/

section Quoted

variable {form : Form} {text rest : List Char}

/-- How many quotes close a quoted text. -/
def Form.width (form : Form) : Nat :=
  if form.multiline then 3 else 1

private theorem exists_front_of_readEscape? {c : Char} (h : readEscape? text = some (c, rest)) :
    ∃ front, text = front ++ rest ∧
      ∀ later, readEscape? (front ++ later) = some (c, later) := by
  unfold readEscape? at h
  split at h
  case h_1 a b c d rest =>
    obtain ⟨value, hvalue, heq⟩ := Option.map_eq_some_iff.1 h
    cases heq
    exact ⟨['u', a, b, c, d], rfl, fun later => by simp [readEscape?, hvalue]⟩
  case h_2 a b c d e f g i rest =>
    obtain ⟨value, hvalue, heq⟩ := Option.map_eq_some_iff.1 h
    cases heq
    exact ⟨['U', a, b, c, d, e, f, g, i], rfl, fun later => by simp [readEscape?, hvalue]⟩
  case h_3 letter rest _ _ =>
    obtain ⟨value, hvalue, heq⟩ := Option.map_eq_some_iff.1 h
    cases heq
    refine ⟨[letter], rfl, fun later => ?_⟩
    show readEscape? (letter :: later) = _
    unfold readEscape?
    split
    next heq =>
      cases heq
      cases hvalue
    next heq =>
      cases heq
      cases hvalue
    next heq =>
      cases heq
      rw [hvalue]
      rfl
    next heq => cases heq
  case h_4 => cases h

/-- A backslash at the end of a line escapes no character. -/
theorem readEscape?_eq_none (h : skipLineEnd? text = some rest) : readEscape? text = none := by
  cases text with
  | nil => cases h
  | cons c text =>
    have hc : c = ' ' ∨ c = '\t' ∨ c = '\n' := by
      by_cases hspace : isSpace c = true
      · rcases Bool.or_eq_true _ _ ▸ hspace with hc | hc
        · exact .inl (eq_of_beq hc)
        · exact .inr (.inl (eq_of_beq hc))
      · rw [skipLineEnd?, List.dropWhile_cons_of_neg hspace] at h
        split at h
        next heq => exact .inr (.inr (List.cons.inj heq).1)
        next => cases h
    rcases hc with rfl | rfl | rfl <;> rfl

/-- What follows a backslash at the end of a line. -/
private theorem exists_front_of_skipLineEnd? (h : skipLineEnd? text = some rest) :
    ∃ front, text = front ++ rest ∧
      ∀ later, later.head? = rest.head? → skipLineEnd? (front ++ later) = some later := by
  rw [skipLineEnd?] at h
  split at h
  next behind heq =>
    cases h
    have htext := List.takeWhile_append_dropWhile (p := isSpace) (l := text)
    have hbehind := List.takeWhile_append_dropWhile (p := fun c => isSpace c || c == '\n')
      (l := behind)
    refine ⟨text.takeWhile isSpace ++ '\n' :: behind.takeWhile fun c => isSpace c || c == '\n',
      ?_, fun later hlater => ?_⟩
    · rw [List.append_assoc, List.cons_append, hbehind, ← heq, htext]
    · rw [skipLineEnd?, List.append_assoc, dropWhile_takeWhile_append (by rw [heq]; rfl)]
      exact congrArg some (dropWhile_takeWhile_append hlater)
  next => cases h

/-- The closing quotes, and the quotes of the text in front of them. -/
private theorem exists_front_of_readClosing? {extra : List Char}
    (h : readClosing? form text = some (extra, rest)) :
    ∃ front, text = front ++ rest ∧ form.width ≤ front.length ∧
      ∀ later, later.head? = rest.head? →
        readClosing? form (front ++ later) = some (extra, later) := by
  obtain ⟨quote, _ | _⟩ := form
  · obtain ⟨behind, hbehind, heq⟩ := Option.bind_eq_some_iff.1 h
    cases heq
    exact ⟨[quote], after?_eq_some_iff.1 hbehind, Nat.le_refl 1,
      fun later _ => by simp [readClosing?, after?]⟩
  · obtain ⟨behind, hbehind, heq⟩ := Option.bind_eq_some_iff.1 h
    cases heq
    have hextra : (behind.takeWhile (· == quote)).take 2 <+: behind :=
      (List.take_prefix ..).trans (List.takeWhile_prefix _)
    refine ⟨[quote, quote, quote] ++ (behind.takeWhile (· == quote)).take 2, ?_, ?_,
      fun later hlater => ?_⟩
    · rw [after?_eq_some_iff.1 hbehind, List.append_assoc]
      exact congrArg _ (List.prefix_iff_eq_append.1 hextra).symm
    · simp only [Form.width, if_pos, List.length_append, List.length_cons]
      omega
    · have hagain := take_takeWhile_append hlater
      rw [readClosing?, if_pos rfl, List.append_assoc, after?_append]
      simp only [Option.bind_eq_bind, Option.bind_some, hagain, List.drop_left]

/-- The closing quotes are missing exactly if as many copies of the quote are. -/
theorem readClosing?_eq_none_iff :
    readClosing? form text = none ↔ after? (List.replicate form.width form.quote) text = none := by
  obtain ⟨quote, _ | _⟩ := form
  · show (after? [quote] text).bind _ = none ↔ after? [quote] text = none
    cases after? [quote] text <;> simp
  · show (after? [quote, quote, quote] text).bind _ = none ↔
      after? [quote, quote, quote] text = none
    cases after? [quote, quote, quote] text <;> simp

/-- Where the closing quotes are missing, they are so whatever follows a front that is as long. -/
private theorem readClosing?_append_eq_none {front later : List Char}
    (hlength : form.width ≤ front.length)
    (hhead : later.head? = rest.head?) (h : readClosing? form (front ++ rest) = none) :
    readClosing? form (front ++ later) = none := by
  rw [readClosing?_eq_none_iff] at h ⊢
  have hreplicate : (List.replicate form.width form.quote).length ≤ front.length + 1 := by
    rw [List.length_replicate]
    omega
  exact (after?_append_eq_none_iff hreplicate hhead).2 h

section Steps

variable {tail : List Char}

theorem readBody?_of_escape {escaped : Char}
    (hclosing : readClosing? form ('\\' :: tail) = none) (hquote : form.quote = '"')
    (hescape : readEscape? tail = some (escaped, rest)) :
    readBody? form ('\\' :: tail) =
      (readBody? form rest).map fun (text, rest) => (escaped :: text, rest) := by
  rw [readBody?, hclosing]
  simp only [hquote, and_self, if_pos]
  split
  next heq =>
    rw [hescape] at heq
    cases heq
    rfl
  next heq =>
    rw [hescape] at heq
    cases heq

theorem readBody?_of_lineEnd (hclosing : readClosing? form ('\\' :: tail) = none)
    (hquote : form.quote = '"') (hescape : readEscape? tail = none)
    (hmultiline : form.multiline = true) (hskip : skipLineEnd? tail = some rest) :
    readBody? form ('\\' :: tail) = readBody? form rest := by
  rw [readBody?, hclosing]
  simp only [hquote, and_self, if_pos, hmultiline]
  split
  next heq =>
    rw [hescape] at heq
    cases heq
  next =>
    split
    next heq =>
      rw [hskip] at heq
      cases heq
      rfl
    next heq =>
      rw [hskip] at heq
      cases heq

theorem readBody?_of_text {c : Char} (hclosing : readClosing? form (c :: tail) = none)
    (hplain : ¬ (c = '\\' ∧ form.quote = '"'))
    (htext : (isTextChar c || (form.multiline && c == '\n')) = true) :
    readBody? form (c :: tail) =
      (readBody? form tail).map fun (text, rest) => (c :: text, rest) := by
  rw [readBody?, hclosing]
  simp only [if_neg hplain, if_pos htext]

end Steps

private theorem Form.width_le_cons_append {front : List Char} (h : form.width ≤ front.length)
    (c : Char) (skipped : List Char) : form.width ≤ (c :: (skipped ++ front)).length := by
  rw [List.length_cons, List.length_append]
  omega

/-- A quoted text behind its opening quotes. -/
private theorem exists_front_of_readBody? {body : List Char}
    (h : readBody? form text = some (body, rest)) :
    ∃ front, text = front ++ rest ∧ form.width ≤ front.length ∧
      ∀ later, later.head? = rest.head? →
        readBody? form (front ++ later) = some (body, later) := by
  -- One case for each way in which the body goes on. The front has at least the closing quotes, so
  -- that whether these stand at its beginning can be told from the front and one more character.
  fun_induction readBody? form text generalizing body with
  | case1 text extra rest' hclosing =>
    cases h
    obtain ⟨front, rfl, hlength, hlocal⟩ := exists_front_of_readClosing? hclosing
    refine ⟨front, rfl, hlength, fun later hlater => ?_⟩
    rw [readBody?.eq_def, hlocal later hlater]
  | case2 => cases h
  | case3 c tail hquote escaped rest' hescape _ hclosing ih =>
    obtain ⟨⟨text, behind⟩, hbody, heq⟩ := Option.map_eq_some_iff.1 h
    cases heq
    obtain ⟨rfl, hquote⟩ := hquote
    obtain ⟨escape, rfl, hescaped⟩ := exists_front_of_readEscape? hescape
    obtain ⟨front, rfl, hlength, hlocal⟩ := ih hbody
    have hwidth := Form.width_le_cons_append hlength '\\' escape
    refine ⟨'\\' :: (escape ++ front), by simp, hwidth, fun later hlater => ?_⟩
    have hnone := readClosing?_append_eq_none hwidth hlater (by simpa using hclosing)
    rw [List.cons_append, List.append_assoc] at hnone ⊢
    rw [readBody?_of_escape hnone hquote (hescaped _), hlocal later hlater]
    rfl
  | case4 c tail hquote hescape hmultiline rest' hskip _ hclosing ih =>
    obtain ⟨rfl, hquote⟩ := hquote
    obtain ⟨spaces, rfl, hskipped⟩ := exists_front_of_skipLineEnd? hskip
    obtain ⟨front, rfl, hlength, hlocal⟩ := ih h
    have hwidth := Form.width_le_cons_append hlength '\\' spaces
    refine ⟨'\\' :: (spaces ++ front), by simp, hwidth, fun later hlater => ?_⟩
    have hnone := readClosing?_append_eq_none hwidth hlater (by simpa using hclosing)
    rw [List.cons_append, List.append_assoc] at hnone ⊢
    have hskip' := hskipped (front ++ later) (head?_append_congr hlater)
    rw [readBody?_of_lineEnd hnone hquote (readEscape?_eq_none hskip') hmultiline hskip',
      hlocal later hlater]
  | case5 => cases h
  | case6 => cases h
  | case7 c tail hplain htext hclosing ih =>
    obtain ⟨⟨text, behind⟩, hbody, heq⟩ := Option.map_eq_some_iff.1 h
    cases heq
    obtain ⟨front, rfl, hlength, hlocal⟩ := ih hbody
    have hwidth : form.width ≤ (c :: front).length := Form.width_le_cons_append hlength c []
    refine ⟨c :: front, rfl, hwidth, fun later hlater => ?_⟩
    have hnone := readClosing?_append_eq_none hwidth hlater hclosing
    rw [List.cons_append] at hnone ⊢
    rw [readBody?_of_text hnone hplain htext, hlocal later hlater]
    rfl
  | case8 => cases h

/-- The line feed that a text may begin with. -/
private theorem exists_front_of_skipLineFeed (text : List Char) :
    ∃ front, text = front ++ skipLineFeed text ∧
      ∀ later, later.head? = (skipLineFeed text).head? → skipLineFeed (front ++ later) = later := by
  rw [skipLineFeed.eq_def]
  split
  next text => exact ⟨['\n'], rfl, fun later _ => rfl⟩
  next text hfeed =>
    refine ⟨[], rfl, fun later hlater => ?_⟩
    rw [List.nil_append, skipLineFeed.eq_def]
    split
    next later =>
      obtain ⟨rest, rfl⟩ := List.head?_eq_some_iff.1 hlater.symm
      exact absurd rfl (hfeed rest)
    next => rfl

/-- The form of a quoted text can be told from the text and the first character behind it. -/
private theorem exists_front_of_readOpening? {inside front : List Char}
    (h : readOpening? text = some (form, inside)) (hinside : inside = front ++ rest)
    (hlength : form.width ≤ front.length) :
    ∃ opening, opening ≠ [] ∧ text = opening ++ inside ∧
      ∀ later, later.head? = rest.head? →
        readOpening? (opening ++ (front ++ later)) = some (form, front ++ later) := by
  cases text with
  | nil => cases h
  | cons quote tail =>
    rw [readOpening?] at h
    split at h
    next hquote =>
      split at h
      next behind hbehind =>
        cases h
        obtain ⟨feed, hfeed, hskipped⟩ := exists_front_of_skipLineFeed behind
        refine ⟨[quote, quote, quote] ++ feed, by simp, ?_, fun later hlater => ?_⟩
        · rw [after?_eq_some_iff.1 hbehind, List.append_assoc, ← hfeed]
          rfl
        · have hhead : (front ++ later).head? = (skipLineFeed behind).head? := by
            rw [hinside]
            exact head?_append_congr hlater
          rw [List.append_assoc]
          show readOpening? (quote :: ([quote, quote] ++ (feed ++ (front ++ later)))) = _
          simp only [readOpening?, if_pos hquote, after?_append, hskipped _ hhead]
      next hnone =>
        cases h
        refine ⟨[quote], List.cons_ne_nil _ _, rfl, fun later hlater => ?_⟩
        have hsingle : after? [quote, quote] (front ++ later) = none := by
          have hreach : [quote, quote].length ≤ front.length + 1 := Nat.succ_le_succ hlength
          rw [hinside] at hnone
          exact (after?_append_eq_none_iff hreach hlater).2 hnone
        rw [List.cons_append, List.nil_append, readOpening?, if_pos hquote, hsingle]
    next => cases h

/-- **A quoted text is read alike, whatever follows it.** -/
theorem exists_front_of_readQuoted? {body : List Char}
    (h : readQuoted? text = some (form, body, rest)) :
    ∃ front, front ≠ [] ∧ text = front ++ rest ∧
      ∀ later, later.head? = rest.head? →
        readQuoted? (front ++ later) = some (form, body, later) := by
  obtain ⟨⟨_, inside⟩, hopening, h⟩ := Option.bind_eq_some_iff.1 h
  obtain ⟨⟨_, _⟩, hbody, heq⟩ := Option.bind_eq_some_iff.1 h
  cases heq
  obtain ⟨front, hinside, hlength, hlocal⟩ := exists_front_of_readBody? hbody
  obtain ⟨opening, hne, htext, hopened⟩ := exists_front_of_readOpening? hopening hinside hlength
  refine ⟨opening ++ front, List.append_ne_nil_of_left_ne_nil hne _, ?_, fun later hlater => ?_⟩
  · rw [htext, hinside, List.append_assoc]
  · rw [List.append_assoc, readQuoted?, hopened later hlater]
    simp [hlocal later hlater]

end Quoted

/-! ### Lines -/

section Lines

variable {text rest : List Char}

/-- Spaces end where no space follows. -/
theorem exists_front_of_skipSpaces (h : skipSpaces text = rest) :
    ∃ front, text = front ++ rest ∧
      ∀ later, later.head? = rest.head? → skipSpaces (front ++ later) = later := by
  subst h
  exact ⟨text.takeWhile isSpace, List.takeWhile_append_dropWhile.symm,
    fun _ hlater => dropWhile_takeWhile_append hlater⟩

/-- A name is read alike, whatever follows it. -/
private theorem exists_front_of_readKey? {key : List Char} (h : readKey? text = some (key, rest)) :
    ∃ front, text = front ++ rest ∧
      ∀ later, later.head? = rest.head? → readKey? (front ++ later) = some (key, later) := by
  rw [readKey?] at h
  split at h
  next hbare =>
    split at h
    next hquoted =>
      cases h
      obtain ⟨front, hne, rfl, hlocal⟩ := exists_front_of_readQuoted? hquoted
      refine ⟨front, rfl, fun later hlater => ?_⟩
      have hbare' : (front ++ later).takeWhile isKeyChar = [] := by
        obtain ⟨c, front, rfl⟩ := List.exists_cons_of_ne_nil hne
        by_cases hc : isKeyChar c = true
        · simp [hc] at hbare
        · simp [hc]
      rw [readKey?, hbare', hlocal later hlater]
    next => cases h
  next hbare =>
    cases h
    refine ⟨text.takeWhile isKeyChar, List.takeWhile_append_dropWhile.symm,
      fun later hlater => ?_⟩
    rw [readKey?, takeWhile_takeWhile_append hlater, dropWhile_takeWhile_append hlater]
    split
    next hnil => exact absurd hnil hbare
    next => rfl

/-- **An assignment is read alike, whatever follows it.** -/
theorem exists_front_of_readAssignment? {assignment : Assignment}
    (h : readAssignment? text = some (assignment, rest)) :
    ∃ front, text = front ++ rest ∧
      ∀ later, later.head? = rest.head? →
        readAssignment? (front ++ later) = some (assignment, later) := by
  obtain ⟨⟨key, behind⟩, hkey, h⟩ := Option.bind_eq_some_iff.1 h
  obtain ⟨value, hsign, h⟩ := Option.bind_eq_some_iff.1 h
  obtain ⟨⟨form, body, _⟩, hquoted, heq⟩ := Option.bind_eq_some_iff.1 h
  cases heq
  obtain ⟨name, rfl, hnamed⟩ := exists_front_of_readKey? hkey
  rw [after?_eq_some_iff] at hsign
  obtain ⟨spaces, rfl, hspaces⟩ := exists_front_of_skipSpaces hsign
  obtain ⟨quoted, -, hvalue, hread⟩ := exists_front_of_readQuoted? hquoted
  obtain ⟨spaces', rfl, hspaces'⟩ := exists_front_of_skipSpaces hvalue
  refine ⟨name ++ (spaces ++ '=' :: (spaces' ++ quoted)), by simp, fun later hlater => ?_⟩
  have hvalue' := hspaces' (quoted ++ later) (head?_append_congr hlater)
  have hsign' := hspaces ('=' :: (spaces' ++ (quoted ++ later))) rfl
  have hkey' := hnamed (spaces ++ '=' :: (spaces' ++ (quoted ++ later))) (head?_append_congr rfl)
  simp only [List.append_assoc, List.cons_append]
  rw [readAssignment?, hkey']
  simp only [Option.bind_eq_bind, Option.bind_some, hsign', after?, if_pos, hvalue',
    hread later hlater]

/-- Whether a line is bare can be told from its first character. -/
private theorem isBare_congr {later : List Char} (hlater : later.head? = rest.head?) :
    isBare later = isBare rest := by
  cases later <;> cases rest <;> simp_all [isBare]

/-- A line that begins with a name is not bare. -/
theorem isBare_eq_false_of_readKey? {text key rest : List Char}
    (h : readKey? text = some (key, rest)) : isBare text = false := by
  cases text with
  | nil => cases h
  | cons c text =>
    rw [Bool.eq_false_iff]
    intro hbare
    rcases Bool.or_eq_true _ _ ▸ hbare with hc | hc
    · cases eq_of_beq hc
      cases h
    · cases eq_of_beq hc
      cases h

/-- The value of a name stands at a place of a text: the text begins with the name and an equals
sign, with spaces around either, and the place is what follows. -/
def ValueAt (key text place : List Char) : Prop :=
  ∃ behind value, readKey? (skipSpaces text) = some (key, behind) ∧
    after? ['='] (skipSpaces behind) = some value ∧ skipSpaces value = place

/-- A name is given the value that stands behind it. -/
theorem ValueAt.readContent?_eq {key text place : List Char} (h : ValueAt key text place) :
    readContent? (skipSpaces text) =
      (readQuoted? place).map fun (_, value, rest) => (some ⟨key, value⟩, rest) := by
  obtain ⟨behind, value, hkey, hsign, rfl⟩ := h
  have hbare : ¬ isBare (skipSpaces text) = true := by simp [isBare_eq_false_of_readKey? hkey]
  rw [readContent?, if_neg hbare, readAssignment?, hkey]
  simp only [Option.bind_eq_bind, Option.bind_some, hsign]
  cases readQuoted? (skipSpaces value) <;> rfl

/-- What a line holds is read alike, whatever follows it. -/
private theorem exists_front_of_readContent? {content : Option Assignment}
    (h : readContent? text = some (content, rest)) :
    ∃ front, text = front ++ rest ∧
      ∀ later, later.head? = rest.head? →
        readContent? (front ++ later) = some (content, later) := by
  rw [readContent?] at h
  split at h
  next hbare =>
    cases h
    refine ⟨[], rfl, fun later hlater => ?_⟩
    rw [List.nil_append, readContent?, if_pos ((isBare_congr hlater).trans hbare)]
  next hbare =>
    obtain ⟨⟨assignment, behind⟩, hassignment, heq⟩ := Option.map_eq_some_iff.1 h
    cases heq
    obtain ⟨front, rfl, hread⟩ := exists_front_of_readAssignment? hassignment
    refine ⟨front, rfl, fun later hlater => ?_⟩
    rw [← isBare_congr (head?_append_congr hlater)] at hbare
    rw [readContent?, if_neg hbare, hread later hlater]
    rfl

/-- A comment ends where no character of a comment follows. -/
private theorem exists_front_of_skipComment (h : skipComment text = rest) :
    ∃ front, text = front ++ rest ∧
      ∀ later, later.head? = rest.head? → skipComment (front ++ later) = later := by
  rw [skipComment.eq_def] at h
  split at h
  next text =>
    subst h
    refine ⟨'#' :: text.takeWhile isCommentChar, ?_, fun later hlater => ?_⟩
    · rw [List.cons_append, List.takeWhile_append_dropWhile]
    · rw [List.cons_append, skipComment]
      exact dropWhile_takeWhile_append hlater
  next text hcomment =>
    subst h
    refine ⟨[], rfl, fun later hlater => ?_⟩
    rw [List.nil_append, skipComment.eq_def]
    split
    next later =>
      obtain ⟨rest, rfl⟩ := List.head?_eq_some_iff.1 hlater.symm
      exact absurd rfl (hcomment rest)
    next => rfl

/-- A text that is a line, whatever follows it: either it can be read and the next line begins
behind it, or it can never be read. -/
inductive IsLine (line : List Char) : Prop
  /-- The line can be read. -/
  | read {content : Option Assignment}
    (h : ∀ later, readLine? (line ++ later) = some (content, later)) : IsLine line
  /-- The line cannot be read. -/
  | malformed (h : ∀ later, readLine? (line ++ later) = none) : IsLine line

/-- **What is read as a line is a line, whatever follows it**, unless it is the last one. -/
theorem exists_line_of_readLine? {content : Option Assignment}
    (h : readLine? text = some (content, rest)) (hne : rest ≠ []) :
    ∃ line, text = line ++ rest ∧ IsLine line := by
  obtain ⟨⟨_, behind⟩, hcontent, h⟩ := Option.bind_eq_some_iff.1 h
  obtain ⟨_, hfeed, heq⟩ := Option.bind_eq_some_iff.1 h
  cases heq
  have hclosed : skipComment (skipSpaces behind) = '\n' :: rest := by
    rw [skipLineFeed?.eq_def] at hfeed
    split at hfeed
    next =>
      cases hfeed
      exact absurd rfl hne
    next heq =>
      cases hfeed
      exact heq
    next => cases hfeed
  obtain ⟨comment, hspaces, hcomment⟩ := exists_front_of_skipComment hclosed
  obtain ⟨spaces, rfl, hspaces'⟩ := exists_front_of_skipSpaces hspaces
  obtain ⟨front, hfront, hread⟩ := exists_front_of_readContent? hcontent
  obtain ⟨margin, rfl, hmargin⟩ := exists_front_of_skipSpaces hfront
  have hline (later : List Char) :
      readLine? (margin ++ (front ++ (spaces ++ (comment ++ ['\n']))) ++ later) =
        some (content, later) := by
    have hcomment' := hcomment ('\n' :: later) rfl
    have hspaces'' := hspaces' (comment ++ '\n' :: later) (head?_append_congr rfl)
    have hread' := hread (spaces ++ (comment ++ '\n' :: later))
      (head?_append_congr (head?_append_congr rfl))
    have hmargin' := hmargin (front ++ (spaces ++ (comment ++ '\n' :: later)))
      (head?_append_congr (head?_append_congr (head?_append_congr rfl)))
    simp only [List.append_assoc, List.cons_append, List.nil_append]
    rw [readLine?, hmargin', hread']
    simp only [Option.bind_eq_bind, Option.bind_some, hspaces'', hcomment', skipLineFeed?]
  exact ⟨_, by simp, .read hline⟩

/-- A line is read, and then the lines behind it. -/
theorem readLines?_eq (text : List Char) :
    readLines? text = (readLine? text).bind fun line =>
      (readLines? line.2).map (line.1.toList ++ ·) := by
  by_cases hne : text = []
  · have hnil : readLines? [] = some [] := by rw [readLines?.eq_def, dif_pos rfl]
    have hline : readLine? [] = some (none, []) := rfl
    rw [hne, hline, Option.bind_some, hnil]
    rfl
  · rw [readLines?.eq_def, dif_neg hne]
    split
    next h =>
      rw [h]
      rfl
    next h => simp only [h, Option.bind_some]

end Lines

end Toml

end CompileCommands
