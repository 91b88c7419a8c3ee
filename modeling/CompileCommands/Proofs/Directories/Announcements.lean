import CompileCommands.Announcement
import CompileCommands.Proofs.Text.Trimming

/-!
# The grammar of announcements

A line announces a directory exactly if it can be taken apart as follows. A margin of blank
characters, a tool, a level that may be missing, and a colon with a space are the heading. Behind
it stands the message: `Entering directory ` and a directory between two quotes with another margin
behind them, or `Leaving directory ` and anything. No line break stands in the directory or in what
is left. The quotes need not be equal, and further quotes and blank characters may stand in the
directory, also at its ends. Even so there is one way at most to take the line apart, since the
margins are as long as they can be.

## Main definitions

* `Announcement.Heading`: the heading of an announcement.
* `Announcement.Says`: what a line announces.

## Main results

* `Announcement.message?_eq_some_iff`: the message behind a heading.
* `Announcement.quoted?_eq_some_iff`: the directory between two quotes.
* `Announcement.ofLine?_iff_says`: exactly what a line announces is read, and a line announces one
  thing at most.
-/

namespace CompileCommands.Announcement

open Text

/-- A level: nothing, or decimal digits in brackets. -/
def IsLevel (level : List Char) : Prop :=
  level = [] ∨ ∃ digits, digits ≠ [] ∧ (∀ c ∈ digits, isDecimalDigit c = true) ∧
    level = '[' :: digits ++ [']']

/-- What an announcement begins with. -/
structure Heading where
  /-- The blank characters in front of the tool. -/
  margin : List Char
  /-- The tool that announces. -/
  tool : String
  /-- The level at which the tool works. -/
  level : List Char
  /-- The margin is blank. -/
  isBlank_margin : ∀ c ∈ margin, isBlank c = true
  /-- The tool is one of those that announce directories. -/
  tool_mem : tool ∈ tools
  /-- The level may be missing. -/
  isLevel : IsLevel level

/-- A message behind its heading. -/
def Heading.announce (heading : Heading) (message : List Char) : List Char :=
  heading.margin ++ heading.tool.toList ++ heading.level ++ ": ".toList ++ message

/-- The message that a directory is entered, with what stands behind the closing quote. -/
def entering (opening closing : Char) (directory margin : List Char) : List Char :=
  "Entering directory ".toList ++ (opening :: directory ++ closing :: margin)

/-- The message that a directory is left. -/
def leaving (rest : List Char) : List Char :=
  "Leaving directory ".toList ++ rest

/-- What a message means. -/
inductive Means : List Char → Announcement → Prop
  /-- A directory is entered. -/
  | enter {opening closing : Char} {directory margin : List Char}
    (hopening : isQuote opening = true) (hclosing : isQuote closing = true)
    (hdirectory : '\n' ∉ directory) (hmargin : ∀ c ∈ margin, isBlank c = true) :
    Means (entering opening closing directory margin) (.enter (String.ofList directory))
  /-- A directory is left. -/
  | leave {rest : List Char} (hrest : '\n' ∉ rest) : Means (leaving rest) .leave

/-- What a line announces: what the message behind its heading means. -/
def Says (line : List Char) (said : Announcement) : Prop :=
  ∃ (heading : Heading) (message : List Char), Means message said ∧ line = heading.announce message

/-! ### The heading -/

/-- A level ends where it is passed over, if a colon follows. -/
theorem skipLevel_append {level : List Char} (h : IsLevel level) (rest : List Char) :
    skipLevel (level ++ ':' :: rest) = ':' :: rest := by
  obtain rfl | ⟨digits, hne, hdigits, rfl⟩ := h
  · rfl
  · simpa using skipLevel_level (':' :: rest) hne hdigits

/-- A text is its level, if it begins with one, and what follows. -/
private theorem exists_level (text : List Char) :
    ∃ level, IsLevel level ∧ text = level ++ skipLevel text := by
  have hnone : ∃ level, IsLevel level ∧ text = level ++ text := ⟨[], .inl rfl, rfl⟩
  rw [skipLevel]
  fun_cases skipLevel? text with
  | case1 digit text hdigit rest hrest =>
    refine ⟨'[' :: (digit :: text.takeWhile isDecimalDigit) ++ [']'],
      .inr ⟨_, List.cons_ne_nil _ _, fun c hc => ?_, rfl⟩, ?_⟩
    · rcases List.mem_cons.1 hc with rfl | hc
      · exact hdigit
      · exact List.all_eq_true.1 List.all_takeWhile c hc
    · have hsplit := List.takeWhile_append_dropWhile (p := isDecimalDigit) (l := text)
      rw [hrest] at hsplit
      simp [hsplit]
  | case2 => exact hnone
  | case3 => exact hnone
  | case4 => exact hnone

/-- The text behind a tool is found, and no blank character stands in front of a tool. -/
private theorem findSome?_tools {tool : String} (h : tool ∈ tools) (rest : List Char) :
    (tools.findSome? fun other => after? other.toList (tool.toList ++ rest)) = some rest ∧
      trimStart (tool.toList ++ rest) = tool.toList ++ rest := by
  have hcases : tool = "make" ∨ tool = "ninja" := by simpa [tools] using h
  rcases hcases with rfl | rfl <;> exact ⟨rfl, rfl⟩

/-- The message of a line is what stands behind its heading. -/
theorem message?_eq_some_iff {line message : List Char} :
    message? line = some message ↔ ∃ heading : Heading, line = heading.announce message := by
  constructor
  · intro h
    simp only [message?, Option.bind_eq_bind, Option.bind_eq_some_iff] at h
    obtain ⟨text, htool, hmessage⟩ := h
    obtain ⟨tool, htool, htext⟩ := List.exists_of_findSome?_eq_some htool
    obtain ⟨margin, hmargin, hline⟩ := exists_margin_trimStart line
    obtain ⟨level, hlevel, hskip⟩ := exists_level text
    rw [after?_eq_some_iff] at htext hmessage
    rw [hmessage] at hskip
    refine ⟨⟨margin, tool, level, hmargin, htool, hlevel⟩, ?_⟩
    rw [hline, htext, hskip, Heading.announce]
    simp only [List.append_assoc]
  · rintro ⟨⟨margin, tool, level, hmargin, htool, hlevel⟩, rfl⟩
    obtain ⟨hfound, htrimmed⟩ := findSome?_tools htool (level ++ (": ".toList ++ message))
    have hstart : trimStart (margin ++ (tool.toList ++ (level ++ (": ".toList ++ message)))) =
        tool.toList ++ (level ++ (": ".toList ++ message)) := by
      rw [trimStart, List.dropWhile_append_of_pos hmargin]
      exact htrimmed
    have hskip : skipLevel (level ++ (": ".toList ++ message)) = ": ".toList ++ message :=
      skipLevel_append hlevel (' ' :: message)
    simp only [message?, Heading.announce, List.append_assoc, hstart, hfound, Option.bind_eq_bind,
      Option.bind_some, hskip, after?_append]

/-! ### The message -/

/-- Quotes are not blank. -/
private theorem isBlank_of_isQuote {c : Char} (h : isQuote c = true) : isBlank c = false := by
  simp only [isQuote, Bool.or_eq_true, beq_iff_eq] at h
  rcases h with (rfl | rfl) | rfl <;> decide

/-- A directory stands between an opening quote and the last character that is not blank, which is
the closing quote. -/
theorem quoted?_eq_some_iff {text directory : List Char} :
    quoted? text = some directory ↔ ∃ opening closing margin,
      isQuote opening = true ∧ isQuote closing = true ∧ '\n' ∉ directory ∧
        (∀ c ∈ margin, isBlank c = true) ∧ text = opening :: directory ++ closing :: margin := by
  constructor
  · intro h
    cases text with
    | nil => cases h
    | cons opening text =>
      rw [quoted?] at h
      split at h
      case isFalse => cases h
      case isTrue hopening =>
        split at h
        case h_1 => cases h
        case h_2 closing backwards hreverse =>
          split at h
          case isFalse => cases h
          case isTrue hclosing =>
            cases h
            rw [Bool.and_eq_true] at hclosing
            obtain ⟨margin, hmargin, htext⟩ := exists_margin_trimEnd text
            have htrimmed : trimEnd text = backwards.reverse ++ [closing] := by
              rw [← List.reverse_cons, ← hreverse, List.reverse_reverse]
            refine ⟨opening, closing, margin, hopening, hclosing.1, by simpa using hclosing.2,
              hmargin, ?_⟩
            rw [htrimmed, List.append_assoc] at htext
            exact congrArg (opening :: ·) htext
  · rintro ⟨opening, closing, margin, hopening, hclosing, hdirectory, hmargin, rfl⟩
    have hrest : trimEnd margin = [] := trimEnd_append_of_isBlank hmargin []
    have htrimmed : (trimEnd (directory ++ closing :: margin)).reverse =
        closing :: directory.reverse := by
      rw [trimEnd_append_cons (isBlank_of_isQuote hclosing), hrest]
      simp
    rw [List.cons_append, quoted?, if_pos hopening, htrimmed]
    simp [hclosing, hdirectory]

/-- The directory that a message says is entered. -/
theorem entered?_eq_some_iff {message directory : List Char} :
    entered? message = some directory ↔ ∃ opening closing margin,
      isQuote opening = true ∧ isQuote closing = true ∧ '\n' ∉ directory ∧
        (∀ c ∈ margin, isBlank c = true) ∧ message = entering opening closing directory margin := by
  rw [entered?, Option.bind_eq_bind, Option.bind_eq_some_iff]
  constructor
  · rintro ⟨text, hafter, hquoted⟩
    obtain ⟨opening, closing, margin, hopening, hclosing, hdirectory, hmargin, rfl⟩ :=
      quoted?_eq_some_iff.1 hquoted
    exact ⟨opening, closing, margin, hopening, hclosing, hdirectory, hmargin,
      after?_eq_some_iff.1 hafter⟩
  · rintro ⟨opening, closing, margin, hopening, hclosing, hdirectory, hmargin, rfl⟩
    have hquoted := quoted?_eq_some_iff.2
      ⟨opening, closing, margin, hopening, hclosing, hdirectory, hmargin, rfl⟩
    exact ⟨opening :: directory ++ closing :: margin, after?_append _ _, hquoted⟩

/-- The message that a directory is left. -/
theorem isLeaving_iff {message : List Char} :
    isLeaving message = true ↔ ∃ rest, '\n' ∉ rest ∧ message = leaving rest := by
  rw [isLeaving, Option.any_eq_true]
  constructor
  · rintro ⟨rest, hafter, hrest⟩
    exact ⟨rest, by simpa using hrest, after?_eq_some_iff.1 hafter⟩
  · rintro ⟨rest, hrest, rfl⟩
    exact ⟨rest, after?_append _ rest, by simpa using hrest⟩

/-- No directory is entered by the message that one is left. -/
theorem entered?_leaving (rest : List Char) : entered? (leaving rest) = none := rfl

/-- What a message means is read. -/
theorem ofMessage?_eq_some_iff {message : List Char} {said : Announcement} :
    ofMessage? message = some said ↔ Means message said := by
  rw [ofMessage?]
  constructor
  · intro h
    cases hentered : entered? message with
    | some directory =>
      rw [hentered] at h
      cases h
      obtain ⟨opening, closing, margin, hopening, hclosing, hdirectory, hmargin, rfl⟩ :=
        entered?_eq_some_iff.1 hentered
      exact .enter hopening hclosing hdirectory hmargin
    | none =>
      rw [hentered] at h
      cases hleaving : isLeaving message with
      | false => simp [hleaving] at h
      | true =>
        obtain ⟨rest, hrest, rfl⟩ := isLeaving_iff.1 hleaving
        obtain rfl : said = .leave := by simpa [hleaving, eq_comm] using h
        exact .leave hrest
  · intro h
    cases h with
    | enter hopening hclosing hdirectory hmargin =>
      rw [entered?_eq_some_iff.2 ⟨_, _, _, hopening, hclosing, hdirectory, hmargin, rfl⟩]
    | leave hrest =>
      rw [entered?_leaving]
      exact if_pos (isLeaving_iff.2 ⟨_, hrest, rfl⟩)

/-- **Exactly what a line announces is read.** A line announces one thing at most, so that the
directory that it enters is determined. Whatever quotes and blank characters stand in a directory,
the line that announces it is read as announcing this directory. -/
theorem ofLine?_iff_says :
    (∀ line said, ofLine? line = some said ↔ Says line said) ∧
    (∀ line, ofLine? line = none ↔ ∀ said, ¬ Says line said) ∧
    (∀ line directory other, Says line (.enter directory) → Says line (.enter other) →
      directory = other) ∧
    (∀ (heading : Heading) (opening closing : Char) (directory margin : List Char),
      isQuote opening = true → isQuote closing = true → '\n' ∉ directory →
      (∀ c ∈ margin, isBlank c = true) →
      ofLine? (heading.announce (entering opening closing directory margin)) =
        some (.enter (String.ofList directory))) := by
  have hsaid (line : List Char) (said : Announcement) :
      ofLine? line = some said ↔ Says line said := by
    rw [ofLine?, Option.bind_eq_bind, Option.bind_eq_some_iff]
    simp only [message?_eq_some_iff, ofMessage?_eq_some_iff, Says]
    constructor
    · rintro ⟨message, ⟨heading, hline⟩, hmeans⟩
      exact ⟨heading, message, hmeans, hline⟩
    · rintro ⟨heading, message, hmeans, hline⟩
      exact ⟨message, ⟨heading, hline⟩, hmeans⟩
  refine ⟨hsaid, fun line => ?_, fun line directory other h hother => ?_, ?_⟩
  · simp only [Option.eq_none_iff_forall_ne_some, ne_eq, hsaid]
  · rw [← hsaid] at h hother
    rw [h] at hother
    cases hother
    rfl
  · intro heading opening closing directory margin hopening hclosing hdirectory hmargin
    exact (hsaid _ _).2 ⟨heading, _, .enter hopening hclosing hdirectory hmargin, rfl⟩

example : ofLine? "  ninja[12]: Entering directory `it's \" ' \t".toList =
    some (.enter "it's \" ") := by
  decide

end CompileCommands.Announcement
