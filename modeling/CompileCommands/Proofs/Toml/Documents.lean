import CompileCommands.Proofs.Toml.Literals
import Mathlib.Data.List.DropRight

/-!
# The ways to write a document

A line gives a name a text, or it is blank. Spaces may stand around everything on it, and a comment
may end it. A document is lines that are closed by line feeds, but for the last one. This file
describes the documents on their own, without a reader in mind, and the ways to save one in a file:
with a byte order mark in front or without one, each line feed behind a carriage return or alone.

## Main definitions

* `Toml.Key`: the ways to write a name.
* `Toml.Line`, `Toml.Lines`: the ways to write a line, and several lines that are closed.
* `Toml.Document`: the ways to write assignments.
* `Toml.AddsReturns`, `Toml.Saved`: the ways to close the lines of a text, and to save it in a file.

## Main results

* `Toml.Lines.readLines?_append`: closed lines are read, whatever follows them.
* `Toml.readLines?_eq_some_iff`: documents are what is read as one.
* `Toml.assignments?_eq_some_iff`: the same, as it is saved in a file.
* `Toml.exists_document`: all assignments can be written.
-/

namespace CompileCommands.Toml

open Text

/-- The ways to write a name. -/
inductive Key : List Char → List Char → Prop
  /-- Without quotes. -/
  | bare {key : List Char} (hne : key ≠ []) (hkey : ∀ c ∈ key, isKeyChar c = true) : Key key key
  /-- Between quotes, on one line. -/
  | quoted {quote : Char} {key written : List Char} (h : Literal ⟨quote, false⟩ key written) :
      Key key written

/-- Spaces and tabs, any number of them. -/
def IsSpaces (text : List Char) : Prop :=
  ∀ c ∈ text, isSpace c = true

/-- A name at the start of a line, and the spaces around it. -/
inductive Named (key : List Char) : List Char → Prop
  | mk {margin written spaces : List Char} (hmargin : IsSpaces margin) (hkey : Key key written)
      (hspaces : IsSpaces spaces) : Named key (margin ++ (written ++ spaces))

/-- What may stand at the end of a line: spaces, and a comment behind them or none. -/
inductive Ending : List Char → Prop
  | spaces {spaces : List Char} (hspaces : IsSpaces spaces) : Ending spaces
  | comment {spaces comment : List Char} (hspaces : IsSpaces spaces)
      (hcomment : ∀ c ∈ comment, isCommentChar c = true) : Ending (spaces ++ '#' :: comment)

/-- The ways to write a line, without the line feed that closes it. -/
inductive Line : Option Assignment → List Char → Prop
  /-- Nothing is assigned. -/
  | blank {ending : List Char} (h : Ending ending) : Line none ending
  /-- A text is given a name. -/
  | assigns {key value named spaces literal ending : List Char} {form : Form}
      (hkey : Named key named) (hspaces : IsSpaces spaces) (hvalue : Literal form value literal)
      (hending : Ending ending) :
      Line (some ⟨key, value⟩) (named ++ '=' :: (spaces ++ (literal ++ ending)))

/-- The ways to write several lines that are closed by line feeds. -/
inductive Lines : List Assignment → List Char → Prop
  | nil : Lines [] []
  | cons {content : Option Assignment} {assignments : List Assignment} {line text : List Char}
      (hline : Line content line) (h : Lines assignments text) :
      Lines (content.toList ++ assignments) (line ++ '\n' :: text)

/-- The ways to write assignments, the last line being left open. -/
inductive Document : List Assignment → List Char → Prop
  | mk {assignments : List Assignment} {content : Option Assignment} {front line : List Char}
      (hfront : Lines assignments front) (hline : Line content line) :
      Document (assignments ++ content.toList) (front ++ line)

/-! ### Names -/

section Names

variable {key written text rest : List Char}

theorem IsSpaces.skipSpaces_append (h : IsSpaces written)
    (hrest : ∀ c ∈ rest.head?, isSpace c = false) : skipSpaces (written ++ rest) = rest :=
  dropWhile_append_eq_right h hrest

private theorem exists_isSpaces (text : List Char) :
    ∃ spaces, IsSpaces spaces ∧ text = spaces ++ skipSpaces text :=
  ⟨text.takeWhile isSpace, of_mem_takeWhile, List.takeWhile_append_dropWhile.symm⟩

/-- A text that begins with spaces begins with one of them, unless there are none. -/
theorem IsSpaces.of_mem_head? (h : IsSpaces written) {c : Char}
    (hc : c ∈ (written ++ rest).head?) : isSpace c = true ∨ c ∈ rest.head? := by
  cases written with
  | nil => exact .inr hc
  | cons space written =>
    cases hc
    exact .inl (h c List.mem_cons_self)

/-- A name is read however it is written, up to a character that is neither part of a name nor a
quote. -/
theorem Key.readKey?_append (h : Key key written)
    (hrest : ∀ c ∈ rest.head?, isKeyChar c = false ∧ c ≠ '"' ∧ c ≠ '\'') :
    readKey? (written ++ rest) = some (key, rest) := by
  cases h with
  | bare hne hkey =>
    have htake := takeWhile_append_eq_left hkey fun c hc => (hrest c hc).1
    have hdrop := dropWhile_append_eq_right hkey fun c hc => (hrest c hc).1
    rw [readKey?, htake, hdrop]
    split
    next => exact absurd rfl hne
    next => rfl
  | @quoted quote _ _ h =>
    obtain ⟨hquote, tail, rfl⟩ := h.exists_cons
    have hrest' : rest.head? ≠ some quote := fun hhead => by
      rcases hquote with rfl | rfl
      · exact (hrest _ hhead).2.1 rfl
      · exact (hrest _ hhead).2.2 rfl
    have hnone : (quote :: (tail ++ rest)).takeWhile isKeyChar = [] := by
      have hchar : isKeyChar quote = false := by rcases hquote with rfl | rfl <;> rfl
      rw [List.takeWhile_cons, hchar]
      rfl
    have hread := h.readQuoted?_append hrest'
    rw [List.cons_append] at hread
    rw [List.cons_append, readKey?, hnone, hread]

/-- What is read as a name is one of the ways to write it. -/
private theorem exists_key_of_readKey? (h : readKey? text = some (key, rest)) :
    ∃ written, Key key written ∧ text = written ++ rest := by
  rw [readKey?] at h
  split at h
  next =>
    split at h
    next hquoted =>
      cases h
      obtain ⟨written, hwritten, rfl⟩ := exists_literal_of_readQuoted? hquoted
      exact ⟨written, .quoted hwritten, rfl⟩
    next => cases h
  next hne =>
    cases h
    exact ⟨_, .bare hne of_mem_takeWhile, List.takeWhile_append_dropWhile.symm⟩

private theorem isSpace_eq_true_iff {c : Char} : isSpace c = true ↔ c = ' ' ∨ c = '\t' := by
  simp [isSpace]

/-- A text between quotes does not begin with a space. -/
theorem Literal.isSpace_head? {form : Form} {value : List Char} (h : Literal form value written) :
    ∀ c ∈ (written ++ rest).head?, isSpace c = false := by
  obtain ⟨hquote, tail, rfl⟩ := h.exists_cons
  intro c hc
  cases hc
  rcases hquote with heq | heq <;> rw [heq] <;> rfl

/-- A name does not begin with a space. -/
private theorem Key.isSpace_head? (h : Key key written) :
    ∀ c ∈ (written ++ rest).head?, isSpace c = false := by
  cases h with
  | bare hne hkey =>
    obtain ⟨first, key, rfl⟩ := List.exists_cons_of_ne_nil hne
    intro c hc
    cases hc
    rw [Bool.eq_false_iff]
    intro hspace
    have hkeyChar := hkey first List.mem_cons_self
    rcases isSpace_eq_true_iff.1 hspace with rfl | rfl <;> cases hkeyChar
  | quoted h => exact h.isSpace_head?

/-- A name at the start of a line is read, up to the sign behind it. -/
theorem Named.exists_readKey? (h : Named key written) {sign : Char}
    (hsign : sign = '=' ∨ sign = '.') (rest : List Char) :
    ∃ behind, readKey? (skipSpaces (written ++ sign :: rest)) = some (key, behind) ∧
      skipSpaces behind = sign :: rest := by
  obtain @⟨margin, written, spaces, hmargin, hkey, hspaces⟩ := h
  have hbehind : ∀ c ∈ (spaces ++ sign :: rest).head?,
      isKeyChar c = false ∧ c ≠ '"' ∧ c ≠ '\'' := by
    intro c hc
    rcases hspaces.of_mem_head? hc with hspace | hc
    · rcases isSpace_eq_true_iff.1 hspace with rfl | rfl <;> decide
    · cases hc
      rcases hsign with rfl | rfl <;> decide
  have hspace : isSpace sign = false := by rcases hsign with rfl | rfl <;> rfl
  refine ⟨spaces ++ sign :: rest, ?_, hspaces.skipSpaces_append (by simpa using hspace)⟩
  rw [List.append_assoc, List.append_assoc, hmargin.skipSpaces_append hkey.isSpace_head?,
    hkey.readKey?_append hbehind]

theorem IsSpaces.head?_append_ne (h : IsSpaces written) {c : Char} (hc : c ≠ '\ufeff')
    (rest : List Char) : (written ++ c :: rest).head? ≠ some '\ufeff' := by
  intro hhead
  rcases h.of_mem_head? hhead with hspace | hmark
  · cases hspace
  · exact hc (Option.some.inj hmark)

/-- A name does not begin with a byte order mark. -/
theorem Named.head?_append_ne (h : Named key written) {sign : Char}
    (hsign : sign = '=' ∨ sign = '.') (rest : List Char) :
    (written ++ sign :: rest).head? ≠ some '\ufeff' := by
  intro hhead
  obtain ⟨tail, heq⟩ := List.head?_eq_some_iff.1 hhead
  obtain ⟨behind, hread, -⟩ := h.exists_readKey? hsign rest
  have hnone : readKey? (skipSpaces ('\ufeff' :: tail)) = none := rfl
  rw [heq, hnone] at hread
  cases hread

/-- A name is given what stands behind the equals sign. -/
theorem Named.valueAt (h : Named key written) (rest : List Char) :
    ValueAt key (written ++ '=' :: rest) (skipSpaces rest) := by
  obtain ⟨behind, hread, hsign⟩ := h.exists_readKey? (.inl rfl) rest
  exact ⟨behind, rest, hread, after?_eq_some_iff.2 hsign, rfl⟩

end Names

/-! ### Lines -/

section Lines

variable {content : Option Assignment} {line ending after text rest : List Char}

private theorem skipLineFeed?_eq_some_iff :
    skipLineFeed? text = some rest ↔ text = [] ∧ rest = [] ∨ text = '\n' :: rest := by
  rw [skipLineFeed?.eq_def]
  split
  next => simp [eq_comm]
  next => simp
  next hnil hfeed =>
    constructor
    · intro h
      cases h
    · rintro (⟨rfl, _⟩ | rfl)
      · exact absurd rfl hnil
      · exact absurd rfl (hfeed rest)

/-- A line ends at a line feed or at the end of the text. -/
theorem head?_of_skipLineFeed? (h : skipLineFeed? after = some rest) :
    ∀ c ∈ after.head?, c = '\n' := by
  rcases skipLineFeed?_eq_some_iff.1 h with ⟨rfl, _⟩ | rfl <;> simp [eq_comm]

private theorem skipSpaces_skipSpaces (text : List Char) :
    skipSpaces (skipSpaces text) = skipSpaces text :=
  List.dropWhile_idempotent ..

/-- Only spaces, comments and line feeds stand behind what a line holds. -/
theorem Ending.head?_append (h : Ending ending) (hafter : ∀ c ∈ after.head?, c = '\n') :
    ∀ c ∈ (ending ++ after).head?, isSpace c = true ∨ c = '#' ∨ c = '\n' := by
  intro c hc
  cases h with
  | spaces hspaces => exact (hspaces.of_mem_head? hc).imp_right fun hc => .inr (hafter c hc)
  | comment hspaces =>
    rw [List.append_assoc] at hc
    refine (hspaces.of_mem_head? hc).imp_right fun hc => ?_
    cases hc
    exact .inl rfl

/-- Behind the spaces at its end, a line is over or a comment begins. -/
theorem Ending.skipSpaces_append (h : Ending ending) (hafter : ∀ c ∈ after.head?, c = '\n') :
    skipSpaces (ending ++ after) = after ∨
      ∃ comment, (∀ c ∈ comment, isCommentChar c = true) ∧
        skipSpaces (ending ++ after) = '#' :: (comment ++ after) := by
  cases h with
  | spaces hspaces =>
    refine .inl (hspaces.skipSpaces_append fun c hc => ?_)
    rw [hafter c hc]
    rfl
  | comment hspaces hcomment =>
    refine .inr ⟨_, hcomment, ?_⟩
    rw [List.append_assoc, hspaces.skipSpaces_append (by simp [isSpace]), List.cons_append]

/-- The end of a line is passed over. -/
theorem Ending.skipLineFeed?_append (h : Ending ending) (hafter : skipLineFeed? after = some rest) :
    skipLineFeed? (skipComment (skipSpaces (ending ++ after))) = some rest := by
  have hhead := head?_of_skipLineFeed? hafter
  have hcomment : skipComment (skipSpaces (ending ++ after)) = after := by
    rcases h.skipSpaces_append hhead with heq | ⟨comment, hcomment, heq⟩
    · rw [heq, skipComment.eq_def]
      split
      next => exact absurd (hhead '#' rfl) (by decide)
      next => rfl
    · rw [heq, skipComment]
      exact dropWhile_append_eq_right hcomment fun c hc => by rw [hhead c hc]; rfl
  rw [hcomment, hafter]

/-- Nothing is assigned where a line ends. -/
theorem Ending.isBare_skipSpaces (h : Ending ending) (hafter : ∀ c ∈ after.head?, c = '\n') :
    isBare (skipSpaces (ending ++ after)) = true := by
  rcases h.skipSpaces_append hafter with heq | ⟨comment, _, heq⟩
  · rw [heq]
    cases after with
    | nil => rfl
    | cons c after =>
      rw [hafter c rfl]
      rfl
  · rw [heq]
    rfl

/-- What is passed over at the end of a line. -/
private theorem exists_ending_of_skipLineFeed?
    (h : skipLineFeed? (skipComment (skipSpaces text)) = some rest) :
    ∃ ending after, Ending ending ∧ skipLineFeed? after = some rest ∧ text = ending ++ after := by
  obtain ⟨spaces, hspaces, htext⟩ := exists_isSpaces text
  rw [skipComment.eq_def] at h
  split at h
  next comment heq =>
    rw [heq] at htext
    refine ⟨spaces ++ '#' :: comment.takeWhile isCommentChar, _, .comment hspaces of_mem_takeWhile,
      h, ?_⟩
    rw [htext, List.append_assoc, List.cons_append, List.takeWhile_append_dropWhile]
  next => exact ⟨spaces, _, .spaces hspaces, h, htext⟩

/-- **A line is read**, whatever follows it. -/
theorem Line.readLine?_append (h : Line content line) (hafter : skipLineFeed? after = some rest) :
    readLine? (line ++ after) = some (content, rest) := by
  have hhead := head?_of_skipLineFeed? hafter
  cases h with
  | blank h =>
    rw [readLine?, readContent?, if_pos (h.isBare_skipSpaces hhead)]
    simp only [Option.bind_eq_bind, Option.bind_some, skipSpaces_skipSpaces,
      h.skipLineFeed?_append hafter]
  | @assigns key value named spaces literal ending form hkey hspaces hvalue hending =>
    have hplace := hkey.valueAt (spaces ++ (literal ++ (ending ++ after)))
    rw [hspaces.skipSpaces_append hvalue.isSpace_head?] at hplace
    have hquoted : readQuoted? (literal ++ (ending ++ after)) =
        some (form, value, ending ++ after) := by
      refine hvalue.readQuoted?_append fun hquote => ?_
      have hkind := hending.head?_append hhead _ hquote
      rcases hvalue.exists_cons.1 with heq | heq <;> rw [heq] at hkind <;> revert hkind <;> decide
    simp only [List.append_assoc, List.cons_append]
    rw [readLine?, hplace.readContent?_eq, hquoted]
    simp only [Option.bind_eq_bind, Option.map_some, Option.bind_some,
      hending.skipLineFeed?_append hafter]

/-- What is read as a line is one of the ways to write it. -/
private theorem exists_written_of_readLine? (h : readLine? text = some (content, rest)) :
    ∃ line after, Line content line ∧ skipLineFeed? after = some rest ∧ text = line ++ after := by
  obtain ⟨⟨_, behind⟩, hcontent, h⟩ := Option.bind_eq_some_iff.1 h
  obtain ⟨_, hfeed, heq⟩ := Option.bind_eq_some_iff.1 h
  cases heq
  rw [readContent?] at hcontent
  split at hcontent
  next =>
    cases hcontent
    rw [skipSpaces_skipSpaces] at hfeed
    obtain ⟨ending, after, hending, hafter, rfl⟩ := exists_ending_of_skipLineFeed? hfeed
    exact ⟨ending, after, .blank hending, hafter, rfl⟩
  next =>
    obtain ⟨⟨assignment, _⟩, hassignment, heq⟩ := Option.map_eq_some_iff.1 hcontent
    cases heq
    obtain ⟨ending, after, hending, hafter, rfl⟩ := exists_ending_of_skipLineFeed? hfeed
    obtain ⟨⟨key, beyond⟩, hkey, h⟩ := Option.bind_eq_some_iff.1 hassignment
    obtain ⟨value, hsign, h⟩ := Option.bind_eq_some_iff.1 h
    obtain ⟨⟨form, body, _⟩, hquoted, heq⟩ := Option.bind_eq_some_iff.1 h
    cases heq
    obtain ⟨margin, hmargin, htext⟩ := exists_isSpaces text
    obtain ⟨written, hwritten, hname⟩ := exists_key_of_readKey? hkey
    obtain ⟨spaces, hspaces, hbeyond⟩ := exists_isSpaces beyond
    obtain ⟨spaces', hspaces', hvalue⟩ := exists_isSpaces value
    obtain ⟨literal, hliteral, hquoted⟩ := exists_literal_of_readQuoted? hquoted
    refine ⟨_, after, .assigns (.mk hmargin hwritten hspaces) hspaces' hliteral hending, hafter, ?_⟩
    rw [htext, hname, hbeyond, after?_eq_some_iff.1 hsign, hvalue, hquoted]
    simp

/-- A line that begins with a name and an equals sign gives a text the name, if it is read. -/
theorem Named.exists_of_readLine? {key named : List Char} (h : Named key named)
    (hread : readLine? (named ++ '=' :: text) = some (content, rest)) :
    ∃ form value behind, readQuoted? (skipSpaces text) = some (form, value, behind) ∧
      content = some ⟨key, value⟩ := by
  obtain ⟨⟨_, _⟩, hcontent, hread⟩ := Option.bind_eq_some_iff.1 hread
  obtain ⟨_, _, heq⟩ := Option.bind_eq_some_iff.1 hread
  cases heq
  rw [(h.valueAt text).readContent?_eq] at hcontent
  obtain ⟨⟨form, value, behind⟩, hquoted, heq⟩ := Option.map_eq_some_iff.1 hcontent
  cases heq
  exact ⟨form, value, _, hquoted, rfl⟩

/-- A name in several parts is none. -/
theorem Named.readLine?_dot {key named : List Char} (h : Named key named) (rest : List Char) :
    readLine? (named ++ '.' :: rest) = none := by
  obtain ⟨behind, hread, hsign⟩ := h.exists_readKey? (.inr rfl) rest
  have hbare : ¬ isBare (skipSpaces (named ++ '.' :: rest)) = true := by
    simp [isBare_eq_false_of_readKey? hread]
  rw [readLine?, readContent?, if_neg hbare, readAssignment?, hread]
  simp [hsign, after?]

/-- A table is no line. -/
theorem IsSpaces.readLine?_bracket {margin : List Char} (h : IsSpaces margin) (rest : List Char) :
    readLine? (margin ++ '[' :: rest) = none := by
  rw [readLine?, h.skipSpaces_append (by simp [isSpace])]
  rfl

end Lines

/-! ### Documents -/

section Documents

variable {assignments : List Assignment} {front text rest : List Char}

/-- **Closed lines are read**, whatever follows them. -/
theorem Lines.readLines?_append (h : Lines assignments front) (rest : List Char) :
    readLines? (front ++ rest) = (readLines? rest).map (assignments ++ ·) := by
  induction h with
  | nil => simp
  | cons hline _ ih =>
    rw [List.append_assoc, List.cons_append, readLines?_eq, hline.readLine?_append rfl,
      Option.bind_some, ih, Option.map_map]
    simp [Function.comp_def]

/-- A document is read as what it assigns. -/
theorem Document.readLines?_eq (h : Document assignments text) :
    readLines? text = some assignments := by
  obtain @⟨assignments, content, front, line, hfront, hline⟩ := h
  have hread : readLine? line = some (content, []) := by
    have hnil : skipLineFeed? [] = some [] := rfl
    simpa using hline.readLine?_append hnil
  have hlast : readLines? line = some content.toList := by
    rw [Toml.readLines?_eq, hread, Option.bind_some, readLines?, dif_pos rfl, Option.map_some,
      List.append_nil]
  rw [hfront.readLines?_append, hlast, Option.map_some]

/-- A line in front of a document makes it a longer one. -/
theorem Document.cons {content : Option Assignment} {line : List Char} (hline : Line content line)
    (h : Document assignments text) :
    Document (content.toList ++ assignments) (line ++ '\n' :: text) := by
  obtain ⟨hfront, hlast⟩ := h
  have hdocument := Document.mk (.cons hline hfront) hlast
  rwa [List.append_assoc, List.append_assoc, List.cons_append] at hdocument

private theorem document_of_readLines? (h : readLines? text = some assignments) :
    Document assignments text := by
  fun_induction readLines? text generalizing assignments with
  | case1 =>
    cases h
    exact .mk .nil (.blank (.spaces (by simp [IsSpaces])))
  | case2 => cases h
  | case3 text _ content rest hread _ ih =>
    obtain ⟨later, hlater, rfl⟩ := Option.map_eq_some_iff.1 h
    obtain ⟨line, after, hline, hafter, rfl⟩ := exists_written_of_readLine? hread
    rcases skipLineFeed?_eq_some_iff.1 hafter with ⟨rfl, rfl⟩ | rfl
    · rw [readLines?, dif_pos rfl] at hlater
      cases hlater
      simpa using Document.mk .nil hline
    · exact .cons hline (ih hlater)

/-- **Documents are what is read as one.** -/
theorem readLines?_eq_some_iff : readLines? text = some assignments ↔ Document assignments text :=
  ⟨document_of_readLines?, Document.readLines?_eq⟩

/-- **All assignments can be written.** -/
theorem exists_document (assignments : List Assignment) : ∃ text, Document assignments text := by
  have hnone : IsSpaces [] := List.forall_mem_nil _
  induction assignments with
  | nil => exact ⟨_, .mk .nil (.blank (.spaces hnone))⟩
  | cons assignment assignments ih =>
    obtain ⟨text, h⟩ := ih
    obtain ⟨name, hname⟩ := exists_literal assignment.key
    obtain ⟨literal, hliteral⟩ := exists_literal assignment.value
    have hnamed : Named assignment.key _ := .mk hnone (.quoted hname) hnone
    exact ⟨_, h.cons (.assigns hnamed hnone hliteral (.spaces hnone))⟩

/-! ### Carriage returns -/

theorem IsSpaces.return_notMem (h : IsSpaces text) : '\r' ∉ text :=
  return_notMem_of_forall h rfl

private theorem Key.return_notMem {key : List Char} (h : Key key text) : '\r' ∉ text := by
  cases h with
  | bare _ hkey => exact return_notMem_of_forall hkey rfl
  | quoted h => exact h.return_notMem

private theorem Named.return_notMem {key : List Char} (h : Named key text) : '\r' ∉ text := by
  obtain ⟨hmargin, hkey, hspaces⟩ := h
  simp [hmargin.return_notMem, hkey.return_notMem, hspaces.return_notMem]

private theorem Ending.return_notMem (h : Ending text) : '\r' ∉ text := by
  cases h with
  | spaces hspaces => exact hspaces.return_notMem
  | comment hspaces hcomment =>
    simp [hspaces.return_notMem, return_notMem_of_forall hcomment rfl]

private theorem Line.return_notMem {content : Option Assignment} (h : Line content text) :
    '\r' ∉ text := by
  cases h with
  | blank h => exact h.return_notMem
  | assigns hkey hspaces hvalue hending =>
    simp [hkey.return_notMem, hspaces.return_notMem, hvalue.return_notMem, hending.return_notMem]

private theorem Lines.return_notMem (h : Lines assignments text) : '\r' ∉ text := by
  induction h with
  | nil => simp
  | cons hline _ ih => simp [hline.return_notMem, ih]

/-- No document has a carriage return in it. -/
theorem Document.return_notMem (h : Document assignments text) : '\r' ∉ text := by
  obtain ⟨hfront, hline⟩ := h
  simp [hfront.return_notMem, hline.return_notMem]

end Documents

/-! ### Files -/

/-- The ways to close the lines of a text: each line feed may stand behind a carriage return. -/
inductive AddsReturns : List Char → List Char → Prop
  | nil : AddsReturns [] []
  | char {c : Char} {text raw : List Char} (hc : c ≠ '\r') (h : AddsReturns text raw) :
      AddsReturns (c :: text) (c :: raw)
  | lineFeed {text raw : List Char} (h : AddsReturns text raw) :
      AddsReturns ('\n' :: text) ('\r' :: '\n' :: raw)

/-- The ways to save a text in a file, behind a byte order mark or without one. -/
inductive Saved (text : List Char) : List Char → Prop
  | plain {raw : List Char} (h : AddsReturns text raw) : Saved text raw
  | marked {raw : List Char} (h : AddsReturns text raw) : Saved text ('\ufeff' :: raw)

section Files

variable {assignments : List Assignment} {text raw file rest : List Char}

private theorem foldReturns_cons {c : Char} (hc : c ≠ '\r') (text : List Char) :
    foldReturns (c :: text) = c :: foldReturns text := by
  rw [foldReturns]
  rintro rest rfl
  exact absurd rfl hc

/-- The text is read from what it is saved as, whatever follows. -/
theorem AddsReturns.foldReturns_append (h : AddsReturns text raw) (rest : List Char) :
    foldReturns (raw ++ rest) = text ++ foldReturns rest := by
  induction h with
  | nil => rfl
  | char hc _ ih => rw [List.cons_append, foldReturns_cons hc, ih, List.cons_append]
  | lineFeed _ ih => rw [List.cons_append, List.cons_append, foldReturns, ih, List.cons_append]

theorem addsReturns_self (h : '\r' ∉ text) : AddsReturns text text := by
  induction text with
  | nil => exact .nil
  | cons c text ih =>
    simp only [List.mem_cons, not_or] at h
    exact .char (Ne.symm h.1) (ih h.2)

private theorem addsReturns_foldReturns (h : '\r' ∉ foldReturns raw) :
    AddsReturns (foldReturns raw) raw := by
  fun_induction foldReturns raw with
  | case1 text ih => exact .lineFeed (ih fun hmem => h (List.mem_cons_of_mem _ hmem))
  | case2 c text _ ih =>
    simp only [List.mem_cons, not_or] at h
    exact .char (Ne.symm h.1) (ih h.2)
  | case3 => exact .nil

private theorem AddsReturns.head?_append (h : AddsReturns text raw) {c : Char}
    (hhead : (raw ++ rest).head? = some c) : c = '\r' ∨ (text ++ rest).head? = some c := by
  cases h with
  | nil => exact .inr hhead
  | char => exact .inr hhead
  | lineFeed =>
    cases hhead
    exact .inl rfl

private theorem skipMark_of_head? (h : text.head? ≠ some '\ufeff') : skipMark text = text := by
  rw [skipMark.eq_def]
  split
  next => exact absurd rfl h
  next => rfl

theorem Saved.foldReturns_skipMark (h : Saved text file)
    (hhead : (text ++ rest).head? ≠ some '\ufeff') :
    foldReturns (skipMark (file ++ rest)) = text ++ foldReturns rest := by
  cases h with
  | plain h =>
    rw [skipMark_of_head?, h.foldReturns_append]
    intro hmark
    rcases h.head?_append hmark with heq | heq
    · exact absurd heq (by decide)
    · exact hhead heq
  | marked h => exact h.foldReturns_append rest

/-- A document does not begin with a byte order mark. -/
theorem Document.head?_ne (h : Document assignments text) : text.head? ≠ some '\ufeff' := by
  intro hhead
  obtain ⟨rest, rfl⟩ := List.head?_eq_some_iff.1 hhead
  have hnone : readLines? ('\ufeff' :: rest) = none := by
    rw [Toml.readLines?_eq]
    rfl
  rw [h.readLines?_eq] at hnone
  cases hnone

theorem Lines.head?_ne {front : List Char} (h : Lines assignments front) :
    front.head? ≠ some '\ufeff' := by
  have hdocument := Document.mk h (.blank (.spaces (List.forall_mem_nil _)))
  rw [List.append_nil front] at hdocument
  exact hdocument.head?_ne

/-- A text without carriage returns is saved in every file that it is read from. -/
theorem saved_of_foldReturns_skipMark (h : foldReturns (skipMark file) = text)
    (hreturn : '\r' ∉ text) : Saved text file := by
  subst h
  rw [skipMark.eq_def] at hreturn ⊢
  split
  next => exact .marked (addsReturns_foldReturns hreturn)
  next hmark =>
    split at hreturn
    next => exact absurd rfl (hmark _)
    next => exact .plain (addsReturns_foldReturns hreturn)

/-- **The documents in a file are what is read as one.** -/
theorem assignments?_eq_some_iff : assignments? file = some assignments ↔
    ∃ text, Document assignments text ∧ Saved text file := by
  rw [assignments?, readLines?_eq_some_iff]
  constructor
  · intro h
    exact ⟨_, h, saved_of_foldReturns_skipMark rfl h.return_notMem⟩
  · rintro ⟨text, h, hsaved⟩
    have hhead : (text ++ []).head? ≠ some '\ufeff' := by
      rw [List.append_nil]
      exact h.head?_ne
    have hfold := hsaved.foldReturns_skipMark hhead
    rw [List.append_nil, foldReturns, List.append_nil] at hfold
    rwa [hfold]

end Files

end CompileCommands.Toml
