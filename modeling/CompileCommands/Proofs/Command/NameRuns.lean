import CompileCommands.Proofs.Command.SourceName
import CompileCommands.Proofs.Text.Searches
import Mathlib.Data.List.Forall2

/-!
# Names and their source endings

A name is a maximal run of name characters. A place of a name is a stop if the name up to it is
something, a dot and a source ending, and if no word character follows. The letters of an ending may
be large or small, and the long s counts as an s. The source file of a text is what the first name
with a stop begins with, up to its last stop; so it is itself a name with a stop at its end, and it
is its own source file.

## Main definitions

* `SourceName.HasSourceEnding`: a text with a source ending.
* `NameRun`: a maximal run of name characters in a text.
* `NameRun.IsStop`, `NameRun.IsLastStop`: a stop of such a run, and its last one.
* `NameRun.IsFirstWithStop`: the first run with a stop.

## Main results

* `SourceName.isStop_iff`: a place behind a source ending.
* `NameRun.cases_of_append`: the runs of a text whose first name characters are known.
* `SourceName.find?_iff_lastStop`: the source file of a text.
-/

namespace CompileCommands

open Text

namespace SourceName

/-- The characters that stand for a letter of an ending: the letter, its capital and, for an s, the
long s. -/
def spellings (letter : Char) : List Char :=
  [letter, letter.toUpper] ++ if letter = 's' then ['\u017f'] else []

/-- The text is something, a dot and a source ending. -/
def HasSourceEnding (text : List Char) : Prop :=
  ∃ ending ∈ sourceEndings, ∃ stem letters, stem ≠ [] ∧
    List.Forall₂ (fun c letter => c ∈ spellings letter) letters ending.toList ∧
    text = stem ++ '.' :: letters

/-! ### Letters of endings -/

/-- The letters of the endings. -/
def endingLetters : List Char :=
  ['c', 'p', 's', 'x']

private theorem mem_endingLetters {ending : String} (h : ending ∈ sourceEndings) :
    ∀ letter ∈ ending.toList, letter ∈ endingLetters := by
  have hall : ∀ ending ∈ sourceEndings, ending.toList ⊆ endingLetters := by decide
  exact fun letter hletter => hall ending h hletter

/-- A letter is spelled by the characters that are folded to it. -/
private theorem mem_spellings_iff {c letter : Char} (h : letter ∈ endingLetters) :
    c ∈ spellings letter ↔ foldLetter c = letter := by
  by_cases hascii : c.toNat < 0x80
  · have hall : ∀ n < 0x80, endingLetters.all (fun letter =>
        (spellings letter).contains (Char.ofNat n) == (foldLetter (Char.ofNat n) == letter)) := by
      decide
    have hletter := List.all_eq_true.1 (hall c.toNat hascii) letter h
    rw [Char.ofNat_toNat, beq_iff_eq, Bool.eq_iff_iff] at hletter
    simpa using hletter
  · by_cases hlong : c = '\u017f'
    · have hall : endingLetters.all (fun letter =>
          (spellings letter).contains '\u017f' == (foldLetter '\u017f' == letter)) := by decide
      have hletter := List.all_eq_true.1 hall letter h
      rw [beq_iff_eq, Bool.eq_iff_iff] at hletter
      subst hlong
      simpa using hletter
    · have hall : (endingLetters.flatMap spellings).all (fun other =>
          other.toNat < 0x80 || other == '\u017f') := by decide
      have hfold : foldLetter c = c := by
        have hupper : ¬ (c.val ≥ 'A'.val ∧ c.val ≤ 'Z'.val) := by
          rintro ⟨-, hle⟩
          exact hascii (Nat.lt_of_le_of_lt (UInt32.le_iff_toNat_le.1 hle) (by decide))
        rw [foldLetter, if_neg hlong]
        exact dif_neg hupper
      have hnot (hc : c ∈ spellings letter) : False := by
        have hother := List.all_eq_true.1 hall c (List.mem_flatMap.2 ⟨letter, h, hc⟩)
        simp [hascii, hlong] at hother
      rw [hfold]
      exact ⟨fun hc => (hnot hc).elim, fun heq => (hnot (heq ▸ List.mem_cons_self)).elim⟩

/-- The letters of an ending are spelled by the characters that are folded to them. -/
private theorem forall₂_spellings_iff {letters ending : List Char}
    (h : ∀ letter ∈ ending, letter ∈ endingLetters) :
    List.Forall₂ (fun c letter => c ∈ spellings letter) letters ending ↔
      letters.map foldLetter = ending := by
  induction letters generalizing ending with
  | nil => rw [List.forall₂_nil_left_iff, List.map_nil, eq_comm]
  | cons c letters ih =>
    cases ending with
    | nil => exact iff_of_false (fun h => by cases h) (List.cons_ne_nil _ _)
    | cons letter ending =>
      rw [List.forall₂_cons, List.map_cons, List.cons_eq_cons,
        mem_spellings_iff (h letter List.mem_cons_self),
        ih fun other hother => h other (List.mem_cons_of_mem letter hother)]

/-! ### Stops -/

/-- A text has an ending if its last characters spell it, behind a dot and something more. -/
theorem endsIn_iff {text : List Char} {ending : String} (h : ending ∈ sourceEndings) :
    endsIn text.reverse ending = true ↔ ∃ stem letters, stem ≠ [] ∧
      List.Forall₂ (fun c letter => c ∈ spellings letter) letters ending.toList ∧
      text = stem ++ '.' :: letters := by
  simp only [forall₂_spellings_iff (mem_endingLetters h)]
  rw [endsIn, Bool.and_eq_true, beq_iff_eq]
  constructor
  · rintro ⟨hletters, hdot⟩
    split at hdot
    case h_2 => cases hdot
    case h_1 c stem heq =>
      refine ⟨(c :: stem).reverse, (text.reverse.take ending.length).reverse, by simp, ?_, ?_⟩
      · rw [List.map_reverse, hletters, List.reverse_reverse]
      · have hsplit := List.take_append_drop ending.length text.reverse
        rw [heq] at hsplit
        simpa using (congrArg List.reverse hsplit).symm
  · rintro ⟨stem, letters, hne, hletters, rfl⟩
    have hlength : ending.length = letters.reverse.length := by
      rw [List.length_reverse, ← String.length_toList, ← hletters, List.length_map]
    have hreverse : (stem ++ '.' :: letters).reverse = letters.reverse ++ '.' :: stem.reverse := by
      simp
    rw [hreverse, hlength, List.take_left, List.drop_left]
    obtain ⟨c, rest, hstem⟩ := List.exists_cons_of_ne_nil (List.reverse_ne_nil_iff.2 hne)
    rw [hstem]
    exact ⟨by rw [List.map_reverse, hletters], rfl⟩

/-- A place is a stop if a source ending stands on its left and no word character on its right. -/
theorem isStop_iff {place : Cursor} :
    isStop place = true ↔ HasSourceEnding place.left ∧ startsWithWordChar place.after = false := by
  have hbefore : place.before = place.left.reverse := (List.reverse_reverse _).symm
  rw [isStop, Bool.and_eq_true, Bool.not_eq_true', List.any_eq_true, hbefore, and_comm]
  refine and_congr_left' (exists_congr fun ending => and_congr_right fun hending => ?_)
  exact endsIn_iff hending

/-- A stop has a character on its left. -/
theorem before_ne_nil_of_isStop {place : Cursor} (h : isStop place = true) : place.before ≠ [] := by
  obtain ⟨⟨_, -, stem, letters, -, -, hleft⟩, -⟩ := isStop_iff.1 h
  intro hnil
  simp [Cursor.left, hnil] at hleft

/-- The source file of a name reaches up to its last stop. -/
private theorem exists_place_of_ofName? {name file : List Char} (h : ofName? name = some file) :
    ∃ place : Cursor, place.left = file ∧ place.text = name ∧ isStop place = true ∧
      ∀ other : Cursor, other.text = name → isStop other = true → other.offset ≤ place.offset := by
  obtain ⟨place, hplace, hfile⟩ := Option.map_eq_some_iff.1 h
  have htext := Cursor.text_of_last? hplace
  rw [Cursor.text_finish] at htext
  exact ⟨place, hfile, htext, Cursor.holds_of_last? hplace,
    fun other hother hstop => Cursor.le_offset_of_last? hplace hother hstop⟩

/-- A name without a source file has no stop. -/
private theorem not_isStop_of_ofName? {name : List Char} (h : ofName? name = none) {place : Cursor}
    (htext : place.text = name) : ¬ isStop place = true := by
  intro hstop
  have hfails := Cursor.not_of_last?_eq_none (Option.map_eq_none_iff.1 h) htext
    (before_ne_nil_of_isStop hstop)
  rw [hstop] at hfails
  cases hfails

/-- A text with a source ending is its own source file. -/
theorem ofName?_of_hasSourceEnding {file : List Char} (h : HasSourceEnding file) :
    ofName? file = some file := by
  have hstop : isStop (Cursor.finish file) = true := by
    rw [isStop_iff, Cursor.left, Cursor.finish, List.reverse_reverse]
    exact ⟨h, rfl⟩
  rw [ofName?, Cursor.last?_of_holds (before_ne_nil_of_isStop hstop) hstop, Option.map_some,
    Cursor.left, Cursor.finish, List.reverse_reverse]

/-- A text of name characters is one name. -/
theorem find?_of_forall_isNameChar {name : List Char} (h : ∀ c ∈ name, isNameChar c = true) :
    find? name = ofName? name := by
  have hsingle : names name = [name] :=
    List.splitOnP_eq_singleton fun c hc => by simp [h c hc]
  rw [find?, hsingle, List.findSome?_singleton]

/-- A text may be gone through name by name. -/
theorem names_induction {motive : List Char → Prop}
    (last : ∀ name, (∀ c ∈ name, isNameChar c = true) → motive name)
    (cut : ∀ name c rest, (∀ d ∈ name, isNameChar d = true) → isNameChar c = false →
      motive rest → motive (name ++ c :: rest)) (text : List Char) : motive text := by
  induction hlength : text.length using Nat.strong_induction_on generalizing text with
  | h n ih =>
    have hname : ∀ c ∈ text.takeWhile isNameChar, isNameChar c = true :=
      fun c hc => List.all_eq_true.1 List.all_takeWhile c hc
    have hsplit := List.takeWhile_append_dropWhile (p := isNameChar) (l := text)
    cases hrest : text.dropWhile isNameChar with
    | nil =>
      rw [hrest, List.append_nil] at hsplit
      exact hsplit ▸ last _ hname
    | cons c rest =>
      rw [hrest] at hsplit
      have hc : isNameChar c = false := by
        have hhead := List.head?_dropWhile_not isNameChar text
        simpa [hrest] using hhead
      have hlt : rest.length < n := by
        rw [← hlength, ← hsplit, List.length_append, List.length_cons]
        omega
      exact hsplit ▸ cut _ c rest hname hc (ih rest.length hlt rest rfl)

end SourceName

/-- A maximal run of name characters in a text. -/
structure NameRun (text : List Char) where
  /-- What stands in front of the run. -/
  front : List Char
  /-- The characters of the run. -/
  name : List Char
  /-- What stands behind the run. -/
  back : List Char
  /-- The run stands in the text. -/
  text_eq : front ++ name ++ back = text
  /-- The run is not empty. -/
  name_ne_nil : name ≠ []
  /-- All its characters are name characters. -/
  isNameChar_name : ∀ c ∈ name, isNameChar c = true
  /-- It does not go on to the left. -/
  isNameChar_front : ∀ c ∈ front.getLast?, isNameChar c = false
  /-- It does not go on to the right. -/
  isNameChar_back : ∀ c ∈ back.head?, isNameChar c = false

namespace NameRun

open SourceName

variable {text : List Char}

/-- A place of a run is a stop: what stands on its left in the run has a source ending, and the text
ends there or goes on with a character that is no word character. -/
structure IsStop (run : NameRun text) (place : Cursor) : Prop where
  /-- The place is one of the run. -/
  text_eq : place.text = run.name
  /-- The run up to the place has a source ending. -/
  hasSourceEnding : HasSourceEnding place.left
  /-- No word character follows in the text. -/
  startsWithWordChar_after : startsWithWordChar (place.after ++ run.back) = false

/-- A run has a stop, and no run in front of it has one. -/
structure IsFirstWithStop (run : NameRun text) : Prop where
  /-- The run has a stop. -/
  exists_isStop : ∃ place, run.IsStop place
  /-- A run with a stop does not begin earlier. -/
  length_front_le : ∀ (other : NameRun text) (place : Cursor), other.IsStop place →
    run.front.length ≤ other.front.length

/-- A place is the last stop of a run. -/
structure IsLastStop (run : NameRun text) (place : Cursor) : Prop where
  /-- The place is a stop. -/
  isStop : run.IsStop place
  /-- No stop lies behind it. -/
  offset_le : ∀ other, run.IsStop other → other.offset ≤ place.offset

/-- What stands behind a run makes no difference to its stops. -/
theorem isStop_iff {run : NameRun text} {place : Cursor} :
    run.IsStop place ↔ place.text = run.name ∧ SourceName.isStop place = true := by
  have hafter : startsWithWordChar (place.after ++ run.back) = startsWithWordChar place.after := by
    cases hafter : place.after with
    | cons => rfl
    | nil =>
      have hback := run.isNameChar_back
      cases hrest : run.back with
      | nil => rfl
      | cons c rest =>
        have hc : isNameChar c = false := hback c (by rw [hrest]; rfl)
        simp only [isNameChar, Bool.or_eq_false_iff] at hc
        simp [startsWithWordChar, hc]
  rw [SourceName.isStop_iff]
  constructor
  · rintro ⟨htext, hending, hword⟩
    exact ⟨htext, hending, hafter ▸ hword⟩
  · rintro ⟨htext, hending, hword⟩
    exact ⟨htext, hending, hafter ▸ hword⟩

/-- A run has a source file up to its last stop. -/
theorem exists_isLastStop {run : NameRun text} {file : List Char}
    (h : ofName? run.name = some file) : ∃ place, run.IsLastStop place ∧ place.left = file := by
  obtain ⟨place, hfile, htext, hstop, hlast⟩ := exists_place_of_ofName? h
  refine ⟨place, ⟨isStop_iff.2 ⟨htext, hstop⟩, fun other hother => ?_⟩, hfile⟩
  obtain ⟨hsame, hholds⟩ := isStop_iff.1 hother
  exact hlast other hsame hholds

/-- A run without a source file has no stop. -/
theorem not_isStop {run : NameRun text} (h : ofName? run.name = none) (place : Cursor) :
    ¬ run.IsStop place := by
  intro hstop
  obtain ⟨htext, hholds⟩ := isStop_iff.1 hstop
  exact not_isStop_of_ofName? h htext hholds

/-! ### The runs of a text -/

/-- The run that a text begins with. -/
def first {name tail : List Char} (h : text = name ++ tail) (hne : name ≠ [])
    (hname : ∀ c ∈ name, isNameChar c = true) (htail : ∀ c ∈ tail.head?, isNameChar c = false) :
    NameRun text where
  front := []
  name := name
  back := tail
  text_eq := h.symm
  name_ne_nil := hne
  isNameChar_name := hname
  isNameChar_front := by simp
  isNameChar_back := htail

/-- A run behind a cut. -/
def behind {c : Char} {rest : List Char} (run : NameRun rest) (name : List Char)
    (hc : isNameChar c = false) : NameRun (name ++ c :: rest) where
  front := name ++ c :: run.front
  name := run.name
  back := run.back
  text_eq := by simp [← run.text_eq]
  name_ne_nil := run.name_ne_nil
  isNameChar_name := run.isNameChar_name
  isNameChar_front := by
    have hfront := run.isNameChar_front
    intro d hd
    cases hrun : run.front.getLast? with
    | none =>
      rw [List.getLast?_eq_none_iff.1 hrun] at hd
      obtain rfl : c = d := by simpa using hd
      exact hc
    | some e =>
      obtain rfl : e = d := by simpa [List.getLast?_append, List.getLast?_cons, hrun] using hd
      exact hfront e hrun
  isNameChar_back := run.isNameChar_back

/-- Where the name characters end at the front of two equal texts, they have the same ones. -/
theorem append_inj_of_isNameChar {name other tail rest : List Char}
    (hname : ∀ c ∈ name, isNameChar c = true) (hother : ∀ c ∈ other, isNameChar c = true)
    (htail : ∀ c ∈ tail.head?, isNameChar c = false)
    (hrest : ∀ c ∈ rest.head?, isNameChar c = false) (h : name ++ tail = other ++ rest) :
    name = other ∧ tail = rest := by
  have hfront {front back : List Char} (hfront : ∀ c ∈ front, isNameChar c = true)
      (hback : ∀ c ∈ back.head?, isNameChar c = false) :
      (front ++ back).takeWhile isNameChar = front := by
    rw [List.takeWhile_append_of_pos hfront]
    cases back with
    | nil => simp
    | cons c back => simp [hback c rfl]
  have heq : name = other := by rw [← hfront hname htail, h, hfront hother hrest]
  subst heq
  exact ⟨rfl, List.append_cancel_left h⟩

/-- A run of a text that begins with all its first name characters consists of these, or lies behind
the character that follows them. -/
theorem cases_of_append (run : NameRun text) {name tail : List Char} (h : text = name ++ tail)
    (hname : ∀ c ∈ name, isNameChar c = true) (htail : ∀ c ∈ tail.head?, isNameChar c = false) :
    (run.front = [] ∧ run.name = name ∧ run.back = tail) ∨
      ∃ c rest, tail = c :: rest ∧ ∃ other : NameRun rest,
        run.front = name ++ c :: other.front ∧ run.name = other.name ∧ run.back = other.back := by
  have heq : run.front ++ (run.name ++ run.back) = name ++ tail := by
    rw [← List.append_assoc, run.text_eq, h]
  rcases List.eq_nil_or_concat' run.front with hnil | ⟨front, d, hfront⟩
  · rw [hnil, List.nil_append] at heq
    exact .inl ⟨hnil,
      append_inj_of_isNameChar run.isNameChar_name hname run.isNameChar_back htail heq⟩
  · -- the character in front of the run is not one of the first name characters
    have hd : d ∉ name := fun hmem => by
      have hlast := run.isNameChar_front d (by simp [hfront])
      rw [hname d hmem] at hlast
      cases hlast
    have hmem : d ∈ run.front := by simp [hfront]
    rcases List.append_eq_append_iff.1 heq with ⟨more, rfl, -⟩ | ⟨more, hmore, htail⟩
    · exact absurd (List.mem_append_left more hmem) hd
    cases more with
    | nil => exact absurd (by simpa [hmore] using hmem) hd
    | cons c more =>
      refine .inr ⟨c, more ++ (run.name ++ run.back), htail, ⟨more, run.name, run.back, by simp,
        run.name_ne_nil, run.isNameChar_name, fun e he => ?_, run.isNameChar_back⟩, hmore, rfl, rfl⟩
      refine run.isNameChar_front e ?_
      rw [Option.mem_def] at he
      simp [hmore, List.getLast?_append, List.getLast?_cons, he]

/-- Two runs that begin at the same place are equal. -/
private theorem eq_of_length_front_eq {run other : NameRun text}
    (h : run.front.length = other.front.length) : run = other := by
  have heq : run.front ++ (run.name ++ run.back) = other.front ++ (other.name ++ other.back) := by
    rw [← List.append_assoc, run.text_eq, ← List.append_assoc, other.text_eq]
  obtain ⟨hfront, hrest⟩ := List.append_inj heq h
  obtain ⟨hname, hback⟩ := append_inj_of_isNameChar run.isNameChar_name other.isNameChar_name
    run.isNameChar_back other.isNameChar_back hrest
  cases run
  cases other
  cases hfront
  cases hname
  cases hback
  rfl

/-- A run has only one last stop. -/
theorem eq_of_isLastStop {run : NameRun text} {place other : Cursor} (h : run.IsLastStop place)
    (hother : run.IsLastStop other) : place = other := by
  have hoffset : place.offset = other.offset :=
    Nat.le_antisymm (hother.offset_le place h.isStop) (h.offset_le other hother.isStop)
  have htext : place.text = other.text := h.isStop.text_eq.trans hother.isStop.text_eq.symm
  have hat := Cursor.at?_offset place
  rw [htext, hoffset, Cursor.at?_offset] at hat
  exact (Option.some.inj hat).symm

/-- Only one run is the first one with a stop. -/
theorem eq_of_isFirstWithStop {run other : NameRun text} (h : run.IsFirstWithStop)
    (hother : other.IsFirstWithStop) : run = other := by
  obtain ⟨place, hplace⟩ := h.exists_isStop
  obtain ⟨place', hplace'⟩ := hother.exists_isStop
  exact eq_of_length_front_eq (Nat.le_antisymm (h.length_front_le other place' hplace')
    (hother.length_front_le run place hplace))

end NameRun

namespace SourceName

variable {text file : List Char}

/-- No run of a text without a source file has one. -/
private theorem ofName?_eq_none_of_find? (h : find? text = none) (run : NameRun text) :
    ofName? run.name = none := by
  induction text using names_induction with
  | last name hname =>
    rw [find?_of_forall_isNameChar hname] at h
    rcases run.cases_of_append (List.append_nil name).symm hname (by simp) with
      ⟨-, heq, -⟩ | ⟨c, rest, hnil, -⟩
    · rw [heq, h]
    · cases hnil
  | cut name c rest hname hc ih =>
    rw [find?_append_cons hc, Option.or_eq_none_iff, find?_of_forall_isNameChar hname] at h
    rcases run.cases_of_append rfl hname (by simpa using hc) with
      ⟨-, heq, -⟩ | ⟨_, _, hcons, other, -, heq, -⟩
    · rw [heq, h.1]
    · cases hcons
      rw [heq, ih h.2 other]

/-- The source file of a text is the one of the first run that has one. -/
private theorem exists_run_of_find? (h : find? text = some file) :
    ∃ run : NameRun text, ofName? run.name = some file ∧ ∀ other : NameRun text,
      other.front.length < run.front.length → ofName? other.name = none := by
  induction text using names_induction with
  | last name hname =>
    rw [find?_of_forall_isNameChar hname] at h
    have hne : name ≠ [] := by
      rintro rfl
      cases h
    exact ⟨NameRun.first (List.append_nil name).symm hne hname (by simp), h,
      fun other hlt => absurd hlt (Nat.not_lt_zero _)⟩
  | cut name c rest hname hc ih =>
    rw [find?_append_cons hc, Option.or_eq_some_iff, find?_of_forall_isNameChar hname] at h
    rcases h with h | ⟨hnone, h⟩
    · have hne : name ≠ [] := by
        rintro rfl
        cases h
      exact ⟨NameRun.first rfl hne hname (by simpa using hc), h,
        fun other hlt => absurd hlt (Nat.not_lt_zero _)⟩
    · obtain ⟨run, hrun, hothers⟩ := ih h
      refine ⟨run.behind name hc, hrun, fun other hlt => ?_⟩
      rcases other.cases_of_append rfl hname (by simpa using hc) with
        ⟨-, heq, -⟩ | ⟨_, _, hcons, further, hfront, heq, -⟩
      · rw [heq, hnone]
      · cases hcons
        rw [heq]
        refine hothers further ?_
        simpa [NameRun.behind, hfront] using hlt

/-- The source file of a text reaches up to the last stop of the first run with one. -/
theorem exists_isLastStop_of_find? (h : find? text = some file) :
    ∃ (run : NameRun text) (place : Cursor),
      run.IsFirstWithStop ∧ run.IsLastStop place ∧ place.left = file := by
  obtain ⟨run, hrun, hothers⟩ := exists_run_of_find? h
  obtain ⟨place, hlast, hfile⟩ := NameRun.exists_isLastStop hrun
  refine ⟨run, place, ⟨⟨place, hlast.isStop⟩, fun other stop hstop => ?_⟩, hlast, hfile⟩
  by_contra hlt
  exact NameRun.not_isStop (hothers other (Nat.lt_of_not_le hlt)) stop hstop

/-- A source file is a name of its own, with a source ending. -/
private theorem spec_of_find? (h : find? text = some file) :
    (∀ c ∈ file, isNameChar c = true) ∧ HasSourceEnding file := by
  obtain ⟨run, place, -, hlast, rfl⟩ := exists_isLastStop_of_find? h
  refine ⟨fun c hc => run.isNameChar_name c ?_, hlast.isStop.hasSourceEnding⟩
  rw [← hlast.isStop.text_eq]
  exact List.mem_append_left place.after hc

/-- **The source file of a text.** A text without a stop in any of its maximal runs of name
characters names no source file. In any other text the source file is what stands between the
beginning of the first run with a stop and the last stop of that run; it is not empty, stands in the
text, has a source ending and is its own source file. -/
theorem find?_iff_lastStop (text : List Char) :
    (find? text = none ↔ ∀ (run : NameRun text) (place : Cursor), ¬ run.IsStop place) ∧
    (∀ file, find? text = some file ↔ ∃ (run : NameRun text) (place : Cursor),
      run.IsFirstWithStop ∧ run.IsLastStop place ∧ place.left = file) ∧
    ∀ file, find? text = some file →
      file ≠ [] ∧ file <:+: text ∧ HasSourceEnding file ∧ find? file = some file := by
  refine ⟨⟨fun h run => ?_, fun h => ?_⟩, fun file => ⟨exists_isLastStop_of_find?, ?_⟩,
    fun file h => ?_⟩
  · exact NameRun.not_isStop (ofName?_eq_none_of_find? h run)
  · rw [Option.eq_none_iff_forall_ne_some]
    intro file hfile
    obtain ⟨run, place, -, hlast, -⟩ := exists_isLastStop_of_find? hfile
    exact h run place hlast.isStop
  · rintro ⟨run, place, hfirst, hlast, rfl⟩
    cases hfind : find? text with
    | none =>
      exact absurd hlast.isStop (NameRun.not_isStop (ofName?_eq_none_of_find? hfind run) place)
    | some file =>
      obtain ⟨other, stop, hfirst', hlast', rfl⟩ := exists_isLastStop_of_find? hfind
      cases NameRun.eq_of_isFirstWithStop hfirst hfirst'
      rw [NameRun.eq_of_isLastStop hlast hlast']
  · obtain ⟨hchars, hending⟩ := spec_of_find? h
    refine ⟨?_, isInfix_of_find? h, hending, ?_⟩
    · obtain ⟨_, -, stem, letters, -, -, rfl⟩ := hending
      simp
    · rw [find?_of_forall_isNameChar hchars, ofName?_of_hasSourceEnding hending]

/-- A name goes on with anything behind its last stop, and later names are not looked at. -/
example : find? "-o .c x.c/y.CPP.o b.c".toList = some "x.c/y.CPP".toList := by decide

end SourceName

end CompileCommands
