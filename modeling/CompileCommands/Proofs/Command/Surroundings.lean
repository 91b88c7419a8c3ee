import CompileCommands.Proofs.Command.Compiler
import CompileCommands.Proofs.Command.Invocation
import CompileCommands.Proofs.Command.SourceName

/-!
# Compilers in a longer line

A line may be part of a longer one. A compiler that is found in the part is found at the same place
of the longer line, and one that is found in the longer line is found in the part, as long as the
cuts at the two ends of the part make no difference: the cut in front begins no word, or a quote
stands there, the cut behind is made in blank characters, and no compiler stands in front of the
part. The segment around the compiler is the same in both if the longer line has only blank
characters more, or if the part is the segment itself.

So isolating a command twice is isolating it once, and margins of a line make no difference to the
command that is isolated. The one thing that a margin can do is to complete a compiler token, which
needs a blank character behind its name.

## Main definitions

* `Text.Cursor.within`: a place of a text as a place of a longer text.

## Main results

* `Compiler.isAt_within`: compiler tokens in a longer text.
* `Compiler.find?_within`, `Compiler.find?_text_of_within`: the compiler that is found in a longer
  line, and in a part of a line.
* `Segment.segment_of_passed`: a segment from the places at which it does not begin.
* `Compiler.segment_segment`: isolating a command twice.
* `Compiler.margins_only_complete_tokens`: compilers and segments in lines with margins.
-/

namespace CompileCommands

open Text

namespace Text.Cursor

/-- The same place of a text when there is more text in front of it and behind it. -/
def within (place : Cursor) (front back : List Char) : Cursor :=
  ⟨place.before ++ front.reverse, place.after ++ back⟩

variable (place : Cursor) (front back : List Char)

@[simp] theorem text_within : (place.within front back).text = front ++ place.text ++ back := by
  simp [within, Cursor.text]

@[simp] theorem left_within : (place.within front back).left = front ++ place.left := by
  simp [within, left]

@[simp] theorem offset_within :
    (place.within front back).offset = byteLength front + place.offset := by
  simp [within, offset, Nat.add_comm]

end Text.Cursor

/-! ### Word characters at the start of a text -/

private theorem startsWithWordChar_append_of_ne_nil {text : List Char} (h : text ≠ [])
    (rest : List Char) : startsWithWordChar (text ++ rest) = startsWithWordChar text := by
  obtain ⟨c, others, rfl⟩ := List.exists_cons_of_ne_nil h
  rfl

/-- A margin does not start with a word character. -/
theorem startsWithWordChar_of_isBlank {margin : List Char} (h : ∀ c ∈ margin, isBlank c = true) :
    startsWithWordChar margin = false := by
  cases margin with
  | nil => rfl
  | cons c margin => exact isWordChar_of_isBlank (h c List.mem_cons_self)

/-! ### Compiler tokens in a longer text -/

namespace CompilerToken

/-- A token starts with a character that is neither blank nor a quote. -/
theorem of_isSome_at?_cons {c : Char} {rest : List Char} (h : (at? (c :: rest)).isSome = true) :
    isBlank c = false ∧ c ≠ '"' := by
  have hall : ∀ word ∈ compilerWords,
      word.toList.head?.any (fun first => isBlank first = false ∧ first ≠ '"') = true := by decide
  obtain ⟨token, hword, blank, others, -, heq⟩ := isSome_at?_iff.1 h
  obtain ⟨first, hfirst, hplain⟩ := (Option.any_eq_true _ _).1 (hall token.word hword)
  obtain ⟨more, hmore⟩ := List.head?_eq_some_iff.1 hfirst
  rw [text, hmore] at heq
  obtain ⟨rfl, -⟩ := List.cons_eq_cons.1 heq
  exact of_decide_eq_true hplain

/-- What stands behind a blank character makes no difference to the token at the start of a text. -/
theorem isSome_at?_append {text : List Char} (h : ∃ c ∈ text, isBlank c = true)
    (back : List Char) : (at? (text ++ back)).isSome = (at? text).isSome := by
  rw [Bool.eq_iff_iff, isSome_at?_iff, isSome_at?_iff]
  refine exists_congr fun token => and_congr_right fun hword => ⟨?_, ?_⟩
  · rintro ⟨blank, rest, hblank, heq⟩
    have hplain := (plain_text hword).2
    obtain ⟨c, hc, hcblank⟩ := h
    rcases List.append_eq_append_iff.1 heq with ⟨more, htoken, -⟩ | ⟨more, htext, hrest⟩
    · -- the token would hold the blank character
      have hnot := (hplain c (htoken ▸ List.mem_append_left more hc)).1
      rw [hcblank] at hnot
      cases hnot
    · cases more with
      | nil =>
        rw [List.append_nil] at htext
        have hnot := (hplain c (htext ▸ hc)).1
        rw [hcblank] at hnot
        cases hnot
      | cons d more =>
        obtain ⟨rfl, -⟩ := List.cons_eq_cons.1 hrest
        exact ⟨blank, more, hblank, htext⟩
  · rintro ⟨blank, rest, hblank, rfl⟩
    exact ⟨blank, rest ++ back, hblank, by simp⟩

end CompilerToken

namespace Compiler

/-- A place of a longer text is in front of a token exactly if it is so in the text, provided that a
blank character of the text stands behind it and that no word is cut in two at the start of the
text, or nothing that could be a token stands there. -/
theorem isAt_within {place : Cursor} {front : List Char} (back : List Char)
    (hblank : ∃ c ∈ place.after, isBlank c = true)
    (hedge : place.before = [] → startsWithWordChar front.reverse = true →
      (CompilerToken.at? place.after).isSome = false) :
    isAt (place.within front back) = isAt place := by
  rw [isAt, isAt, Cursor.within, CompilerToken.isSome_at?_append hblank]
  by_cases hbefore : place.before = []
  · rw [hbefore, List.nil_append]
    cases hword : startsWithWordChar front.reverse with
    | false => rfl
    | true => rw [hedge hbefore hword, Bool.and_false, Bool.and_false]
  · rw [startsWithWordChar_append_of_ne_nil hbefore]

end Compiler

namespace Segment

/-- The places at which segments begin in a quoted line, and in any other. -/
def begins (quoted : Bool) : Cursor → Bool :=
  if quoted then isOpening else isBehindSeparator

/-- Whether a segment begins at a place does not depend on what stands beyond the two characters
around it. -/
theorem begins_within (quoted : Bool) {before after : List Char} (hbefore : before ≠ [])
    (hafter : after ≠ []) (front back : List Char) :
    begins quoted ⟨before ++ front, after ++ back⟩ = begins quoted ⟨before, after⟩ := by
  obtain ⟨c, before, rfl⟩ := List.exists_cons_of_ne_nil hbefore
  obtain ⟨d, after, rfl⟩ := List.exists_cons_of_ne_nil hafter
  cases quoted <;> rfl

/-- Blank characters behind a line make no difference to whether it is quoted. -/
theorem isQuoted_within (place : Cursor) (front : List Char) {back : List Char}
    (h : ∀ c ∈ back, isBlank c = true) : isQuoted (place.within front back) = isQuoted place := by
  rw [isQuoted, isQuoted, Cursor.within, trimEnd_append_of_isBlank h]

/-- A segment begins with its line, or at a place at which one begins. -/
theorem before_begin_eq_nil_or (place : Cursor) :
    (begin place).before = [] ∨ begins (isQuoted place) (begin place) = true := by
  cases h : place.last? (begins (isQuoted place)) with
  | none =>
    have hbegin : begin place = Cursor.start place.text := by rw [begin, ← begins, h]; rfl
    exact .inl (congrArg Cursor.before hbegin)
  | some found =>
    have hbegin : begin place = found := by rw [begin, ← begins, h]; rfl
    exact .inr (hbegin ▸ Cursor.holds_of_last? h)

/-- From the last place up to a given one at which a condition holds, the rest of a line is the same
as from the given place, up to margins, if the condition holds there or only blank characters stand
in front. -/
private theorem trim_after_last? {p : Cursor → Bool} {far rest : List Char}
    (h : (∀ c ∈ far, isBlank c = true) ∨ p ⟨far, rest⟩ = true) :
    trim ((Cursor.last? p ⟨far, rest⟩).getD (Cursor.start (far.reverse ++ rest))).after =
      trim rest := by
  by_cases hholds : far ≠ [] ∧ p ⟨far, rest⟩ = true
  · rw [Cursor.last?_of_holds hholds.1 hholds.2, Option.getD_some]
  have hblank : ∀ c ∈ far, isBlank c = true := by
    rcases h with hblank | hp
    · exact hblank
    · have hnil : far = [] := not_not.1 fun hne => hholds ⟨hne, hp⟩
      simp [hnil]
  cases hfound : Cursor.last? p ⟨far, rest⟩ with
  | none => exact trim_of_isBlank_append (fun c hc => hblank c (List.mem_reverse.1 hc)) rest
  | some found =>
    obtain ⟨margin, hmargin, hafter, -⟩ := Cursor.exists_between_of_recede? hfound
    replace hmargin : far = margin ++ found.before := hmargin
    rw [Option.getD_some, hafter]
    refine trim_of_isBlank_append (fun c hc => hblank c ?_) rest
    exact hmargin ▸ List.mem_append_left _ (List.mem_reverse.1 hc)

/-- A segment does not begin where it does not, so it begins in front of that. If it begins there at
once, or if only blank characters stand in front, it is the trimmed rest of the line. -/
theorem segment_of_passed {place : Cursor} {between far : List Char}
    (hbefore : place.before = between ++ far)
    (hpassed : ∀ near c more, between = near ++ c :: more →
      begins (isQuoted place) ⟨c :: more ++ far, near.reverse ++ place.after⟩ = false)
    (hfar : (∀ c ∈ far, isBlank c = true) ∨
      begins (isQuoted place) ⟨far, between.reverse ++ place.after⟩ = true) :
    segment place = trim (between.reverse ++ place.after) := by
  have hlast : place.last? (begins (isQuoted place)) =
      Cursor.last? (begins (isQuoted place)) ⟨far, between.reverse ++ place.after⟩ := by
    rw [Cursor.last?, hbefore, Cursor.recede?_of_passed hpassed, Cursor.last?]
  have htext : place.text = far.reverse ++ (between.reverse ++ place.after) := by
    rw [Cursor.text, hbefore, List.reverse_append, List.append_assoc]
  rw [segment, begin, ← begins, hlast, htext]
  exact trim_after_last? hfar

/-- Blank characters more at the two ends of a line make no difference to its segments. -/
theorem segment_within {place : Cursor} (hne : place.after ≠ []) {front back : List Char}
    (hfront : ∀ c ∈ front, isBlank c = true) (hback : ∀ c ∈ back, isBlank c = true) :
    segment (place.within front back) = segment place := by
  obtain ⟨between, hbefore, hafter, hpassed⟩ := exists_between place
  have hquoted := isQuoted_within place front hback
  have hbefore' : (place.within front back).before =
      between ++ ((begin place).before ++ front.reverse) := by
    rw [Cursor.within, hbefore, List.append_assoc]
  have hafter' : (place.within front back).after = place.after ++ back := rfl
  have hpassed' : ∀ near c more, between = near ++ c :: more →
      begins (isQuoted (place.within front back))
        ⟨c :: more ++ ((begin place).before ++ front.reverse),
          near.reverse ++ (place.within front back).after⟩ = false := by
    intro near c more heq
    rw [hquoted, hafter', ← List.append_assoc, ← List.append_assoc,
      begins_within _ (List.append_ne_nil_of_left_ne_nil (List.cons_ne_nil c more) _)
        (List.append_ne_nil_of_right_ne_nil _ hne)]
    exact hpassed near c more heq
  have hfar : (∀ c ∈ (begin place).before ++ front.reverse, isBlank c = true) ∨
      begins (isQuoted (place.within front back)) ⟨(begin place).before ++ front.reverse,
        between.reverse ++ (place.within front back).after⟩ = true := by
    by_cases hnil : (begin place).before = []
    · left
      intro c hc
      rw [hnil, List.nil_append, List.mem_reverse] at hc
      exact hfront c hc
    · right
      rw [hquoted, hafter', ← List.append_assoc,
        begins_within _ hnil (List.append_ne_nil_of_right_ne_nil _ hne), ← hafter]
      exact (before_begin_eq_nil_or place).resolve_left hnil
  calc segment (place.within front back)
      = trim (between.reverse ++ (place.within front back).after) :=
        segment_of_passed hbefore' hpassed' hfar
    _ = trim ((begin place).after ++ back) := by rw [hafter, List.append_assoc, hafter']
    _ = segment place := trim_append_of_isBlank hback _

/-- In a part of a line that begins where the segment around a place begins, or behind that, the
segment around the place is the whole part. -/
theorem segment_of_within {place found : Cursor} {margin : List Char}
    (hwithin : place = found.within ((begin place).left ++ margin) []) (hne : found.after ≠ []) :
    segment found = trim found.text := by
  obtain ⟨between, hbefore, -, hpassed⟩ := exists_between place
  have hafter : place.after = found.after := by
    rw [congrArg Cursor.after hwithin, Cursor.within, List.append_nil]
  have hquoted : isQuoted place = isQuoted found := by rw [isQuoted, isQuoted, hafter]
  have hbetween : between = found.before ++ margin.reverse := by
    have hfound := congrArg Cursor.before hwithin
    rw [hbefore, Cursor.within, Cursor.left, List.reverse_append, List.reverse_reverse,
      ← List.append_assoc, List.append_cancel_right_eq] at hfound
    exact hfound
  refine segment_of_passed (List.append_nil _).symm (fun near c more heq => ?_) (.inl (by simp))
  have hfails := hpassed near c (more ++ margin.reverse) (by simp [hbetween, heq])
  rw [← begins, hquoted, hafter, ← List.cons_append, List.append_assoc,
    ← List.append_nil (near.reverse ++ found.after),
    begins_within _ (List.cons_ne_nil c more) (List.append_ne_nil_of_right_ne_nil _ hne)] at hfails
  rwa [List.append_nil]

private theorem isWordChar_of_isSeparator {c : Char} (h : isSeparator c = true) :
    isWordChar c = false := by
  simp only [isSeparator, Bool.or_eq_true, beq_iff_eq] at h
  rcases h with (((rfl | rfl) | rfl) | rfl) | rfl <;> decide

/-- If a word ends in front of a segment, a quote begins the segment. So no compiler token does. -/
private theorem isSome_at?_eq_false_of_begin {place : Cursor} {margin rest : List Char}
    (hmargin : ∀ c ∈ margin, isBlank c = true) (hafter : (begin place).after = margin ++ rest)
    (hword : startsWithWordChar (margin.reverse ++ (begin place).before) = true) :
    (CompilerToken.at? rest).isSome = false := by
  have hblank : ∀ c ∈ margin.reverse, isBlank c = true :=
    fun c hc => hmargin c (List.mem_reverse.1 hc)
  have hnil : margin = [] := by
    by_contra hne
    rw [startsWithWordChar_append_of_ne_nil (List.reverse_ne_nil_iff.2 hne),
      startsWithWordChar_of_isBlank hblank] at hword
    cases hword
  subst hnil
  rw [List.nil_append] at hafter
  rw [List.reverse_nil, List.nil_append] at hword
  rcases before_begin_eq_nil_or place with hnil | hbegins
  · rw [hnil] at hword
    cases hword
  rw [Bool.eq_false_iff]
  intro htoken
  cases hquoted : isQuoted place with
  | true =>
    have hopening : isOpening (begin place) = true := by rwa [hquoted] at hbegins
    rw [isOpening, Bool.and_eq_true, beq_iff_eq, List.head?_eq_some_iff] at hopening
    obtain ⟨⟨others, hquote⟩, -⟩ := hopening
    rw [← hafter, hquote] at htoken
    exact (CompilerToken.of_isSome_at?_cons htoken).2 rfl
  | false =>
    have hbehind : isBehindSeparator (begin place) = true := by rwa [hquoted] at hbegins
    obtain ⟨c, hhead, hc⟩ := (Option.any_eq_true _ _).1 hbehind
    rw [startsWithWordChar, hhead, Option.any_some, isWordChar_of_isSeparator hc] at hword
    cases hword

end Segment

namespace Invocation

/-- In a trimmed line the segment around a compiler is a part of the line, behind a margin at the
place where the segment begins. -/
theorem exists_within_segment {line : List Char} (invocation : Invocation line)
    (htrim : trim line = line) :
    ∃ (found : Cursor) (margin : List Char), (∀ c ∈ margin, isBlank c = true) ∧
      found.text = segment invocation.place ∧
      (Segment.begin invocation.place).after = margin ++ found.text ∧
      invocation.place = found.within ((Segment.begin invocation.place).left ++ margin) [] := by
  obtain ⟨margin, hmargin, hahead⟩ := exists_margin_trimStart invocation.ahead
  have hend : trimEnd invocation.place.after = invocation.place.after := by
    have hline : trimEnd line = line := by rw [← htrim, trim, trimEnd_trimEnd]
    rw [← Cursor.text_of_first? invocation.find?_eq] at hline
    exact trimEnd_eq_self_of_append hline
  have hsegment := invocation.segment_eq_append
  rw [hend] at hsegment
  have htext : (Cursor.mk (trimStart invocation.ahead).reverse invocation.place.after).text =
      segment invocation.place := by
    rw [hsegment, Cursor.text, List.reverse_reverse]
  have hbefore : invocation.place.before = (trimStart invocation.ahead).reverse ++
      ((Segment.begin invocation.place).left ++ margin).reverse := by
    rw [← List.reverse_append, List.append_assoc, ← hahead, invocation.left_begin_append_ahead,
      Cursor.left, List.reverse_reverse]
  refine ⟨_, margin, hmargin, htext, ?_, ?_⟩
  · rw [htext, hsegment, ← List.append_assoc, ← hahead, invocation.after_begin]
  · rw [Cursor.within, ← hbefore, List.append_nil]

end Invocation

namespace Compiler

/-- A blank character is not the first one of a token. -/
private theorem isAt_cons_eq_false {c : Char} (h : isBlank c = true) (before after : List Char) :
    isAt ⟨before, c :: after⟩ = false := by
  rw [isAt, Bool.and_eq_false_iff, ← Bool.not_eq_true (Option.isSome _)]
  right
  intro htoken
  exact absurd h (Bool.eq_false_iff.1 (CompilerToken.of_isSome_at?_cons htoken).1)

/-- A blank character stands behind a place in front of a token. -/
theorem exists_isBlank_of_isAt {place : Cursor} (h : isAt place = true) :
    ∃ c ∈ place.after, isBlank c = true := by
  rw [isAt, Bool.and_eq_true, CompilerToken.isSome_at?_iff] at h
  obtain ⟨-, token, -, blank, rest, hblank, hafter⟩ := h
  exact ⟨blank, by simp [hafter], hblank⟩

/-- Blank characters more in front of a text make no difference to the tokens in it. -/
theorem isAt_within_of_isBlank {place : Cursor} {front : List Char}
    (hfront : ∀ c ∈ front, isBlank c = true) (back : List Char)
    (hblank : ∃ c ∈ place.after, isBlank c = true) :
    isAt (place.within front back) = isAt place := by
  refine isAt_within back hblank fun _ hword => ?_
  rw [startsWithWordChar_of_isBlank fun c hc => hfront c (List.mem_reverse.1 hc)] at hword
  cases hword

/-- A compiler that is found in a line is found in a longer line that begins with blank characters
more. -/
theorem find?_within {line front : List Char} {place : Cursor} (h : find? line = some place)
    (hfront : ∀ c ∈ front, isBlank c = true) (back : List Char) :
    find? (front ++ line ++ back) = some (place.within front back) := by
  obtain ⟨rfl, hne, hat, hpassed⟩ := Cursor.first?_eq_some_iff.1 h
  have hblank := exists_isBlank_of_isAt hat
  refine Cursor.first?_eq_some_iff.2 ⟨Cursor.text_within .., by simp [Cursor.within, hne],
    (isAt_within_of_isBlank hfront back hblank).trans hat, fun near c far heq => ?_⟩
  -- a place that is passed lies in the margin or in the line
  have hline : ∀ more, near = front ++ more → place.left = more ++ c :: far →
      isAt ⟨near.reverse, c :: far ++ (place.within front back).after⟩ = false := by
    rintro more rfl hleft
    have hmore : isAt ((Cursor.mk more.reverse (c :: far ++ place.after)).within front back) =
        isAt ⟨more.reverse, c :: far ++ place.after⟩ :=
      isAt_within_of_isBlank hfront back
        (hblank.imp fun d hd => ⟨List.mem_append_right _ hd.1, hd.2⟩)
    rw [hpassed more c far hleft] at hmore
    simpa [Cursor.within] using hmore
  rw [Cursor.left_within] at heq
  rcases List.append_eq_append_iff.1 heq with ⟨more, hnear, hleft⟩ | ⟨more, hfrontEq, hrest⟩
  · exact hline more hnear hleft
  · cases more with
    | nil => exact hline [] (by simpa using hfrontEq.symm) hrest.symm
    | cons d more =>
      obtain ⟨rfl, -⟩ := List.cons_eq_cons.1 hrest
      exact isAt_cons_eq_false (hfront c (by simp [hfrontEq])) _ _

/-- A compiler that is found in a longer line is found in the part in which it stands, if no word is
cut in two in front of the part or no token begins the part. -/
theorem find?_text_of_within {line front back : List Char} {place : Cursor}
    (h : find? line = some (place.within front back))
    (hblank : ∃ c ∈ place.after, isBlank c = true)
    (hedge : startsWithWordChar front.reverse = true →
      (CompilerToken.at? place.text).isSome = false) :
    find? place.text = some place := by
  obtain ⟨-, -, hat, hpassed⟩ := Cursor.first?_eq_some_iff.1 h
  have hisAt : ∀ other : Cursor, other.text = place.text →
      (∃ c ∈ other.after, isBlank c = true) →
      isAt (other.within front back) = isAt other := fun other htext hblank =>
    isAt_within back hblank fun hnil hword => by
      have hafter : other.after = place.text := by rw [← htext, Cursor.text, hnil]; rfl
      rw [hafter, hedge hword]
  refine Cursor.first?_eq_some_iff.2 ⟨rfl, ?_, (hisAt place rfl hblank).symm.trans hat,
    fun near c far heq => ?_⟩
  · obtain ⟨c, hc, -⟩ := hblank
    exact List.ne_nil_of_mem hc
  · have htext : (Cursor.mk near.reverse (c :: far ++ place.after)).text = place.text := by
      have hsplit : place.text = place.left ++ place.after := rfl
      rw [hsplit, heq, Cursor.text]
      simp
    rw [← hisAt _ htext (hblank.imp fun d hd => ⟨List.mem_append_right _ hd.1, hd.2⟩)]
    have hfails := hpassed (front ++ near) c far (by simp [heq])
    simpa [Cursor.within] using hfails

/-- **A segment is a fixed point of isolating the command around its compiler.** In the segment
around the compiler of a trimmed line the same compiler is found, with the same text behind it, and
the segment around it there is the whole segment. -/
theorem segment_segment {line : List Char} {place : Cursor} (htrim : trim line = line)
    (h : find? line = some place) :
    ∃ found, find? (segment place) = some found ∧ found.after = place.after ∧
      segment found = segment place := by
  obtain ⟨invocation, rfl⟩ := Invocation.exists_of_find? h
  obtain ⟨found, margin, hmargin, htext, hbegin, hwithin⟩ := invocation.exists_within_segment htrim
  have hafter : found.after = invocation.place.after := by
    rw [congrArg Cursor.after hwithin, Cursor.within, List.append_nil]
  have hblank : ∃ c ∈ found.after, isBlank c = true :=
    hafter ▸ exists_isBlank_of_isAt (Cursor.holds_of_first? h)
  have hne : found.after ≠ [] := hafter ▸ Cursor.after_ne_nil_of_first? h
  refine ⟨found, ?_, hafter, ?_⟩
  · rw [← htext]
    refine find?_text_of_within (hwithin ▸ h) hblank fun hword => ?_
    refine Segment.isSome_at?_eq_false_of_begin hmargin hbegin ?_
    simpa [Cursor.left] using hword
  · calc segment found = trim found.text := Segment.segment_of_within hwithin hne
      _ = segment invocation.place := by rw [htext, segment, trim_trim]

/-- In a quoted line with an escaped quote, and behind a separator with a no-break space. -/
theorem segment_segment_of_two_lines :
    (trim "sh -c \"é \\\"gcc -c a.c\"".toList = "sh -c \"é \\\"gcc -c a.c\"".toList ∧
      find? "sh -c \"é \\\"gcc -c a.c\"".toList =
        some ⟨"\"\\ é\" c- hs".toList, "gcc -c a.c\"".toList⟩ ∧
      ∃ found, find? (segment ⟨"\"\\ é\" c- hs".toList, "gcc -c a.c\"".toList⟩) = some found ∧
        found.after = "gcc -c a.c\"".toList ∧
        segment found = segment ⟨"\"\\ é\" c- hs".toList, "gcc -c a.c\"".toList⟩) ∧
    (trim "cd x;\u00a0gcc -c é.c".toList = "cd x;\u00a0gcc -c é.c".toList ∧
      find? "cd x;\u00a0gcc -c é.c".toList = some ⟨"\u00a0;x dc".toList, "gcc -c é.c".toList⟩ ∧
      ∃ found, find? (segment ⟨"\u00a0;x dc".toList, "gcc -c é.c".toList⟩) = some found ∧
        found.after = "gcc -c é.c".toList ∧
        segment found = segment ⟨"\u00a0;x dc".toList, "gcc -c é.c".toList⟩) := by
  have hquoted : find? "sh -c \"é \\\"gcc -c a.c\"".toList =
      some ⟨"\"\\ é\" c- hs".toList, "gcc -c a.c\"".toList⟩ := by decide +kernel
  have hblank : find? "cd x;\u00a0gcc -c é.c".toList =
      some ⟨"\u00a0;x dc".toList, "gcc -c é.c".toList⟩ := by decide +kernel
  exact ⟨⟨by decide, hquoted, segment_segment (by decide) hquoted⟩,
    ⟨by decide, hblank, segment_segment (by decide) hblank⟩⟩

/-- A compiler of the trimmed line is found in the line, at the same place and in the same
segment. -/
private theorem find?_of_find?_trim {line : List Char} {place : Cursor}
    (h : find? (trim line) = some place) :
    ∃ found, find? line = some found ∧
      found.offset = byteLength (line.takeWhile isBlank) + place.offset ∧
      segment found = segment place := by
  obtain ⟨back, hback, hend⟩ := exists_margin_trimEnd (trimStart line)
  have hfront : ∀ c ∈ line.takeWhile isBlank, isBlank c = true :=
    List.all_eq_true.1 List.all_takeWhile
  have hline : line = line.takeWhile isBlank ++ trim line ++ back := by
    rw [trim, List.append_assoc, ← hend, trimStart, List.takeWhile_append_dropWhile]
  refine ⟨place.within (line.takeWhile isBlank) back, ?_, Cursor.offset_within .., ?_⟩
  · have hfind := find?_within h hfront back
    rwa [← hline] at hfind
  · exact Segment.segment_within (Cursor.after_ne_nil_of_first? h) hfront hback

/-- A compiler that is not found in the trimmed line ends where the margin at the end begins. -/
private theorem left_append_text_of_find?_trim_eq_none {line : List Char} {place : Cursor}
    (hnone : find? (trim line) = none) (h : find? line = some place) :
    ∃ token, CompilerToken.at? place.after = some token ∧
      place.left ++ token.text = trimEnd line := by
  have hat := Cursor.holds_of_first? h
  obtain ⟨token, htoken⟩ := Option.isSome_iff_exists.1 (Bool.and_eq_true_iff.1 hat).2
  obtain ⟨hword, blank, rest, hblank, hafter⟩ := CompilerToken.of_at? htoken
  obtain ⟨hne, hplain⟩ := CompilerToken.plain_text hword
  replace hplain : ∀ c ∈ token.text, isBlank c = false := fun c hc => (hplain c hc).1
  have hline : line = place.left ++ token.text ++ blank :: rest := by
    rw [← Cursor.text_of_first? h, List.append_assoc, ← hafter]
    rfl
  refine ⟨token, htoken, ?_⟩
  rw [hline, trimEnd_append_append hne hplain]
  cases hend : trimEnd (blank :: rest) with
  | nil => rw [List.append_nil]
  | cons c more =>
    -- the blank character behind the token stands in the trimmed line too
    obtain ⟨front, hfront, hleft⟩ := exists_margin_trimStart place.left
    obtain ⟨back, -, hrest⟩ := exists_margin_trimEnd (blank :: rest)
    rw [hend] at hrest
    obtain ⟨rfl, -⟩ := List.cons_eq_cons.1 hrest
    have hbefore : place.before = (trimStart place.left).reverse ++ front.reverse := by
      rw [← List.reverse_append, ← hleft, Cursor.left, List.reverse_reverse]
    have hwithin : place = (Cursor.mk (trimStart place.left).reverse
        (token.text ++ blank :: more)).within front back := by
      rw [Cursor.within, ← hbefore, List.append_assoc, ← hrest, ← hafter]
    have htext : (Cursor.mk (trimStart place.left).reverse (token.text ++ blank :: more)).text =
        trim line := by
      rw [hline, trim_append_append hne hplain, hend, Cursor.text, List.reverse_reverse,
        List.append_assoc]
    have hfails := Cursor.not_of_first?_eq_none hnone htext (by simp)
    rw [← isAt_within_of_isBlank hfront back ⟨blank, by simp, hblank⟩, ← hwithin, hat] at hfails
    cases hfails

/-- **Margins make no difference to the command of a line, but may complete a compiler token.** A
compiler of the trimmed line is found at the same place of the line, and the segment around it, the
source file and the command are the same. A compiler of the line that the trimmed line lacks ends
where the margin behind the line begins. Whatever is found, the source file and the command of a
text do not depend on its margins. -/
theorem margins_only_complete_tokens (line : List Char) :
    (∀ place, find? (trim line) = some place → ∃ found, find? line = some found ∧
      found.offset = byteLength (line.takeWhile isBlank) + place.offset ∧
      segment found = segment place ∧
      SourceName.find? (segment found) = SourceName.find? (segment place) ∧
      unchain (segment found) = unchain (segment place)) ∧
    (∀ place, find? (trim line) = none → find? line = some place →
      ∃ token, CompilerToken.at? place.after = some token ∧
        place.left ++ token.text = trimEnd line) ∧
    SourceName.find? (trim line) = SourceName.find? line ∧ unchain (trim line) = unchain line := by
  refine ⟨fun place h => ?_, fun place => left_append_text_of_find?_trim_eq_none,
    SourceName.find?_trim line, Chaining.unchain_trim line⟩
  obtain ⟨found, hfound, hoffset, hsegment⟩ := find?_of_find?_trim h
  exact ⟨found, hfound, hoffset, hsegment, by rw [hsegment], by rw [hsegment]⟩

/-- Margins around a command behind a separator, and a margin that completes a token. -/
theorem margins_complete_quoted_token :
    (find? (trim "\t\u00a0cd x;gcc -c a.c\n".toList) =
        some ⟨";x dc".toList, "gcc -c a.c".toList⟩ ∧
      ∃ found, find? "\t\u00a0cd x;gcc -c a.c\n".toList = some found ∧
        found.offset = byteLength ("\t\u00a0cd x;gcc -c a.c\n".toList.takeWhile isBlank) + 5 ∧
        segment found = segment ⟨";x dc".toList, "gcc -c a.c".toList⟩ ∧
        SourceName.find? (segment found) =
          SourceName.find? (segment ⟨";x dc".toList, "gcc -c a.c".toList⟩) ∧
        unchain (segment found) = unchain (segment ⟨";x dc".toList, "gcc -c a.c".toList⟩)) ∧
    (find? (trim " \"bin/gcc.exe\"\u3000\n".toList) = none ∧
      find? " \"bin/gcc.exe\"\u3000\n".toList =
        some ⟨"/nib\" ".toList, "gcc.exe\"\u3000\n".toList⟩ ∧
      ∃ token, CompilerToken.at? "gcc.exe\"\u3000\n".toList = some token ∧
        " \"bin/".toList ++ token.text = trimEnd " \"bin/gcc.exe\"\u3000\n".toList) := by
  have hkept : find? (trim "\t\u00a0cd x;gcc -c a.c\n".toList) =
      some ⟨";x dc".toList, "gcc -c a.c".toList⟩ := by decide +kernel
  have hnone : find? (trim " \"bin/gcc.exe\"\u3000\n".toList) = none := by decide +kernel
  have hcompleted : find? " \"bin/gcc.exe\"\u3000\n".toList =
      some ⟨"/nib\" ".toList, "gcc.exe\"\u3000\n".toList⟩ := by decide +kernel
  exact ⟨⟨hkept, (margins_only_complete_tokens _).1 _ hkept⟩,
    ⟨hnone, hcompleted, (margins_only_complete_tokens _).2.1 _ hnone hcompleted⟩⟩

end Compiler

end CompileCommands
