import CompileCommands.Text.Blank

/-!
# Blank margins

A text is its trimmed form between two margins of blank characters, and margins make no difference
to the trimmed form. A part of the text without blank characters keeps the margins apart: what
stands in front of it is trimmed at the start only, and what stands behind it at the end only.

## Main results

* `Text.exists_margins`: the margins of a text.
* `Text.trim_append_of_isBlank`, `Text.trim_of_isBlank_append`: trimming leaves margins out.
* `Text.trim_trim`: trimming twice is trimming once.
* `Text.isBlank_head?_trim`, `Text.isBlank_getLast?_trim`: the ends of a trimmed text.
* `Text.trim_append_append`: trimming around a part without blank characters.
-/

namespace CompileCommands.Text

/-- A text begins with a margin. -/
theorem exists_margin_trimStart (text : List Char) :
    ∃ front, (∀ c ∈ front, isBlank c = true) ∧ text = front ++ trimStart text := by
  refine ⟨text.takeWhile isBlank, fun c hc => ?_, List.takeWhile_append_dropWhile.symm⟩
  exact List.all_eq_true.1 List.all_takeWhile c hc

/-- A text ends in a margin. -/
theorem exists_margin_trimEnd (text : List Char) :
    ∃ back, (∀ c ∈ back, isBlank c = true) ∧ text = trimEnd text ++ back := by
  obtain ⟨front, hblank, heq⟩ := exists_margin_trimStart text.reverse
  refine ⟨front.reverse, fun c hc => hblank c (List.mem_reverse.1 hc), ?_⟩
  rw [trimEnd_eq_reverse, ← List.reverse_append, ← heq, List.reverse_reverse]

/-- A text is its trimmed form between two margins. -/
theorem exists_margins (text : List Char) :
    ∃ front back, (∀ c ∈ front, isBlank c = true) ∧ (∀ c ∈ back, isBlank c = true) ∧
      text = front ++ trim text ++ back := by
  obtain ⟨front, hfront, hstart⟩ := exists_margin_trimStart text
  obtain ⟨back, hback, hend⟩ := exists_margin_trimEnd (trimStart text)
  refine ⟨front, back, hfront, hback, ?_⟩
  rw [trim, List.append_assoc, ← hend, ← hstart]

/-- A margin in front makes no difference. -/
theorem trim_of_isBlank_append {front : List Char} (h : ∀ c ∈ front, isBlank c = true)
    (text : List Char) : trim (front ++ text) = trim text := by
  rw [trim, trim, trimStart, List.dropWhile_append_of_pos h]
  rfl

theorem trimEnd_append_of_isBlank {back : List Char} (h : ∀ c ∈ back, isBlank c = true)
    (text : List Char) : trimEnd (text ++ back) = trimEnd text := by
  have hreverse : ∀ c ∈ back.reverse, isBlank c = true := fun c hc => h c (List.mem_reverse.1 hc)
  rw [trimEnd, trimEnd, List.reverse_append, List.dropWhile_append_of_pos hreverse]

/-- A margin behind makes no difference. -/
theorem trim_append_of_isBlank {back : List Char} (h : ∀ c ∈ back, isBlank c = true)
    (text : List Char) : trim (text ++ back) = trim text := by
  rw [trim, trim, trimStart, trimStart, List.dropWhile_append]
  split
  next hempty =>
    rw [List.isEmpty_iff.1 hempty, ← List.append_nil back, List.dropWhile_append_of_pos h]
    rfl
  next => exact trimEnd_append_of_isBlank h _

private theorem trimStart_trimStart (text : List Char) :
    trimStart (trimStart text) = trimStart text := by
  cases h : trimStart text with
  | nil => rfl
  | cons c rest =>
    rw [trimStart, List.dropWhile_cons, isBlank_head_trimStart h]
    rfl

theorem trimEnd_trimEnd (text : List Char) : trimEnd (trimEnd text) = trimEnd text := by
  rw [trimEnd_eq_reverse, trimEnd_eq_reverse, List.reverse_reverse, trimStart_trimStart]

/-- Where a text is trimmed at its start, so is what it begins with. -/
theorem trimStart_eq_self_of_append {front back : List Char}
    (h : trimStart (front ++ back) = front ++ back) : trimStart front = front := by
  cases front with
  | nil => rfl
  | cons c front =>
    rw [trimStart, List.dropWhile_cons, isBlank_head_trimStart h]
    rfl

/-- Where a text is trimmed at its end, so is what it ends with. -/
theorem trimEnd_eq_self_of_append {front back : List Char}
    (h : trimEnd (front ++ back) = front ++ back) : trimEnd back = back := by
  rw [trimEnd_eq_reverse, List.reverse_eq_iff, List.reverse_append] at h
  rw [trimEnd_eq_reverse, trimStart_eq_self_of_append h, List.reverse_reverse]

/-- A trimmed text has no margins. -/
theorem trim_trim (text : List Char) : trim (trim text) = trim text := by
  obtain ⟨front, back, hfront, hback, heq⟩ := exists_margins text
  calc trim (trim text)
      = trim (front ++ trim text ++ back) := by
        rw [trim_append_of_isBlank hback, trim_of_isBlank_append hfront]
    _ = trim text := by rw [← heq]

private theorem trimStart_trim (text : List Char) : trimStart (trim text) = trim text := by
  obtain ⟨back, -, heq⟩ := exists_margin_trimEnd (trimStart text)
  have hstart := trimStart_trimStart text
  rw [heq] at hstart
  exact trimStart_eq_self_of_append hstart

/-- A trimmed text does not begin with a blank character. -/
theorem isBlank_head?_trim {text : List Char} {c : Char} (h : c ∈ (trim text).head?) :
    isBlank c = false := by
  obtain ⟨rest, heq⟩ := List.head?_eq_some_iff.1 h
  exact isBlank_head_trimStart ((trimStart_trim text).trans heq)

/-- A trimmed text does not end in a blank character. -/
theorem isBlank_getLast?_trim {text : List Char} {c : Char} (h : c ∈ (trim text).getLast?) :
    isBlank c = false := by
  rw [trim, trimEnd_eq_reverse, List.getLast?_reverse] at h
  obtain ⟨rest, heq⟩ := List.head?_eq_some_iff.1 h
  exact isBlank_head_trimStart heq

/-- Trimming keeps every copy of a character that is not blank. -/
theorem count_trim {c : Char} (h : isBlank c = false) (text : List Char) :
    (trim text).count c = text.count c := by
  have hmargin {margin : List Char} (hblank : ∀ d ∈ margin, isBlank d = true) :
      margin.count c = 0 := by
    rw [List.count_eq_zero]
    intro hmem
    rw [hblank c hmem] at h
    cases h
  obtain ⟨front, back, hfront, hback, heq⟩ := exists_margins text
  calc (trim text).count c
      = front.count c + (trim text).count c + back.count c := by
        rw [hmargin hfront, hmargin hback, Nat.zero_add, Nat.add_zero]
    _ = text.count c := by rw [← List.count_append, ← List.count_append, ← heq]

/-! ### Around characters that are not blank -/

private theorem trimStart_append_cons {c : Char} (h : isBlank c = false) (front rest : List Char) :
    trimStart (front ++ c :: rest) = trimStart front ++ c :: rest := by
  rw [trimStart, trimStart, List.dropWhile_append]
  split
  next hempty =>
    rw [List.isEmpty_iff.1 hempty, List.dropWhile_cons, h, List.nil_append]
    rfl
  next => rfl

theorem trimEnd_append_cons {c : Char} (h : isBlank c = false) (front back : List Char) :
    trimEnd (front ++ c :: back) = front ++ c :: trimEnd back := by
  have hreverse : (front ++ c :: back).reverse = back.reverse ++ c :: front.reverse := by simp
  rw [trimEnd_eq_reverse, hreverse, trimStart_append_cons h, trimEnd_eq_reverse]
  simp

section Middle

variable {middle : List Char} (hne : middle ≠ []) (h : ∀ c ∈ middle, isBlank c = false)

include hne h

private theorem trimStart_append_append (front back : List Char) :
    trimStart (front ++ middle ++ back) = trimStart front ++ middle ++ back := by
  obtain ⟨first, others, rfl⟩ := List.exists_cons_of_ne_nil hne
  simpa using trimStart_append_cons (h first List.mem_cons_self) front (others ++ back)

theorem trimEnd_append_append (front back : List Char) :
    trimEnd (front ++ middle ++ back) = front ++ middle ++ trimEnd back := by
  obtain ⟨others, last, rfl⟩ := (List.eq_nil_or_concat middle).resolve_left hne
  rw [List.concat_eq_append] at h ⊢
  simpa using trimEnd_append_cons (h last (by simp)) (front ++ others) back

theorem trimEnd_append (back : List Char) : trimEnd (middle ++ back) = middle ++ trimEnd back :=
  trimEnd_append_append hne h [] back

/-- Around a part without blank characters a text is trimmed at each end separately. -/
theorem trim_append_append (front back : List Char) :
    trim (front ++ middle ++ back) = trimStart front ++ middle ++ trimEnd back := by
  rw [trim, trimStart_append_append hne h, trimEnd_append_append hne h]

end Middle

end CompileCommands.Text
