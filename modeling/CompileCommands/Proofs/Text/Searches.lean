import CompileCommands.Text.Cursor
import Mathlib.Order.Bounds.Basic

/-!
# Where searches end

A search ends at the nearest place that satisfies its condition: no place that it has passed does.
If it finds none, no place on its way satisfies the condition. So of all places of a text that
satisfy a condition the first one has the least byte offset, and the last one the greatest.

## Main results

* `Cursor.exists_between_of_offset_le`: what stands between two places of a text.
* `Cursor.exists_between_of_recede?`: what stands between a place and the one found to its left.
* `Cursor.not_of_recede?_eq_none`: the places to the left when none is found.
* `Cursor.exists_between_of_seek?`, `Cursor.not_of_seek?_eq_none`: the same to the right.
* `Cursor.first?_eq_some_iff`: where a search to the right ends.
* `Cursor.offset_le_of_first?`, `Cursor.le_offset_of_last?`: the first place of a text has the
  least offset, the last one the greatest.
* `Cursor.isGreatest_last?`, `Cursor.isLeast_seek?`: the same for the last place up to a given one
  and the first place from it on.
-/

namespace CompileCommands.Text

/-- Only the empty text has no bytes. -/
theorem byteLength_eq_zero_iff {text : List Char} : byteLength text = 0 ↔ text = [] := by
  cases text with
  | nil => simp
  | cons c text =>
    have hpos : 0 < c.utf8Size := c.utf8Size_pos
    refine iff_of_false ?_ (List.cons_ne_nil c text)
    rw [byteLength_cons]
    omega

namespace Cursor

variable {p : Cursor → Bool}

/-! ### Places of one text -/

/-- Of two places of a text the one with the greater offset is farther to the right. -/
theorem exists_between_of_offset_le {place start : Cursor} (htext : place.text = start.text)
    (hle : place.offset ≤ start.offset) :
    ∃ between, start.before = between ++ place.before ∧
      place.after = between.reverse ++ start.after := by
  rw [Cursor.text, Cursor.text, List.append_eq_append_iff] at htext
  rcases htext with ⟨between, hbefore, hafter⟩ | ⟨between, hbefore, hafter⟩
  · refine ⟨between.reverse, ?_, by rwa [List.reverse_reverse]⟩
    simpa using congrArg List.reverse hbefore
  · -- the two places are the same
    have hoffset := congrArg byteLength hbefore
    rw [byteLength_append, byteLength_reverse, byteLength_reverse] at hoffset
    have hnil : between = [] := by
      rw [← byteLength_eq_zero_iff]
      unfold offset at hle
      omega
    subst hnil
    rw [List.append_nil, List.reverse_inj] at hbefore
    exact ⟨[], hbefore.symm, hafter.symm⟩

/-- A place of a text is determined by its offset. -/
theorem eq_of_offset_eq {place other : Cursor} (htext : place.text = other.text)
    (hoffset : place.offset = other.offset) : place = other := by
  rw [← Option.some_inj, ← at?_offset, ← at?_offset, htext, hoffset]

/-! ### Searches to the left -/

/-- A search to the left passes over the places at which the condition fails. -/
theorem exists_between_of_recede? {before after : List Char} {found : Cursor}
    (h : recede? p before after = some found) :
    ∃ between, before = between ++ found.before ∧ found.after = between.reverse ++ after ∧
      ∀ near c far, between = near ++ c :: far →
        p ⟨c :: far ++ found.before, near.reverse ++ after⟩ = false := by
  induction before generalizing after with
  | nil => cases h
  | cons c before ih =>
    rw [recede?] at h
    split at h
    case isTrue =>
      cases h
      exact ⟨[], rfl, rfl, fun near d far hnil => by simp at hnil⟩
    case isFalse hc =>
      obtain ⟨between, hbefore, hafter, hpassed⟩ := ih h
      refine ⟨c :: between, congrArg (c :: ·) hbefore, by simp [hafter], fun near d far heq => ?_⟩
      cases near with
      | nil =>
        obtain ⟨rfl, rfl⟩ := List.cons_eq_cons.1 heq
        rw [List.cons_append, ← hbefore]
        exact Bool.eq_false_iff.2 hc
      | cons e near =>
        obtain ⟨rfl, rfl⟩ := List.cons_eq_cons.1 heq
        simpa using hpassed near d far rfl

/-- A search to the left that finds nothing has passed over all places. -/
theorem not_of_recede?_eq_none {before after : List Char} (h : recede? p before after = none) :
    ∀ near c far, before = near ++ c :: far →
      p ⟨c :: far, near.reverse ++ after⟩ = false := by
  induction before generalizing after with
  | nil => simp
  | cons c before ih =>
    rw [recede?] at h
    split at h
    case isTrue => cases h
    case isFalse hc =>
      intro near d far heq
      cases near with
      | nil =>
        obtain ⟨rfl, rfl⟩ := List.cons_eq_cons.1 heq
        exact Bool.eq_false_iff.2 hc
      | cons e near =>
        obtain ⟨rfl, rfl⟩ := List.cons_eq_cons.1 heq
        simpa using ih h near d far rfl

/-- A search to the left goes on in front of what it has passed. -/
theorem recede?_of_passed {between before after : List Char}
    (hpassed : ∀ near c far, between = near ++ c :: far →
      p ⟨c :: far ++ before, near.reverse ++ after⟩ = false) :
    recede? p (between ++ before) after = recede? p before (between.reverse ++ after) := by
  induction between generalizing after with
  | nil => rfl
  | cons c between ih =>
    have hc : p ⟨c :: (between ++ before), after⟩ = false := hpassed [] c between rfl
    rw [List.cons_append, recede?, hc, if_neg Bool.false_ne_true, ih fun near d far heq => ?_]
    · simp
    · simpa using hpassed (c :: near) d far (congrArg (c :: ·) heq)

/-- A search to the left ends where it begins, if the condition holds there. -/
theorem last?_of_holds {place : Cursor} (hne : place.before ≠ []) (hp : p place = true) :
    last? p place = some place := by
  obtain ⟨before, after⟩ := place
  obtain ⟨c, far, rfl⟩ := List.exists_cons_of_ne_nil hne
  exact if_pos hp

section Last

variable {text : List Char} {start found place : Cursor}

/-- The last place up to a given one is not behind it. -/
theorem offset_le_of_last? (h : last? p start = some found) : found.offset ≤ start.offset := by
  obtain ⟨between, hbefore, -, -⟩ := exists_between_of_recede? h
  rw [offset, offset, hbefore, byteLength_append]
  exact Nat.le_add_left _ _

/-- The last place up to a given one has the greatest offset of all up to there that satisfy the
condition. -/
theorem le_offset_of_last?_of_le (h : last? p start = some found)
    (htext : place.text = start.text) (hle : place.offset ≤ start.offset) (hp : p place = true) :
    place.offset ≤ found.offset := by
  obtain ⟨passed, hstart, hplace⟩ := exists_between_of_offset_le htext hle
  obtain ⟨between, hbefore, -, hpassed⟩ := exists_between_of_recede? h
  rcases List.append_eq_append_iff.1 (hstart.symm.trans hbefore) with
    ⟨far, rfl, hrest⟩ | ⟨behind, -, hfound⟩
  · -- the place is one that the search has passed, or the one that it has found
    cases far with
    | nil => simp [offset, hrest]
    | cons c far =>
      have hfails := hpassed passed c far rfl
      rw [← hrest, ← hplace, hp] at hfails
      cases hfails
  · rw [offset, offset, hfound, byteLength_append]
    exact Nat.le_add_left _ _

/-- If no last place is found, only the place in front of the text may satisfy the condition. -/
theorem before_eq_nil_of_last?_eq_none (h : last? p start = none) (htext : place.text = start.text)
    (hle : place.offset ≤ start.offset) (hp : p place = true) : place.before = [] := by
  obtain ⟨passed, hstart, hplace⟩ := exists_between_of_offset_le htext hle
  cases hbefore : place.before with
  | nil => rfl
  | cons c far =>
    have hfails := not_of_recede?_eq_none h passed c far (hbefore ▸ hstart)
    rw [← hbefore, ← hplace, hp] at hfails
    cases hfails

/-- A search to the left that begins with the text where it finds nothing ends at the greatest
offset that satisfies the condition, or else at the start. -/
theorem isGreatest_last? (p : Cursor → Bool) (place : Cursor) :
    IsGreatest (insert 0 {n | n ≤ place.offset ∧
        ∃ other : Cursor, other.text = place.text ∧ other.offset = n ∧ p other = true})
      ((last? p place).getD (Cursor.start place.text)).offset := by
  cases h : last? p place with
  | none =>
    refine ⟨Set.mem_insert _ _, ?_⟩
    rintro _ (rfl | ⟨hle, other, htext, rfl, hp⟩)
    · exact Nat.zero_le _
    · rw [offset, before_eq_nil_of_last?_eq_none h htext hle hp]
      exact Nat.zero_le _
  | some found =>
    refine ⟨.inr ⟨offset_le_of_last? h, found, text_of_last? h, rfl, holds_of_last? h⟩, ?_⟩
    rintro _ (rfl | ⟨hle, other, htext, rfl, hp⟩)
    · exact Nat.zero_le _
    · exact le_offset_of_last?_of_le h htext hle hp

theorem offset_le_finish (htext : place.text = text) : place.offset ≤ (finish text).offset := by
  rw [← htext, offset, offset, finish, Cursor.text, List.reverse_append, byteLength_append,
    List.reverse_reverse]
  exact Nat.le_add_left _ _

/-- The last place of a text that satisfies a condition has the greatest offset of all that do. -/
theorem le_offset_of_last? (h : last? p (finish text) = some found)
    (htext : place.text = text) (hp : p place = true) : place.offset ≤ found.offset :=
  le_offset_of_last?_of_le h (htext.trans (text_finish text).symm) (offset_le_finish htext) hp

/-- If no last place is found, no place with a character on its left satisfies the condition. -/
theorem not_of_last?_eq_none (h : last? p (finish text) = none) (htext : place.text = text)
    (hne : place.before ≠ []) : p place = false := by
  rw [Bool.eq_false_iff]
  intro hp
  exact hne (before_eq_nil_of_last?_eq_none h (htext.trans (text_finish text).symm)
    (offset_le_finish htext) hp)

end Last

/-! ### Searches to the right -/

/-- A search to the right passes over the places at which the condition fails. -/
theorem exists_between_of_seek? {before after : List Char} {found : Cursor}
    (h : seek? p before after = some found) :
    ∃ between, after = between ++ found.after ∧ found.before = between.reverse ++ before ∧
      found.after ≠ [] ∧ ∀ near c far, between = near ++ c :: far →
        p ⟨near.reverse ++ before, c :: far ++ found.after⟩ = false := by
  induction after generalizing before with
  | nil => cases h
  | cons c after ih =>
    rw [seek?] at h
    split at h
    case isTrue =>
      cases h
      exact ⟨[], rfl, rfl, List.cons_ne_nil c after, fun near d far hnil => by simp at hnil⟩
    case isFalse hc =>
      obtain ⟨between, hafter, hbefore, hne, hpassed⟩ := ih h
      refine ⟨c :: between, congrArg (c :: ·) hafter, by simp [hbefore], hne,
        fun near d far heq => ?_⟩
      cases near with
      | nil =>
        obtain ⟨rfl, rfl⟩ := List.cons_eq_cons.1 heq
        rw [List.cons_append, ← hafter]
        exact Bool.eq_false_iff.2 hc
      | cons e near =>
        obtain ⟨rfl, rfl⟩ := List.cons_eq_cons.1 heq
        simpa using hpassed near d far rfl

/-- A search to the right that finds nothing has passed over all places. -/
theorem not_of_seek?_eq_none {before after : List Char} (h : seek? p before after = none) :
    ∀ near c far, after = near ++ c :: far →
      p ⟨near.reverse ++ before, c :: far⟩ = false := by
  induction after generalizing before with
  | nil => simp
  | cons c after ih =>
    rw [seek?] at h
    split at h
    case isTrue => cases h
    case isFalse hc =>
      intro near d far heq
      cases near with
      | nil =>
        obtain ⟨rfl, rfl⟩ := List.cons_eq_cons.1 heq
        exact Bool.eq_false_iff.2 hc
      | cons e near =>
        obtain ⟨rfl, rfl⟩ := List.cons_eq_cons.1 heq
        simpa using ih h near d far rfl

/-- A search to the right goes on behind what it has passed. -/
theorem seek?_of_passed {before between after : List Char}
    (hpassed : ∀ near c far, between = near ++ c :: far →
      p ⟨near.reverse ++ before, c :: far ++ after⟩ = false) :
    seek? p before (between ++ after) = seek? p (between.reverse ++ before) after := by
  induction between generalizing before with
  | nil => rfl
  | cons c between ih =>
    have hc : p ⟨before, c :: (between ++ after)⟩ = false := hpassed [] c between rfl
    rw [List.cons_append, seek?, hc, if_neg Bool.false_ne_true, ih fun near d far heq => ?_]
    · simp
    · simpa using hpassed (c :: near) d far (congrArg (c :: ·) heq)

/-- A search to the right ends at the place that satisfies the condition when no place that it has
passed does. -/
theorem first?_eq_some_iff {text : List Char} {place : Cursor} :
    first? p text = some place ↔ place.text = text ∧ place.after ≠ [] ∧ p place = true ∧
      ∀ near c far, place.left = near ++ c :: far →
        p ⟨near.reverse, c :: far ++ place.after⟩ = false := by
  constructor
  · intro h
    obtain ⟨between, -, hbefore, hne, hpassed⟩ := exists_between_of_seek? h
    refine ⟨text_of_first? h, hne, holds_of_first? h, fun near c far heq => ?_⟩
    rw [left, hbefore, List.append_nil, List.reverse_reverse] at heq
    simpa using hpassed near c far heq
  · rintro ⟨rfl, hne, hp, hpassed⟩
    obtain ⟨c, rest, hafter⟩ := List.exists_cons_of_ne_nil hne
    have hsplit : place.text = place.left ++ place.after := rfl
    rw [first?, hsplit, seek?_of_passed (by simpa using hpassed), left, List.reverse_reverse,
      List.append_nil, hafter, seek?, ← hafter, if_pos hp]

section First

variable {text : List Char} {start found place : Cursor}

/-- A character stands on the right of the first place that satisfies a condition. -/
theorem after_ne_nil_of_first? (h : first? p text = some place) : place.after ≠ [] := by
  obtain ⟨-, -, -, hne, -⟩ := exists_between_of_seek? h
  exact hne

/-- The first place from a given one on is not in front of it. -/
theorem le_offset_of_seek? (h : seek? p start.before start.after = some found) :
    start.offset ≤ found.offset := by
  obtain ⟨between, -, hbefore, -, -⟩ := exists_between_of_seek? h
  rw [offset, offset, hbefore, byteLength_append]
  exact Nat.le_add_left _ _

/-- The first place from a given one on has the least offset of all from there that satisfy the
condition. -/
theorem offset_le_of_seek?_of_le (h : seek? p start.before start.after = some found)
    (htext : place.text = start.text) (hle : start.offset ≤ place.offset) (hp : p place = true) :
    found.offset ≤ place.offset := by
  obtain ⟨passed, hplace, hstart⟩ := exists_between_of_offset_le htext.symm hle
  obtain ⟨between, hafter, hbefore, -, hpassed⟩ := exists_between_of_seek? h
  rw [offset, offset, hbefore, hplace, byteLength_append, byteLength_append, byteLength_reverse,
    ← byteLength_reverse passed]
  rcases List.append_eq_append_iff.1 (hstart.symm.trans hafter) with
    ⟨far, rfl, hrest⟩ | ⟨behind, hleft, -⟩
  · -- the place is one that the search has passed, or the one that it has found
    cases far with
    | nil => simp
    | cons c far =>
      have hfails := hpassed passed.reverse c far rfl
      rw [List.reverse_reverse, ← hplace, ← hrest, hp] at hfails
      cases hfails
  · rw [hleft, byteLength_append]
    omega

/-- If no first place is found, only the place behind the text may satisfy the condition. -/
theorem after_eq_nil_of_seek?_eq_none (h : seek? p start.before start.after = none)
    (htext : place.text = start.text) (hle : start.offset ≤ place.offset) (hp : p place = true) :
    place.after = [] := by
  obtain ⟨passed, hplace, hstart⟩ := exists_between_of_offset_le htext.symm hle
  cases hafter : place.after with
  | nil => rfl
  | cons c far =>
    have hfails := not_of_seek?_eq_none h passed.reverse c far (hafter ▸ hstart)
    rw [List.reverse_reverse, ← hplace, ← hafter, hp] at hfails
    cases hfails

/-- A search to the right that ends with the text where it finds nothing ends at the least offset
that satisfies the condition, or else behind the text. -/
theorem isLeast_seek? (p : Cursor → Bool) (place : Cursor) :
    IsLeast (insert (byteLength place.text) {n | place.offset ≤ n ∧
        ∃ other : Cursor, other.text = place.text ∧ other.offset = n ∧ p other = true})
      ((seek? p place.before place.after).getD (Cursor.finish place.text)).offset := by
  have hfinish : (Cursor.finish place.text).offset = byteLength place.text := byteLength_reverse _
  have hwhole : ∀ other : Cursor, other.text = place.text → other.offset ≤ byteLength place.text :=
    fun other htext => hfinish ▸ offset_le_finish htext
  cases h : seek? p place.before place.after with
  | none =>
    rw [Option.getD_none, hfinish]
    refine ⟨Set.mem_insert _ _, ?_⟩
    rintro _ (rfl | ⟨hle, other, htext, rfl, hp⟩)
    · exact Nat.le_refl _
    · have hnil := after_eq_nil_of_seek?_eq_none h htext hle hp
      rw [← htext, Cursor.text, hnil, List.append_nil, byteLength_reverse]
      exact Nat.le_refl _
  | some found =>
    refine ⟨.inr ⟨le_offset_of_seek? h, found, text_of_seek? h, rfl, holds_of_seek? h⟩, ?_⟩
    rintro _ (rfl | ⟨hle, other, htext, rfl, hp⟩)
    · exact hwhole found (text_of_seek? h)
    · exact offset_le_of_seek?_of_le h htext hle hp

/-- The first place that satisfies a condition has the least offset of all that do. -/
theorem offset_le_of_first? (h : first? p text = some found)
    (htext : place.text = text) (hp : p place = true) : found.offset ≤ place.offset := by
  have hstart : seek? p (Cursor.start text).before (Cursor.start text).after = some found := h
  exact offset_le_of_seek?_of_le hstart htext (Nat.zero_le _) hp

/-- If no first place is found, no place with a character on its right satisfies the condition. -/
theorem not_of_first?_eq_none (h : first? p text = none) (htext : place.text = text)
    (hne : place.after ≠ []) : p place = false := by
  have hstart : seek? p (Cursor.start text).before (Cursor.start text).after = none := h
  rw [Bool.eq_false_iff]
  intro hp
  exact hne (after_eq_nil_of_seek?_eq_none hstart htext (Nat.zero_le _) hp)

end First

end Cursor

end CompileCommands.Text
