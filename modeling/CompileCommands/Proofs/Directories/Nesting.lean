import CompileCommands.DirectoryStack
import Mathlib.Data.List.Induction

/-!
# Nested moves between directories

A history of moves enters and leaves directories. Read as a nesting, an entry is matched by the
first later place at which the leaves since the entry outnumber the entries since it; until then it
is open. Leaves with nothing open match nothing. The directory in effect is the one of the latest
open entry. When no entry is open it is the one of the latest entry that was made while none was
open, which is the outermost directory left last.

This matching refers to the whole history. `CompileCommands.Proofs.Directories.Stack` shows that a
stack of directories carries just enough of it.

## Main definitions

* `Move`: entering a directory, leaving one, or neither.
* `Move.IsOpen`: an entry that has not been left.
* `Move.effective?`: the directory in effect before a place of a history.
* `Move.openPlaces`: the open entries at the end of a history, the latest first.

## Main results

* `Move.balanced`: the entries since an open entry outnumber the leaves by the later open entries.
* `Move.openPlaces_enter`, `Move.openPlaces_leave`, `Move.openPlaces_stay`: the open entries after
  one more move.
-/

namespace CompileCommands

/-- What a step of a build does to the directories it works in. -/
inductive Move where
  /-- A directory is entered. -/
  | enter (directory : String)
  /-- The directory entered last is left. -/
  | leave
  /-- Nothing is entered or left. -/
  | stay
  deriving DecidableEq, Repr

namespace Move

/-- The move enters a directory. -/
def isEnter : Move → Bool
  | .enter _ => true
  | _ => false

/-- The move leaves a directory. -/
def isLeave : Move → Bool
  | .leave => true
  | _ => false

/-- The directory that a move enters. -/
def directory? : Move → Option String
  | .enter directory => some directory
  | _ => none

/-! ### Open entries -/

/-- The directory entered at place `k` of a history. -/
def entered? (moves : List Move) (k : Nat) : Option String :=
  moves[k]? >>= directory?

/-- The moves behind place `k` up to place `m`. -/
def since (moves : List Move) (k m : Nat) : List Move :=
  (moves.take (m + 1)).drop (k + 1)

/-- The leaves among some moves do not outnumber the entries. -/
def Covered (moves : List Move) : Prop :=
  moves.countP isLeave ≤ moves.countP isEnter

instance (moves : List Move) : Decidable (Covered moves) :=
  inferInstanceAs (Decidable (_ ≤ _))

/-- The entry at place `k` is open before place `n` when at no place in between the leaves since
the entry outnumber the entries since it. -/
def IsOpen (moves : List Move) (k n : Nat) : Prop :=
  (entered? moves k).isSome ∧ ∀ m < n, k < m → Covered (since moves k m)

instance (moves : List Move) (k n : Nat) : Decidable (IsOpen moves k n) :=
  inferInstanceAs (Decidable (_ ∧ _))

/-- The entry at place `k` is outermost when it is made while none is open. -/
def IsOutermost (moves : List Move) (k : Nat) : Prop :=
  (entered? moves k).isSome ∧ ∀ j < k, ¬ IsOpen moves j k

instance (moves : List Move) (k : Nat) : Decidable (IsOutermost moves k) :=
  inferInstanceAs (Decidable (_ ∧ _))

/-- The last number below `n` with a property. -/
def lastBelow? (p : Nat → Prop) [DecidablePred p] (n : Nat) : Option Nat :=
  (List.range n).reverse.find? (p ·)

/-- The directory in effect before place `n`: the one of the latest open entry, or else the one of
the latest outermost entry. -/
def effective? (moves : List Move) (n : Nat) : Option String :=
  (lastBelow? (IsOpen moves · n) n).or (lastBelow? (IsOutermost moves) n) >>= entered? moves

/-- The places of the entries that are open at the end of a history, the latest first. -/
def openPlaces (moves : List Move) : List Nat :=
  (List.range moves.length).reverse.filter (IsOpen moves · moves.length)

/-! ### The last number with a property -/

theorem lastBelow?_succ (p : Nat → Prop) [DecidablePred p] (n : Nat) :
    lastBelow? p (n + 1) = if p n then some n else lastBelow? p n := by
  rw [lastBelow?, List.range_succ, List.reverse_append, List.reverse_singleton,
    List.singleton_append, List.find?_cons]
  by_cases h : p n <;> simp [h, lastBelow?]

theorem lastBelow?_congr {p q : Nat → Prop} [DecidablePred p] [DecidablePred q] {n : Nat}
    (h : ∀ k < n, p k ↔ q k) : lastBelow? p n = lastBelow? q n := by
  induction n with
  | zero => rfl
  | succ n ih =>
    rw [lastBelow?_succ, lastBelow?_succ, ih fun k hk => h k (Nat.lt_succ_of_lt hk)]
    simp only [h n (Nat.lt_succ_self n)]

/-- The last number below `n` with a property is below `n` and has it. -/
theorem of_lastBelow? {p : Nat → Prop} [DecidablePred p] {n k : Nat}
    (h : lastBelow? p n = some k) : k < n ∧ p k := by
  have hmem := List.mem_of_find?_eq_some h
  have hp := List.find?_some h
  simp_all

/-- A directory in effect has been entered before. -/
theorem of_effective? {moves : List Move} {n : Nat} {directory : String}
    (h : effective? moves n = some directory) :
    ∃ k < n, moves[k]? = some (.enter directory) := by
  obtain ⟨k, hk, hentered⟩ := Option.bind_eq_some_iff.1 h
  obtain ⟨move, hmove, hdirectory⟩ := Option.bind_eq_some_iff.1 hentered
  have hlt : k < n := by
    rcases Option.or_eq_some_iff.1 hk with hk | ⟨_, hk⟩
    · exact (of_lastBelow? hk).1
    · exact (of_lastBelow? hk).1
  refine ⟨k, hlt, ?_⟩
  cases move <;> simp_all [directory?]

/-! ### The beginning of a history -/

theorem entered?_take {moves : List Move} {k n : Nat} (h : k < n) :
    entered? (moves.take n) k = entered? moves k := by
  rw [entered?, List.getElem?_take_of_lt h, entered?]

private theorem since_take {moves : List Move} {k m n : Nat} (h : m < n) :
    since (moves.take n) k m = since moves k m := by
  rw [since, List.take_take, Nat.min_eq_left h, since]

theorem isOpen_take {moves : List Move} {k l n : Nat} (hk : k < n) (hl : l ≤ n) :
    IsOpen (moves.take n) k l ↔ IsOpen moves k l := by
  have hsince : ∀ m < l, since (moves.take n) k m = since moves k m := fun m hm =>
    since_take (Nat.lt_of_lt_of_le hm hl)
  rw [IsOpen, IsOpen, entered?_take hk]
  refine and_congr_right fun _ => ⟨fun h m hm hkm => ?_, fun h m hm hkm => ?_⟩
  · exact hsince m hm ▸ h m hm hkm
  · exact (hsince m hm).symm ▸ h m hm hkm

theorem isOutermost_take {moves : List Move} {k n : Nat} (hk : k < n) :
    IsOutermost (moves.take n) k ↔ IsOutermost moves k := by
  rw [IsOutermost, IsOutermost, entered?_take hk]
  refine and_congr_right fun _ => forall₂_congr fun j hj => not_congr ?_
  exact isOpen_take (Nat.lt_trans hj hk) (Nat.le_of_lt hk)

/-- The directory in effect before a place is settled by the moves before it. -/
theorem effective?_take {moves : List Move} {l n : Nat} (hl : l ≤ n) :
    effective? (moves.take n) l = effective? moves l := by
  rw [effective?, lastBelow?_congr fun k hk => isOpen_take (Nat.lt_of_lt_of_le hk hl) hl,
    lastBelow?_congr fun k hk => isOutermost_take (Nat.lt_of_lt_of_le hk hl), effective?]
  cases h : (lastBelow? (IsOpen moves · l) l).or (lastBelow? (IsOutermost moves) l) with
  | none => rfl
  | some k =>
    have hk : k < l := by
      rcases Option.or_eq_some_iff.1 h with h | ⟨_, h⟩
      · exact (of_lastBelow? h).1
      · exact (of_lastBelow? h).1
    exact entered?_take (Nat.lt_of_lt_of_le hk hl)

theorem effective?_append {moves later : List Move} {n : Nat} (h : n ≤ moves.length) :
    effective? (moves ++ later) n = effective? moves n := by
  rw [← effective?_take h, List.take_left]

/-! ### One more move -/

theorem lt_length_of_isOpen {moves : List Move} {k n : Nat} (h : IsOpen moves k n) :
    k < moves.length := by
  have hsome := h.1
  by_contra hk
  simp [entered?, List.getElem?_eq_none (Nat.le_of_not_lt hk)] at hsome

private theorem since_length {moves : List Move} {k : Nat} (hk : k < moves.length) (move : Move) :
    since (moves ++ [move]) k moves.length = moves.drop (k + 1) ++ [move] := by
  rw [since, List.take_of_length_le (by simp), List.drop_append_of_le_length hk]

/-- An entry stays open unless one more leave outnumbers the entries since it. -/
theorem isOpen_concat {moves : List Move} {k : Nat} (hk : k < moves.length) (move : Move) :
    IsOpen (moves ++ [move]) k (moves.length + 1) ↔
      IsOpen moves k moves.length ∧ Covered (moves.drop (k + 1) ++ [move]) := by
  have hbefore : IsOpen (moves ++ [move]) k moves.length ↔ IsOpen moves k moves.length := by
    rw [← isOpen_take hk (Nat.le_refl _), List.take_left]
  rw [← since_length hk, ← hbefore]
  refine ⟨fun h => ⟨⟨h.1, fun m hm => h.2 m (Nat.lt_succ_of_lt hm)⟩, h.2 _ (Nat.lt_succ_self _) hk⟩,
    fun ⟨h, hlast⟩ => ⟨h.1, fun m hm hkm => ?_⟩⟩
  rcases Nat.lt_succ_iff_lt_or_eq.1 hm with hm | rfl
  · exact h.2 m hm hkm
  · exact hlast

/-- The last move of a history is an open entry if it is an entry. -/
private theorem isOpen_concat_length (moves : List Move) (move : Move) :
    IsOpen (moves ++ [move]) moves.length (moves.length + 1) ↔ move.isEnter = true := by
  have hmove : (directory? move).isSome = true ↔ move.isEnter = true := by
    cases move <;> simp [directory?, isEnter]
  rw [IsOpen, entered?, List.getElem?_concat_length, ← hmove]
  exact and_iff_left fun m hm hkm => absurd hkm (by omega)

theorem mem_openPlaces {moves : List Move} {k : Nat} :
    k ∈ openPlaces moves ↔ IsOpen moves k moves.length := by
  simp only [openPlaces, List.mem_filter, List.mem_reverse, List.mem_range, decide_eq_true_eq]
  exact and_iff_right_of_imp lt_length_of_isOpen

private theorem pairwise_openPlaces (moves : List Move) : (openPlaces moves).Pairwise (· > ·) :=
  (List.pairwise_reverse.2 List.pairwise_lt_range).filter _

theorem lt_of_mem_openPlaces {moves : List Move} {k : Nat} (h : k ∈ openPlaces moves) :
    k < moves.length :=
  lt_length_of_isOpen (mem_openPlaces.1 h)

/-- One more move is an open entry or not, and leaves those entries open that stay covered. -/
theorem openPlaces_concat (moves : List Move) (move : Move) :
    openPlaces (moves ++ [move]) = (if move.isEnter then [moves.length] else []) ++
      (openPlaces moves).filter fun k => Covered (moves.drop (k + 1) ++ [move]) := by
  have hold : (List.range moves.length).reverse.filter
      (fun k => decide (IsOpen (moves ++ [move]) k (moves.length + 1))) =
        (openPlaces moves).filter fun k => Covered (moves.drop (k + 1) ++ [move]) := by
    rw [openPlaces, List.filter_filter]
    refine List.filter_congr fun k hk => ?_
    rw [List.mem_reverse, List.mem_range] at hk
    rw [decide_eq_decide.2 (isOpen_concat hk move), Bool.decide_and, Bool.and_comm]
  have hlast :
      decide (IsOpen (moves ++ [move]) moves.length (moves.length + 1)) = move.isEnter := by
    rw [Bool.eq_iff_iff, decide_eq_true_iff, isOpen_concat_length]
  rw [openPlaces, List.length_append, List.length_singleton, List.range_succ, List.reverse_append,
    List.reverse_singleton, List.singleton_append, List.filter_cons, hold, hlast]
  cases move.isEnter <;> rfl

/-- The entries since an open entry outnumber the leaves by the later open entries. -/
def Balanced (moves : List Move) : Prop :=
  ∀ k ∈ openPlaces moves, (moves.drop (k + 1)).countP isEnter =
    (moves.drop (k + 1)).countP isLeave + (openPlaces moves).countP (k < ·)

/-- In a descending list all members but the first have a greater one. -/
private theorem filter_exists_greater {places : List Nat} (h : places.Pairwise (· > ·)) :
    places.filter (fun k => 0 < places.countP (k < ·)) = places.tail := by
  cases h with
  | nil => rfl
  | @cons first rest hfirst hrest =>
    have hnone : (first :: rest).countP (first < ·) = 0 :=
      List.countP_eq_zero.2 fun k hk => by
        rcases List.mem_cons.1 hk with rfl | hk
        · simp
        · simpa using Nat.le_of_lt (hfirst k hk)
    rw [List.filter_cons, hnone, List.tail_cons, if_neg (by simp), List.filter_eq_self]
    intro k hk
    have hpos : 0 < (first :: rest).countP (k < ·) :=
      List.countP_pos_iff.2 ⟨first, List.mem_cons_self, by simpa using hfirst k hk⟩
    simpa using hpos

/-- While the history is balanced, one more leave closes the latest open entry. -/
theorem openPlaces_concat_leave {moves : List Move} (h : Balanced moves) :
    openPlaces (moves ++ [.leave]) = (openPlaces moves).tail := by
  rw [openPlaces_concat, ← filter_exists_greater (pairwise_openPlaces moves)]
  refine List.filter_congr fun k hk => ?_
  have hk := h k hk
  simp only [Covered, List.countP_append, List.countP_singleton, isEnter, isLeave]
  grind

/-- While the history is balanced, no other move closes an open entry. -/
theorem openPlaces_concat_of_ne_leave {moves : List Move} (h : Balanced moves) {move : Move}
    (hmove : move ≠ .leave) : openPlaces (moves ++ [move]) =
      (if move.isEnter then [moves.length] else []) ++ openPlaces moves := by
  have hleave : move.isLeave = false := by cases move <;> simp_all [isLeave]
  rw [openPlaces_concat]
  refine congrArg _ (List.filter_eq_self.2 fun k hk => ?_)
  have hk := h k hk
  simp only [Covered, List.countP_append, List.countP_singleton, hleave, Bool.false_eq_true,
    if_false, decide_eq_true_eq]
  omega

private theorem Balanced.leave {moves : List Move} (h : Balanced moves) :
    Balanced (moves ++ [.leave]) := by
  intro k hk
  rw [openPlaces_concat_leave h] at hk ⊢
  obtain ⟨latest, others, heq⟩ : ∃ latest others, openPlaces moves = latest :: others :=
    List.exists_cons_of_ne_nil fun hnil => by simp [hnil] at hk
  have hdescending := pairwise_openPlaces moves
  have hcount := h k (List.mem_of_mem_tail hk)
  have hlt := lt_of_mem_openPlaces (List.mem_of_mem_tail hk)
  rw [heq, List.tail_cons] at hk
  rw [heq, List.pairwise_cons] at hdescending
  rw [heq, List.countP_cons_of_pos (by simpa using hdescending.1 k hk)] at hcount
  rw [heq, List.tail_cons, List.drop_append_of_le_length hlt, List.countP_append,
    List.countP_append, hcount]
  simp [isEnter, isLeave]
  omega

private theorem Balanced.of_ne_leave {moves : List Move} (h : Balanced moves) {move : Move}
    (hmove : move ≠ .leave) : Balanced (moves ++ [move]) := by
  intro k hk
  rw [openPlaces_concat_of_ne_leave h hmove] at hk ⊢
  rcases List.mem_append.1 hk with hk | hk
  · obtain ⟨-, rfl⟩ : move.isEnter = true ∧ k = moves.length := by
      cases hmove : move.isEnter <;> simp_all
    have hnone : (openPlaces moves).countP (moves.length < ·) = 0 :=
      List.countP_eq_zero.2 fun j hj => by simpa using Nat.le_of_lt (lt_of_mem_openPlaces hj)
    rw [List.drop_of_length_le (by simp), List.countP_append, hnone]
    cases move.isEnter <;> simp
  · have hlt := lt_of_mem_openPlaces hk
    rw [List.drop_append_of_le_length hlt, List.countP_append, List.countP_append,
      List.countP_append, h k hk]
    cases move <;> simp_all [isEnter, isLeave]
    omega

/-- Every history is balanced. -/
theorem balanced (moves : List Move) : Balanced moves := by
  induction moves using List.reverseRecOn with
  | nil => exact fun k hk => absurd (lt_of_mem_openPlaces hk) (Nat.not_lt_zero k)
  | append_singleton moves move ih =>
    by_cases hmove : move = .leave
    · exact hmove ▸ ih.leave
    · exact ih.of_ne_leave hmove

/-- An entry is an open entry. -/
theorem openPlaces_enter (moves : List Move) (directory : String) :
    openPlaces (moves ++ [.enter directory]) = moves.length :: openPlaces moves :=
  openPlaces_concat_of_ne_leave (balanced moves) (by simp)

/-- A leave closes the latest open entry. -/
theorem openPlaces_leave (moves : List Move) :
    openPlaces (moves ++ [.leave]) = (openPlaces moves).tail :=
  openPlaces_concat_leave (balanced moves)

theorem openPlaces_stay (moves : List Move) :
    openPlaces (moves ++ [.stay]) = openPlaces moves :=
  openPlaces_concat_of_ne_leave (balanced moves) (by simp)

end Move

end CompileCommands
