import CompileCommands.Proofs.Directories.Nesting

/-!
# The stack carries the nesting

A `DirectoryStack` takes one move at a time and keeps no history. After any history of moves from
the beginning, it holds the directories of the open entries, the latest first, and the directory
entered or returned to last is the directory in effect. The bottom of the stack is the latest
outermost entry, which is why the directory may stay as it was when the last open entry is left.

## Main definitions

* `DirectoryStack.move`: what a move does to a stack.
* `DirectoryStack.ofMoves`: the stack after a history from the beginning.
* `Move.unmatched`: the number of leaves that match no entry of a history.

## Main results

* `DirectoryStack.entered_foldl_move`, `DirectoryStack.entered_ofMoves`: the stack holds the open
  entries.
* `DirectoryStack.latest_ofMoves`: the directory entered or returned to last is in effect.
-/

namespace CompileCommands

namespace DirectoryStack

/-- What a move does to a stack. -/
def move (dirs : DirectoryStack) : Move → DirectoryStack
  | .enter directory => dirs.enter directory
  | .leave => dirs.leave
  | .stay => dirs

/-- The stack after a history of moves from the beginning. -/
def ofMoves (moves : List Move) : DirectoryStack :=
  moves.foldl move {}

@[simp] theorem ofMoves_concat (moves : List Move) (next : Move) :
    ofMoves (moves ++ [next]) = (ofMoves moves).move next := by
  simp [ofMoves]

end DirectoryStack

namespace Move

/-! ### The latest outermost entry -/

/-- The place of the latest outermost entry of a history. -/
def outermost? (moves : List Move) : Option Nat :=
  lastBelow? (IsOutermost moves) moves.length

/-- At the end of a history, the directory in effect is the one of the first of the open entries
in the order of `openPlaces`, or else the one of the latest outermost entry. -/
theorem effective?_length (moves : List Move) :
    effective? moves moves.length =
      ((openPlaces moves).head?.or (outermost? moves) >>= entered? moves) := by
  rw [effective?, openPlaces, List.head?_filter, outermost?, lastBelow?]

private theorem isOutermost_concat_length (moves : List Move) (next : Move) :
    IsOutermost (moves ++ [next]) moves.length ↔ next.isEnter = true ∧ openPlaces moves = [] := by
  have hnext : (directory? next).isSome = true ↔ next.isEnter = true := by
    cases next <;> simp [directory?, isEnter]
  rw [IsOutermost, entered?, List.getElem?_concat_length, ← hnext]
  refine and_congr_right fun _ => ?_
  rw [List.eq_nil_iff_forall_not_mem]
  refine forall_congr' fun j => ?_
  rw [mem_openPlaces]
  refine ⟨fun h hopen => ?_, fun h hj hopen => h ?_⟩
  · have hj := lt_length_of_isOpen hopen
    refine h hj ?_
    rwa [← isOpen_take hj (Nat.le_refl _), List.take_left]
  · rwa [← isOpen_take hj (Nat.le_refl _), List.take_left] at hopen

/-- One more move is the latest outermost entry if it enters a directory while none is open. -/
theorem outermost?_concat (moves : List Move) (next : Move) :
    outermost? (moves ++ [next]) =
      if next.isEnter = true ∧ openPlaces moves = [] then some moves.length
      else outermost? moves := by
  have hbefore : lastBelow? (IsOutermost (moves ++ [next])) moves.length = outermost? moves :=
    lastBelow?_congr fun k hk => by rw [← isOutermost_take hk, List.take_left]
  rw [outermost?, List.length_append, List.length_singleton, lastBelow?_succ, hbefore]
  simp only [isOutermost_concat_length]

/-- The first of the open entries is the latest outermost entry. -/
theorem getLast?_openPlaces {moves : List Move} (h : openPlaces moves ≠ []) :
    (openPlaces moves).getLast? = outermost? moves := by
  induction moves using List.reverseRecOn with
  | nil => exact absurd rfl h
  | append_singleton moves next ih =>
    rw [outermost?_concat]
    cases next with
    | enter directory =>
      rw [openPlaces_enter]
      cases hopen : openPlaces moves with
      | nil => simp [isEnter]
      | cons latest others =>
        rw [← ih (by simp [hopen]), hopen]
        simp [isEnter]
    | leave =>
      rw [openPlaces_leave] at h ⊢
      obtain ⟨latest, second, others, heq⟩ :
          ∃ latest second others, openPlaces moves = latest :: second :: others := by
        cases hopen : openPlaces moves with
        | nil => simp [hopen] at h
        | cons latest others =>
          obtain ⟨second, others, rfl⟩ := List.exists_cons_of_ne_nil (by simpa [hopen] using h)
          exact ⟨latest, second, others, rfl⟩
      rw [heq] at ih
      simpa [heq, isEnter] using ih (by simp)
    | stay =>
      rw [openPlaces_stay] at h ⊢
      simp [isEnter, ih h]

theorem entered?_concat_of_lt {moves : List Move} {k : Nat} (hk : k < moves.length) (next : Move) :
    entered? (moves ++ [next]) k = entered? moves k := by
  rw [entered?, List.getElem?_append_left hk, entered?]

private theorem entered?_concat_length (moves : List Move) (next : Move) :
    entered? (moves ++ [next]) moves.length = directory? next := by
  rw [entered?, List.getElem?_concat_length]
  rfl

/-- The directory of the latest outermost entry is not changed by what comes behind it. -/
theorem outermost?_bind_entered?_concat (moves : List Move) (next : Move) :
    (outermost? moves >>= entered? (moves ++ [next])) = (outermost? moves >>= entered? moves) := by
  cases h : outermost? moves with
  | none => rfl
  | some k => exact entered?_concat_of_lt (of_lastBelow? h).1 next

/-! ### The directory in effect after one more move -/

/-- After a directory has been entered it is in effect. -/
theorem effective?_enter (moves : List Move) (directory : String) :
    effective? (moves ++ [.enter directory]) (moves.length + 1) = some directory := by
  have h := effective?_length (moves ++ [.enter directory])
  rw [List.length_append, List.length_singleton, openPlaces_enter] at h
  rw [h]
  exact entered?_concat_length moves (.enter directory)

/-- Where nothing is entered or left the directory in effect stays. -/
theorem effective?_stay (moves : List Move) :
    effective? (moves ++ [.stay]) (moves.length + 1) = effective? moves moves.length := by
  have h := effective?_length (moves ++ [.stay])
  rw [List.length_append, List.length_singleton, openPlaces_stay, outermost?_concat,
    if_neg (by simp [isEnter])] at h
  rw [h, effective?_length]
  cases hopen : openPlaces moves with
  | nil => exact outermost?_bind_entered?_concat moves .stay
  | cons latest others =>
    exact entered?_concat_of_lt (lt_of_mem_openPlaces (hopen ▸ List.mem_cons_self)) .stay

/-- After a leave the directory of the enclosing open entry is in effect. Without one it stays. -/
theorem effective?_leave (moves : List Move) :
    effective? (moves ++ [.leave]) (moves.length + 1) =
      ((openPlaces moves).tail.head? >>= entered? moves).or (effective? moves moves.length) := by
  have h := effective?_length (moves ++ [.leave])
  rw [List.length_append, List.length_singleton, openPlaces_leave, outermost?_concat,
    if_neg (by simp [isEnter])] at h
  rw [h, effective?_length]
  cases hopen : openPlaces moves with
  | nil => exact outermost?_bind_entered?_concat moves .leave
  | cons latest earlier =>
    cases earlier with
    | nil =>
      -- The last open entry is left: it is also the latest outermost one.
      have houtermost : some latest = outermost? moves := by
        rw [← getLast?_openPlaces (by simp [hopen]), hopen, List.getLast?_singleton]
      have hdirectory := outermost?_bind_entered?_concat moves .leave
      rw [← houtermost] at hdirectory ⊢
      exact hdirectory
    | cons second others =>
      have hmem : second ∈ openPlaces moves := by simp [hopen]
      have hsecond := (mem_openPlaces.1 hmem).1
      obtain ⟨directory, hdirectory⟩ := Option.isSome_iff_exists.1 hsecond
      have hconcat := entered?_concat_of_lt (lt_of_mem_openPlaces hmem) .leave
      simp [hdirectory, hconcat]

end Move

namespace Move

/-! ### Leaves that match no entry -/

/-- The number of leaves that match no entry of a history. -/
def unmatched (moves : List Move) : Nat :=
  moves.countP isLeave + (openPlaces moves).length - moves.countP isEnter

/-- Every entry is open or has been left. -/
theorem countP_isEnter_le (moves : List Move) :
    moves.countP isEnter ≤ moves.countP isLeave + (openPlaces moves).length := by
  induction moves using List.reverseRecOn with
  | nil => exact Nat.zero_le _
  | append_singleton moves next ih =>
    rw [List.countP_append, List.countP_append]
    cases next with
    | enter directory =>
      rw [openPlaces_enter]
      simp [isEnter, isLeave]
      omega
    | leave =>
      rw [openPlaces_leave, List.length_tail]
      simp [isEnter, isLeave]
      omega
    | stay =>
      rw [openPlaces_stay]
      simpa [isEnter, isLeave] using ih

/-- An entry leaves no leave unmatched, and matches none before it. -/
theorem unmatched_enter (moves : List Move) (directory : String) :
    unmatched (moves ++ [.enter directory]) = unmatched moves := by
  rw [unmatched, unmatched, openPlaces_enter, List.countP_append, List.countP_append]
  simp [isEnter, isLeave]
  omega

/-- A leave is unmatched if no entry is open. -/
theorem unmatched_leave (moves : List Move) :
    unmatched (moves ++ [.leave]) =
      if openPlaces moves = [] then unmatched moves + 1 else unmatched moves := by
  have hle := countP_isEnter_le moves
  rw [unmatched, unmatched, openPlaces_leave, List.countP_append, List.countP_append]
  cases h : openPlaces moves with
  | nil =>
    rw [h] at hle
    simp [isEnter, isLeave] at hle ⊢
    omega
  | cons latest others =>
    simp [isEnter, isLeave]
    omega

theorem unmatched_stay (moves : List Move) : unmatched (moves ++ [.stay]) = unmatched moves := by
  rw [unmatched, unmatched, openPlaces_stay, List.countP_append, List.countP_append]
  simp [isEnter, isLeave]

end Move

namespace DirectoryStack

open Move

/-- **The stack holds the open entries.** A history puts the directories of its open entries on top
of a stack, the latest first, and takes as many directories off the stack below them as it has
leaves that match no entry of its own. -/
theorem entered_foldl_move (dirs : DirectoryStack) (moves : List Move) :
    (moves.foldl move dirs).entered.map some =
      (openPlaces moves).map (entered? moves) ++
        (dirs.entered.drop (unmatched moves)).map some := by
  induction moves using List.reverseRecOn with
  | nil => rfl
  | append_singleton moves next ih =>
    have hkeep : (openPlaces moves).map (entered? (moves ++ [next])) =
        (openPlaces moves).map (entered? moves) :=
      List.map_congr_left fun k hk => entered?_concat_of_lt (lt_of_mem_openPlaces hk) next
    rw [List.foldl_append, List.foldl_cons, List.foldl_nil]
    cases next with
    | enter directory =>
      rw [openPlaces_enter, List.map_cons, entered?_concat_length, hkeep, unmatched_enter,
        List.cons_append, ← ih]
      rfl
    | leave =>
      rw [openPlaces_leave, List.map_tail, hkeep, unmatched_leave, move, entered_leave,
        List.map_tail, ih]
      cases hopen : openPlaces moves with
      | nil => simp [List.tail_drop]
      | cons latest others => simp
    | stay => rw [openPlaces_stay, hkeep, unmatched_stay, ← ih, move]

/-- After a history from the beginning the stack holds the directories of its open entries. -/
theorem entered_ofMoves (moves : List Move) :
    (ofMoves moves).entered.map some = (openPlaces moves).map (entered? moves) := by
  rw [ofMoves, entered_foldl_move, List.drop_nil, List.map_nil, List.append_nil]

/-- **The directory in effect.** After a history, the directory entered or returned to last is the
one that the matching of entries and leaves puts in effect. -/
theorem latest_ofMoves (moves : List Move) :
    (ofMoves moves).latest = effective? moves moves.length := by
  induction moves using List.reverseRecOn with
  | nil => rfl
  | append_singleton moves next ih =>
    rw [ofMoves_concat, List.length_append, List.length_singleton]
    cases next with
    | enter directory => rw [effective?_enter, move, latest_enter]
    | leave =>
      have houter : (ofMoves moves).entered.tail.head? =
          ((openPlaces moves).tail.head? >>= entered? moves) := by
        have h := congrArg (List.head? ∘ List.tail) (entered_ofMoves moves)
        simp only [Function.comp_apply, ← List.map_tail, List.head?_map] at h
        revert h
        cases (openPlaces moves).tail.head? <;> cases (ofMoves moves).entered.tail.head? <;>
          simp
      rw [effective?_leave, move, latest_leave, ih, houter]
    | stay => rw [effective?_stay, ← ih, move]

end DirectoryStack

end CompileCommands
