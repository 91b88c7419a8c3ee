import CompileCommands.Proofs.Directories.Stack
import Mathlib.Order.Bounds.Basic

/-!
# Operations on a stack of directories

Whoever uses a stack of directories enters and leaves directories, and asks for the directory in
effect with a fallback at hand. Asking enters the fallback where no named directory is in effect and
changes nothing elsewhere, so every sequence of operations amounts to a history of moves. From this
history the stack, its depth and the directory in effect can be read off.

The directory entered or returned to last is no part of the stack. Once the last directory has been
left it stays in effect, and only the history knows which one that was.

## Main definitions

* `Operation`: entering, leaving, or asking for a directory.
* `DirectoryStack.perform`, `DirectoryStack.performed`: what operations do.
* `DirectoryStack.answer?`: what an operation returns.
* `DirectoryStack.movesFrom`: the moves that operations amount to.
* `Move.excess`: how many more entries than leaves there are among some moves.
* `DirectoryStack.EmptiedLast`: the directory that was left when the stack was last emptied.

## Main results

* `DirectoryStack.foldl_perform`: operations do what their moves do.
* `DirectoryStack.isGreatest_depth_ofMoves`: the depth is the greatest excess at the end of the
  history.
* `DirectoryStack.latest_eq_head?_ofMoves`: the innermost directory of the stack is in effect.
* `DirectoryStack.latest_performed_eq_some_iff`: what is in effect on an empty stack.
* `DirectoryStack.performed_eq_history`: the stack, its depth and the directory in effect.
-/

namespace CompileCommands

/-- What may be asked of a stack of directories. -/
inductive Operation where
  /-- A directory is entered. -/
  | enter (directory : String)
  /-- The directory entered last is left. -/
  | leave
  /-- The directory in effect is asked for. Without one the fallback is entered. -/
  | orEnter (fallback : String)
  deriving DecidableEq, Repr

namespace Move

/-- How many more entries than leaves there are among some moves. -/
def excess (moves : List Move) : Int :=
  moves.countP isEnter - moves.countP isLeave

/-- The excess of entries over leaves in each stretch at the end of a history, from the whole
history down to the empty stretch. -/
def excesses (moves : List Move) : Set Int :=
  {n | ∃ later, later <:+ moves ∧ n = excess later}

@[simp] theorem excess_enter (directory : String) : excess [.enter directory] = 1 := rfl

@[simp] theorem excess_leave : excess [.leave] = -1 := rfl

@[simp] theorem excess_stay : excess [.stay] = 0 := rfl

private theorem excess_append (moves later : List Move) :
    excess (moves ++ later) = excess moves + excess later := by
  simp only [excess, List.countP_append]
  omega

/-- A stretch at the end of a longer history is empty or ends with the last move. -/
private theorem mem_excesses_concat {moves : List Move} {next : Move} {n : Int} :
    n ∈ excesses (moves ++ [next]) ↔ n = 0 ∨ ∃ k ∈ excesses moves, n = k + excess [next] := by
  constructor
  · rintro ⟨later, hlater, rfl⟩
    rcases List.suffix_concat_iff.1 hlater with rfl | ⟨front, rfl, hfront⟩
    · exact .inl rfl
    · exact .inr ⟨excess front, ⟨front, hfront, rfl⟩, excess_append front [next]⟩
  · rintro (rfl | ⟨_, ⟨later, hlater, rfl⟩, rfl⟩)
    · exact ⟨[], List.nil_suffix, rfl⟩
    · exact ⟨later ++ [next], List.suffix_concat_iff.2 (.inr ⟨later, rfl, hlater⟩),
        (excess_append later [next]).symm⟩

end Move

namespace DirectoryStack

open Move (openPlaces entered? excess excesses mem_excesses_concat)

/-- The stack after an operation. -/
def perform (dirs : DirectoryStack) : Operation → DirectoryStack
  | .enter directory => dirs.enter directory
  | .leave => dirs.leave
  | .orEnter fallback => dirs.orEnter fallback

/-- The directory that an operation returns, if it returns one. -/
def answer? (dirs : DirectoryStack) : Operation → Option String
  | .orEnter fallback => some (dirs.orEnter fallback).name
  | _ => none

/-- The stack after some operations from the beginning. -/
def performed (operations : List Operation) : DirectoryStack :=
  operations.foldl perform {}

/-- The move that an operation amounts to. Asking for a directory enters the fallback where no named
directory is in effect. -/
def moveOf (dirs : DirectoryStack) : Operation → Move
  | .enter directory => .enter directory
  | .leave => .leave
  | .orEnter fallback => if dirs.current? = none then .enter fallback else .stay

/-- The moves that operations amount to, one for each. -/
def movesFrom : DirectoryStack → List Operation → List Move
  | _, [] => []
  | dirs, next :: operations => dirs.moveOf next :: movesFrom (dirs.perform next) operations

/-- The operation at place `j` leaves the only directory of the stack. -/
structure Empties (operations : List Operation) (j : Nat) (directory : String) : Prop where
  /-- The operation is a leave. -/
  leaves : operations[j]? = some .leave
  /-- The directory is all that is on the stack before it. -/
  entered_eq : (performed (operations.take j)).entered = [directory]

/-- The directory is the one that was left when the stack was last emptied. -/
def EmptiedLast (operations : List Operation) (directory : String) : Prop :=
  ∃ j, Empties operations j directory ∧ ∀ i, j < i → ∀ other, ¬ Empties operations i other

/-! ### Operations are moves -/

@[simp] theorem performed_concat (operations : List Operation) (next : Operation) :
    performed (operations ++ [next]) = (performed operations).perform next := by
  rw [performed, List.foldl_append, List.foldl_cons, List.foldl_nil, performed]

/-- An operation does what its move does. -/
theorem perform_eq_move (dirs : DirectoryStack) (next : Operation) :
    dirs.perform next = dirs.move (dirs.moveOf next) := by
  match next with
  | .enter _ | .leave => rfl
  | .orEnter fallback =>
    rw [perform, moveOf, orEnter]
    cases dirs.current? <;> rfl

/-- Operations do what their moves do. -/
theorem foldl_perform (dirs : DirectoryStack) (operations : List Operation) :
    operations.foldl perform dirs = (movesFrom dirs operations).foldl move dirs := by
  induction operations generalizing dirs with
  | nil => rfl
  | cons next operations ih =>
    rw [List.foldl_cons, movesFrom, List.foldl_cons, ← perform_eq_move, ih]

/-- The stack after some operations is the stack after their moves. -/
theorem performed_eq_ofMoves (operations : List Operation) :
    performed operations = ofMoves (movesFrom {} operations) :=
  foldl_perform {} operations

/-! ### The depth -/

/-- A move makes the stack deeper or less deep, but never less than empty. -/
theorem depth_move (dirs : DirectoryStack) (next : Move) :
    ((dirs.move next).depth : Int) = max 0 (dirs.depth + excess [next]) := by
  cases next with
  | enter directory =>
    rw [depth, move, entered_enter, List.length_cons, Move.excess_enter, depth]
    omega
  | leave =>
    rw [depth, move, entered_leave, List.length_tail, Move.excess_leave, depth]
    omega
  | stay =>
    rw [move, Move.excess_stay, depth]
    omega

/-- **The depth of the stack.** It is the greatest excess of entries over leaves in a stretch at the
end of the history. -/
theorem isGreatest_depth_ofMoves (moves : List Move) :
    IsGreatest (excesses moves) ((ofMoves moves).depth : Int) := by
  induction moves using List.reverseRecOn with
  | nil =>
    refine ⟨⟨[], List.nil_suffix, rfl⟩, ?_⟩
    rintro _ ⟨later, hlater, rfl⟩
    rw [List.suffix_nil.1 hlater]
    exact Int.le_refl 0
  | append_singleton moves next ih =>
    obtain ⟨hmem, hgreatest⟩ := ih
    rw [ofMoves_concat, depth_move]
    constructor
    · rw [mem_excesses_concat]
      rcases Int.le_total ((ofMoves moves).depth + excess [next]) 0 with hle | hle
      · exact .inl (Int.max_eq_left hle)
      · exact .inr ⟨_, hmem, Int.max_eq_right hle⟩
    · intro n hn
      rcases mem_excesses_concat.1 hn with rfl | ⟨k, hk, rfl⟩
      · omega
      · have hle := hgreatest hk
        omega

/-! ### The directory in effect -/

/-- The innermost directory of the stack is in effect as long as there is one. -/
theorem latest_eq_head?_ofMoves {moves : List Move} (h : (ofMoves moves).entered ≠ []) :
    (ofMoves moves).latest = (ofMoves moves).entered.head? := by
  have hentered := entered_ofMoves moves
  obtain ⟨directory, others, heq⟩ := List.exists_cons_of_ne_nil h
  rw [heq] at hentered
  rw [latest_ofMoves, Move.effective?_length, heq]
  cases hopen : openPlaces moves with
  | nil => simp [hopen] at hentered
  | cons k _ =>
    rw [hopen, List.map_cons, List.map_cons, List.cons.injEq] at hentered
    exact hentered.1.symm

/-- Nothing is in effect as long as nothing has been entered. -/
theorem latest_ofMoves_eq_none_iff (moves : List Move) :
    (ofMoves moves).latest = none ↔ ∀ directory, .enter directory ∉ moves := by
  induction moves using List.reverseRecOn with
  | nil => simp [ofMoves]
  | append_singleton moves next ih =>
    rw [ofMoves_concat]
    cases next with
    | enter directory =>
      have hmem : .enter directory ∈ moves ++ [.enter directory] :=
        List.mem_append_right moves (List.mem_singleton_self _)
      constructor
      · intro h
        cases h
      · intro h
        exact absurd hmem (h directory)
    | leave =>
      have hhead : (ofMoves moves).latest = none → (ofMoves moves).entered.tail.head? = none := by
        intro hnone
        by_contra hsome
        have hne : (ofMoves moves).entered ≠ [] := by
          intro hnil
          rw [hnil] at hsome
          exact hsome rfl
        rw [latest_eq_head?_ofMoves hne, List.head?_eq_none_iff] at hnone
        exact hne hnone
      simp only [move, latest_leave, Option.or_eq_none_iff, List.mem_append, List.mem_singleton,
        reduceCtorEq, or_false, ← ih]
      exact and_iff_right_of_imp hhead
    | stay => simpa [move] using ih

/-! ### The directory in effect on an empty stack -/

/-- A leave that empties the stack is one before the last operation, or the last operation. -/
theorem empties_concat {operations : List Operation} {next : Operation} {j : Nat}
    {directory : String} :
    Empties (operations ++ [next]) j directory ↔ Empties operations j directory ∨
      (j = operations.length ∧ next = .leave ∧ (performed operations).entered = [directory]) := by
  constructor
  · rintro ⟨hleave, hentered⟩
    have hj : j < operations.length + 1 := by
      simpa using (List.getElem?_eq_some_iff.1 hleave).1
    rcases Nat.lt_succ_iff_lt_or_eq.1 hj with hj | rfl
    · rw [List.getElem?_append_left hj] at hleave
      rw [List.take_append_of_le_length (Nat.le_of_lt hj)] at hentered
      exact .inl ⟨hleave, hentered⟩
    · rw [List.getElem?_concat_length, Option.some_inj] at hleave
      rw [List.take_left] at hentered
      exact .inr ⟨rfl, hleave, hentered⟩
  · rintro (⟨hleave, hentered⟩ | ⟨rfl, rfl, hentered⟩)
    · have hj := (List.getElem?_eq_some_iff.1 hleave).1
      constructor
      · rwa [List.getElem?_append_left hj]
      · rwa [List.take_append_of_le_length (Nat.le_of_lt hj)]
    · constructor
      · rw [List.getElem?_concat_length]
      · rwa [List.take_left]

private theorem Empties.lt_length {operations : List Operation} {j : Nat} {directory : String}
    (h : Empties operations j directory) : j < operations.length :=
  (List.getElem?_eq_some_iff.1 h.leaves).1

/-- A leave that empties the stack is the last one to do so. -/
theorem emptiedLast_leave {operations : List Operation} {only : String}
    (h : (performed operations).entered = [only]) (directory : String) :
    EmptiedLast (operations ++ [.leave]) directory ↔ only = directory := by
  constructor
  · rintro ⟨j, hempties, hlast⟩
    rcases empties_concat.1 hempties with hbefore | ⟨-, -, hentered⟩
    · exact absurd (empties_concat.2 (.inr ⟨rfl, rfl, h⟩)) (hlast _ hbefore.lt_length only)
    · rw [h] at hentered
      exact List.head_eq_of_cons_eq hentered
  · rintro rfl
    refine ⟨operations.length, empties_concat.2 (.inr ⟨rfl, rfl, h⟩), fun i hi other hother => ?_⟩
    have hlt := hother.lt_length
    rw [List.length_append, List.length_singleton] at hlt
    omega

/-- An operation that does not empty the stack does not change when that was last done. -/
theorem emptiedLast_concat_of_not {operations : List Operation} {next : Operation}
    (h : next = .leave → ∀ only, (performed operations).entered ≠ [only]) (directory : String) :
    EmptiedLast (operations ++ [next]) directory ↔ EmptiedLast operations directory := by
  have hsame (j : Nat) (other : String) :
      Empties (operations ++ [next]) j other ↔ Empties operations j other := by
    rw [empties_concat]
    exact or_iff_left fun ⟨_, hleave, hentered⟩ => h hleave other hentered
  simp only [EmptiedLast, hsame]

/-- Once the stack is empty, the directory in effect is the one that was left when it was last
emptied. -/
theorem latest_performed_eq_some_iff {operations : List Operation}
    (h : (performed operations).entered = []) (directory : String) :
    (performed operations).latest = some directory ↔ EmptiedLast operations directory := by
  induction operations using List.reverseRecOn with
  | nil =>
    constructor
    · intro hlatest
      cases hlatest
    · rintro ⟨_, hempties, _⟩
      cases hempties.leaves
  | append_singleton operations next ih =>
    rw [performed_concat] at h ⊢
    match next with
    | .enter _ => cases h
    | .leave =>
      rw [perform, entered_leave] at h
      rw [perform, latest_leave, h, List.head?_nil, Option.none_or]
      rcases hentered : (performed operations).entered with _ | ⟨only, others⟩
      · rw [emptiedLast_concat_of_not (by simp [hentered]), ih hentered]
      · -- the stack holds one directory, which is in effect and is left
        rw [hentered, List.tail_cons] at h
        subst h
        have htop := @latest_eq_head?_ofMoves (movesFrom {} operations)
        rw [← performed_eq_ofMoves, hentered] at htop
        rw [emptiedLast_leave hentered, htop (List.cons_ne_nil _ _), List.head?_cons,
          Option.some_inj]
    | .orEnter fallback =>
      rw [emptiedLast_concat_of_not (by simp)]
      rw [perform, orEnter] at h ⊢
      split at h
      next hcurrent =>
        rw [if_pos hcurrent]
        exact ih h
      next => cases h

/-! ### Asking again -/

/-- Where a named directory is in effect, asking for it any number of times changes nothing. -/
theorem foldl_perform_orEnter {dirs : DirectoryStack} {directory : String}
    (h : dirs.current? = some directory) (fallbacks : List String) :
    (fallbacks.map .orEnter).foldl perform dirs = dirs := by
  induction fallbacks with
  | nil => rfl
  | cons fallback fallbacks ih =>
    rw [List.map_cons, List.foldl_cons, perform, orEnter_of_current? h, ih]

/-- Where a named directory is in effect, it is what is returned. -/
private theorem answer?_orEnter {dirs : DirectoryStack} {directory : String}
    (h : dirs.current? = some directory) (fallback : String) :
    dirs.answer? (.orEnter fallback) = some directory := by
  rw [answer?, orEnter_of_current? h, name, (current?_eq_some_iff.1 h).1, Option.getD_some]

/-- After a named directory has been entered or given as a fallback, a named directory is in
effect. -/
theorem exists_current?_perform (dirs : DirectoryStack) {next : Operation} {directory : String}
    (hname : directory ≠ "") (h : next = .enter directory ∨ next = .orEnter directory) :
    ∃ inEffect, (dirs.perform next).current? = some inEffect := by
  have hentered : (dirs.enter directory).current? = some directory :=
    current?_eq_some_iff.2 ⟨rfl, hname⟩
  rcases h with rfl | rfl
  · exact ⟨directory, hentered⟩
  · cases hcurrent : dirs.current? with
    | some inEffect =>
      exact ⟨inEffect, by rw [perform, orEnter_of_current? hcurrent, hcurrent]⟩
    | none =>
      refine ⟨directory, ?_⟩
      rw [perform, orEnter, hcurrent]
      exact hentered

/-! ### The history decides -/

/-- The stack holds the directories of the open entries, the latest first. -/
theorem entered_ofMoves_eq_filterMap (moves : List Move) :
    (ofMoves moves).entered = (openPlaces moves).filterMap (entered? moves) := by
  have h := congrArg (List.filterMap id) (entered_ofMoves moves)
  rw [List.filterMap_map, List.filterMap_map] at h
  exact List.filterMap_some.symm.trans h

/-- **The history decides.** After any operations the stack holds the directories that have been
entered and not left, and its depth is the greatest excess of entries over leaves at the end of the
history. The innermost directory is in effect. On an empty stack it is the one that was left when
the stack was last emptied, and there is none only as long as nothing has been entered. After a
named directory has been entered or given as a fallback, asking for the directory in effect returns
it and changes nothing. -/
theorem performed_eq_history (operations : List Operation) :
    let moves := movesFrom {} operations
    let dirs := performed operations
    dirs.entered = (openPlaces moves).filterMap (entered? moves) ∧
    IsGreatest {n : Int | ∃ later, later <:+ moves ∧ n = excess later} dirs.depth ∧
    (dirs.entered ≠ [] → dirs.latest = dirs.entered.head?) ∧
    (dirs.entered = [] → ∀ directory,
      dirs.latest = some directory ↔ EmptiedLast operations directory) ∧
    (dirs.latest = none ↔ ∀ directory, .enter directory ∉ moves) ∧
    ∀ next directory, directory ≠ "" → (next = .enter directory ∨ next = .orEnter directory) →
      ∃ inEffect, (performed (operations ++ [next])).current? = some inEffect ∧
        ∀ fallbacks : List String, performed (operations ++ next :: fallbacks.map .orEnter) =
            performed (operations ++ [next]) ∧
          ∀ fallback, (performed (operations ++ next :: fallbacks.map .orEnter)).answer?
            (.orEnter fallback) = some inEffect := by
  intro moves dirs
  have heq : dirs = ofMoves moves := performed_eq_ofMoves operations
  refine ⟨?_, ?_, ?_, latest_performed_eq_some_iff, ?_, fun next directory hname hnext => ?_⟩
  · rw [heq, entered_ofMoves_eq_filterMap]
  · rw [heq]
    exact isGreatest_depth_ofMoves moves
  · rw [heq]
    exact latest_eq_head?_ofMoves
  · rw [heq, latest_ofMoves_eq_none_iff]
  · obtain ⟨inEffect, hcurrent⟩ := exists_current?_perform dirs hname hnext
    have hnow : (performed (operations ++ [next])).current? = some inEffect := by
      rw [performed_concat, hcurrent]
    have hsame (fallbacks : List String) :
        performed (operations ++ next :: fallbacks.map .orEnter) =
          performed (operations ++ [next]) := by
      rw [List.append_cons, performed, List.foldl_append]
      exact foldl_perform_orEnter hnow fallbacks
    refine ⟨inEffect, hnow, fun fallbacks => ⟨hsame fallbacks, fun fallback => ?_⟩⟩
    rw [hsame]
    exact answer?_orEnter hnow fallback

/-- A stack that has been emptied twice, and asked for a directory afterwards. -/
theorem performed_after_two_builds :
    let operations : List Operation := [.orEnter "/f", .enter "", .leave, .leave, .leave,
      .enter "/b", .leave, .leave]
    (performed operations).entered = [] ∧ (performed operations).latest = some "/b" ∧
      EmptiedLast operations "/b" ∧
      (performed (operations ++ [.enter "/c"])).entered ≠ [] ∧
      (performed (operations ++ [.enter "/c"])).latest = some "/c" ∧
      "/d" ≠ "" ∧
      (performed (operations ++ [.orEnter "/d", .orEnter "", .orEnter "/e"])).answer?
        (.orEnter "/g") = some "/b" := by
  intro operations
  have hempty : (performed operations).entered = [] := by decide
  have hlatest : (performed operations).latest = some "/b" := by decide
  have hmore : (performed (operations ++ [.enter "/c"])).entered ≠ [] := by decide
  obtain ⟨-, -, -, hstale, -, hsettled⟩ := performed_eq_history operations
  obtain ⟨-, -, htop, -⟩ := performed_eq_history (operations ++ [.enter "/c"])
  obtain ⟨inEffect, hcurrent, hagain⟩ := hsettled (.orEnter "/d") "/d" (by decide) (.inr rfl)
  have hsame : inEffect = "/b" := by
    have hb : (performed (operations ++ [.orEnter "/d"])).current? = some "/b" := by decide
    exact Option.some_inj.1 (hcurrent.symm.trans hb)
  subst hsame
  exact ⟨hempty, hlatest, (hstale hempty "/b").1 hlatest, hmore, htop hmore, by decide,
    (hagain ["", "/e"]).2 "/g"⟩

end DirectoryStack

end CompileCommands
