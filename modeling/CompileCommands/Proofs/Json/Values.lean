import CompileCommands.Json.Value

/-!
# The tokens of a value

Every value has a sequence of tokens that makes it up, and reading these tokens one after the other
ends with the value, whatever arrays and objects are open around it.

## Main definitions

* `Json.Value.tokens`: the tokens of a value.

## Main results

* `Json.Value.foldlM_step_tokens`: what reading the tokens of a value leads to.
* `Json.Value.ofTokens?_tokens`: a value is made up by its tokens.
-/

namespace CompileCommands.Json.Value

mutual

/-- The tokens of a value. -/
def tokens : Value → List Token
  | .null => [.null]
  | .bool truth => [.bool truth]
  | .number written => [.number written]
  | .text pieces => [.text pieces]
  | .array [] => [.openArray, .closeArray]
  | .array (first :: rest) => .openArray :: tokens first ++ laterItems rest ++ [.closeArray]
  | .object [] => [.openObject, .closeObject]
  | .object ((name, first) :: rest) =>
    .openObject :: .text name :: .colon :: tokens first ++ laterMembers rest ++ [.closeObject]

/-- The tokens of the items of an array behind its first one, with the commas before them. -/
def laterItems : List Value → List Token
  | [] => []
  | item :: rest => .comma :: tokens item ++ laterItems rest

/-- The tokens of the members of an object behind its first one, with the commas before them. -/
def laterMembers : List (List Piece × Value) → List Token
  | [] => []
  | (name, member) :: rest =>
    .comma :: .text name :: .colon :: tokens member ++ laterMembers rest

end

/-- The first item of an array is read as any other value. -/
private theorem foldlM_step_firstItem (first : Value) (frames : List Frame) (rest : List Token) :
    (first.tokens ++ rest).foldlM State.step (.firstItem frames) =
      (first.tokens ++ rest).foldlM State.step (.value (.array [] :: frames)) := by
  fun_cases tokens first
  all_goals rfl

mutual

/-- Reading the tokens of a value ends behind it. -/
theorem foldlM_step_tokens (value : Value) (frames : List Frame) :
    value.tokens.foldlM State.step (.value frames) = some (.after value frames) := by
  match value with
  | .null | .bool _ | .number _ | .text _ => rfl
  | .array [] => rfl
  | .array (first :: rest) =>
    rw [tokens, List.append_assoc, List.cons_append, List.foldlM_cons]
    show (first.tokens ++ (laterItems rest ++ [Token.closeArray])).foldlM State.step
      (.firstItem frames) = _
    rw [foldlM_step_firstItem, List.foldlM_append, foldlM_step_tokens first]
    exact foldlM_step_laterItems rest [] first frames
  | .object [] => rfl
  | .object ((name, first) :: rest) =>
    rw [tokens, List.append_assoc]
    show (first.tokens ++ (laterMembers rest ++ [Token.closeObject])).foldlM State.step
      (.value (.object [] name :: frames)) = _
    rw [List.foldlM_append, foldlM_step_tokens first]
    exact foldlM_step_laterMembers rest [] name first frames

/-- Reading the later items of an array, and its end, ends behind the array. -/
theorem foldlM_step_laterItems (rest before : List Value) (item : Value) (frames : List Frame) :
    (laterItems rest ++ [Token.closeArray]).foldlM State.step
        (.after item (.array before :: frames)) =
      some (.after (.array (before.reverse ++ item :: rest)) frames) := by
  match rest with
  | [] =>
    show some (State.after (.array (item :: before).reverse) frames) = _
    rw [List.reverse_cons]
  | next :: rest =>
    rw [laterItems, List.append_assoc]
    show (next.tokens ++ (laterItems rest ++ [Token.closeArray])).foldlM State.step
      (.value (.array (item :: before) :: frames)) = _
    rw [List.foldlM_append, foldlM_step_tokens next]
    show (laterItems rest ++ [Token.closeArray]).foldlM State.step
      (.after next (.array (item :: before) :: frames)) = _
    rw [foldlM_step_laterItems rest, List.reverse_cons, List.append_assoc]
    rfl

/-- Reading the later members of an object, and its end, ends behind the object. -/
theorem foldlM_step_laterMembers (rest before : List (List Piece × Value)) (name : List Piece)
    (member : Value) (frames : List Frame) :
    (laterMembers rest ++ [Token.closeObject]).foldlM State.step
        (.after member (.object before name :: frames)) =
      some (.after (.object (before.reverse ++ (name, member) :: rest)) frames) := by
  match rest with
  | [] =>
    show some (State.after (.object ((name, member) :: before).reverse) frames) = _
    rw [List.reverse_cons]
  | (key, next) :: rest =>
    rw [laterMembers, List.append_assoc]
    show (next.tokens ++ (laterMembers rest ++ [Token.closeObject])).foldlM State.step
      (.value (.object ((name, member) :: before) key :: frames)) = _
    rw [List.foldlM_append, foldlM_step_tokens next]
    show (laterMembers rest ++ [Token.closeObject]).foldlM State.step
      (.after next (.object ((name, member) :: before) key :: frames)) = _
    rw [foldlM_step_laterMembers rest, List.reverse_cons, List.append_assoc]
    rfl

end

/-- A value is made up by its tokens. -/
theorem ofTokens?_tokens (value : Value) : ofTokens? value.tokens = some value := by
  rw [ofTokens?, foldlM_step_tokens]
  rfl

end CompileCommands.Json.Value
