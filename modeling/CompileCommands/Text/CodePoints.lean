/-!
# Sets of code points

The character classes of this library that reach beyond ASCII are unions of ranges of code
points. This file gives such a union as a list of closed ranges and says when a character
belongs to it. The classes themselves are `CompileCommands.Text.Blank`,
`CompileCommands.Text.WordChar`, `CompileCommands.Text.DecimalDigit`,
`CompileCommands.Text.Alphanumeric` and `CompileCommands.Text.Printable`.

## Main definitions

* `CodePoints`: a list of closed ranges.
* `CodePoints.contains`: membership of a character.
-/

namespace CompileCommands.Text

/-- A set of code points as closed ranges, each a least and a greatest member. -/
structure CodePoints where
  /-- The ranges, in ascending order and apart from each other. -/
  ranges : List (Nat × Nat)

namespace CodePoints

/-- A character belongs to the set when its code point lies in one of the ranges. -/
def contains (s : CodePoints) (c : Char) : Bool :=
  s.ranges.any fun range => range.1 ≤ c.toNat && c.toNat ≤ range.2

/-- Membership is the existence of a range that holds the code point. -/
theorem contains_iff {s : CodePoints} {c : Char} :
    s.contains c = true ↔ ∃ range ∈ s.ranges, range.1 ≤ c.toNat ∧ c.toNat ≤ range.2 := by
  simp [contains]

end CodePoints

end CompileCommands.Text
