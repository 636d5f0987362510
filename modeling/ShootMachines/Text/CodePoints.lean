/-!
# Sets of code points

A set of code points is a list of ranges. Long sets are written as text: each range is the gap from
the end of the range before it and, after a point, by how much the range exceeds a single code
point, both to base 36.
-/

namespace ShootMachines

/-- A set of code points as ranges of a first and a last member, ascending. -/
structure CodePointSet where
  ranges : List (Nat × Nat)

namespace CodePointSet

/-- Whether a code point lies in a range of the set. -/
def contains (set : CodePointSet) (code : Nat) : Bool :=
  set.ranges.any fun range => range.1 ≤ code && code ≤ range.2

/-- The value of a digit to base 36. -/
def digitValue (character : Char) : Nat :=
  if character.toNat < 58 then character.toNat - 48 else character.toNat - 87

/-- The value of a number to base 36. -/
def number (digits : List Char) : Nat :=
  digits.foldl (fun value digit => value * 36 + digitValue digit) 0

/-- The blank-separated words of a text. -/
def words (text : String) : List (List Char) :=
  let step (character : Char) (state : List Char × List (List Char)) :=
    if character = ' ' then ([], if state.1.isEmpty then state.2 else state.1 :: state.2)
    else (character :: state.1, state.2)
  let (word, others) := text.toList.foldr step ([], [])
  if word.isEmpty then others else word :: others

/-- The set that the lines of a table stand for. -/
def ofTable (lines : List String) : CodePointSet :=
  let step (state : Nat × List (Nat × Nat)) (word : List Char) :=
    let first := state.1 + number (word.takeWhile (· ≠ '.'))
    let last := first + number ((word.dropWhile (· ≠ '.')).drop 1)
    (last, (first, last) :: state.2)
  ⟨((lines.flatMap words).foldl step (0, [])).2.reverse⟩

end CodePointSet

end ShootMachines
