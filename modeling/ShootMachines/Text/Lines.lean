/-!
# Lines

A text is a sequence of lines with line feeds between them; a text without a line feed is one line.
-/

namespace ShootMachines

/-- The lines of a text. -/
def splitLines : List Char → List (List Char)
  | [] => [[]]
  | '\n' :: rest => [] :: splitLines rest
  | character :: rest =>
      match splitLines rest with
      | [] => [[character]]
      | line :: lines => (character :: line) :: lines

/-- The lines of a text, as texts. -/
def linesOf (text : String) : List String :=
  (splitLines text.toList).map String.ofList

end ShootMachines
