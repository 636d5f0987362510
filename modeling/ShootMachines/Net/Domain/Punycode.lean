import ShootMachines.Document.Payload

/-!
# Punycode

Punycode writes a label with characters above ASCII in ASCII: first the ASCII characters of the label,
then for each other character, in ascending order, how far to go on in code points and positions
until it is put in. These distances are numbers to base 36, least digit first, whose ends are marked
by digits below a threshold. The threshold follows the distances read so far.
-/

namespace ShootMachines.Net.Punycode

/-- The value of a digit. -/
def digit? (character : Char) : Option Nat :=
  if character.isLower then some (character.toNat - 97)
  else if character.isDigit then some (character.toNat - 22)
  else none

/-- The threshold of the digit at a multiple of 36. -/
def threshold (position bias : Nat) : Nat :=
  if position ≤ bias then 1 else min (position - bias) 26

/-- Divide a distance by 35 until it is at most 455, counting the divisions in steps of 36. -/
def scale (distance steps : Nat) : Nat × Nat :=
  if 455 < distance then scale (distance / 35) (steps + 36) else (distance, steps)
termination_by distance
decreasing_by exact Nat.div_lt_self (by omega) (by omega)

/-- The bias after a distance in a label of so many characters. -/
def adapt (distance count : Nat) (first : Bool) : Nat :=
  let damped := if first then distance / 700 else distance / 2
  let (scaled, steps) := scale (damped + damped / count) 0
  steps + 36 * scaled / (scaled + 38)

/-- Add the number in front of a text to a sum, and give the rest. Weights fit 32 bits. -/
def number? (bias : Nat) : (text : List Char) → (position weight sum : Nat) →
    Option (Nat × List Char)
  | [], _, _, _ => none
  | character :: rest, position, weight, sum =>
      match digit? character with
      | none => none
      | some digit =>
          let threshold := threshold position bias
          if digit < threshold then some (sum + digit * weight, rest)
          else if 0x100000000 ≤ weight * (36 - threshold) then none
          else number? bias rest (position + 36) (weight * (36 - threshold)) (sum + digit * weight)

/-- A number takes at least one digit. -/
theorem length_of_number? {bias : Nat} {text : List Char} {position weight sum total : Nat}
    {rest : List Char} (read : number? bias text position weight sum = some (total, rest)) :
    rest.length < text.length := by
  induction text generalizing position weight sum with
  | nil => simp [number?] at read
  | cons character others ih =>
      unfold number? at read
      split at read
      · simp at read
      · simp only at read
        split at read
        · simp only [Option.some.injEq, Prod.mk.injEq] at read
          simp [← read.2]
        · split at read
          · simp at read
          · exact Nat.lt_succ_of_lt (ih read)

/-- Put characters into a label as the distances of a text say. -/
def insertAll? (bias code position : Nat) (label : List Char) (text : List Char) :
    Option (List Char) :=
  if text.isEmpty then some label
  else
    match _read : number? bias text 36 1 position with
    | none => none
    | some (total, rest) =>
        let count := label.length + 1
        let code := code + total / count
        let place := total % count
        if code < 0xD800 || (0xDFFF < code && code < 0x110000) then
          insertAll? (adapt (total - position) count (position = 0))
            code (place + 1) (label.take place ++ Char.ofNat code :: label.drop place) rest
        else none
termination_by text.length
decreasing_by exact length_of_number? _read

/-- The label that a text without capitals writes. -/
def decode? (text : List Char) : Option (List Char) :=
  let basic := ((text.reverse.dropWhile (· ≠ '-')).drop 1).reverse
  let distances := (text.reverse.takeWhile (· ≠ '-')).reverse
  insertAll? 72 128 0 basic distances

end ShootMachines.Net.Punycode
