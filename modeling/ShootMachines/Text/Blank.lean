/-!
# Blank characters

The blank characters are those with the White_Space property: the ASCII blanks U+0009 to U+000D and
the space, the next-line control, the no-break spaces and the typographic spaces and separators.
-/

namespace ShootMachines

/-- Whether a character has the White_Space property. -/
def isBlank (character : Char) : Bool :=
  let code := character.toNat
  (0x9 ≤ code && code ≤ 0xD) || code = 0x20 || code = 0x85 || code = 0xA0 || code = 0x1680 ||
    (0x2000 ≤ code && code ≤ 0x200A) || code = 0x2028 || code = 0x2029 || code = 0x202F ||
    code = 0x205F || code = 0x3000

/-- The characters without the blank ones at both ends. -/
def trimChars (text : List Char) : List Char :=
  ((text.dropWhile isBlank).reverse.dropWhile isBlank).reverse

end ShootMachines
