import ShootMachines.Net.Domain.Character
import ShootMachines.Net.Domain.Composition
import ShootMachines.Net.Domain.Punycode
import ShootMachines.Text.Utf8

/-!
# Internationalized domains

A domain is read as labels. Its characters are folded first; a label that starts with `xn--` writes
another one in Punycode. Labels may not start with a mark, joiners need fitting neighbours, and a
domain with letters from right to left keeps to the rules for mixed directions. Hyphens and lengths
are not checked.
-/

namespace ShootMachines.Net.Domain

/-- Whether a character of ASCII is refused in domains: controls, blanks and the delimiters of
URLs. -/
def refusesAscii (character : Char) : Bool :=
  character.toNat ≤ 0x20 || character.toNat = 0x7F ||
    ['%', '#', '/', ':', '<', '>', '?', '@', '[', '\\', ']', '^', '|'].contains character

/-- What a character of a domain is read as. -/
def readCharacter (character : Char) : Option (List Char) :=
  if character.toNat < 0x80 then
    if refusesAscii character then none else some [character.toLower]
  else if refused.contains character.toNat then none
  else if ignored.contains character.toNat then some []
  else some ((fold? character).getD [character])

/-- Whether a decoded character is one that stands for itself. -/
def isPlain (character : Char) : Bool :=
  if character.toNat < 0x80 then
    !refusesAscii character && character ≠ '.' && !character.isUpper
  else
    !refused.contains character.toNat && !ignored.contains character.toNat &&
      !mapped.contains character.toNat

/-- The greatest number of characters of a label in Punycode. -/
def greatestEncodedLength : Nat := 2000

/-- The greatest number of characters of a label that is no ASCII. -/
def greatestDecodedLength : Nat := 1000

/-- The label that Punycode stands for. Something has to be decoded, and it has to be the one way to
write the label. -/
def decodeLabel? (text : List Char) : Option (List Char) := do
  if text.isEmpty || text.getLast? = some '-' || greatestEncodedLength < text.length ||
      text.any (0x80 ≤ ·.toNat) then
    none
  else
    let label ← Punycode.decode? text
    if label.all isPlain && isComposed label then some label else none

/-- The label that a folded label stands for. -/
def resolveLabel? (label : List Char) : Option (List Char) :=
  match label with
  | 'x' :: 'n' :: '-' :: '-' :: text => decodeLabel? text
  | other => some other

/-- Whether the nearest character that matters for joining is in a set. -/
def joinsWith (set : CodePointSet) : List Char → Bool
  | [] => false
  | character :: rest =>
      if transparent.contains character.toNat then joinsWith set rest
      else set.contains character.toNat

/-- Whether a joiner may stand between the characters before it, nearest first, and those after it. -/
def joinerFits (joiner : Char) (before after : List Char) : Bool :=
  before.head?.any (fun character => viramas.contains character.toNat) ||
    (joiner.toNat = 0x200C && joinsWith joinsAfter before && joinsWith joinsBefore after)

/-- Whether the joiners of a label fit, after the characters before it. -/
def joinersFit (before : List Char) : List Char → Bool
  | [] => true
  | character :: rest =>
      ((character.toNat ≠ 0x200C && character.toNat ≠ 0x200D) || joinerFits character before rest) &&
        joinersFit (character :: before) rest

/-- Whether a label is well-formed by itself. -/
def isWellFormed (label : List Char) : Bool :=
  !label.head?.any (fun character => marks.contains character.toNat) && joinersFit [] label &&
    (label.length ≤ greatestDecodedLength || label.all (·.toNat < 0x80))

/-- The direction of a character. -/
inductive Direction where
  | leftToRight
  | rightToLeft
  | arabicNumber
  | europeanNumber
  | nonspacing
  | neutral
  deriving DecidableEq, Repr

/-- The direction of a character of a label. -/
def direction (character : Char) : Direction :=
  let code := character.toNat
  if code < 0x80 then
    if character.isAlpha then .leftToRight
    else if character.isDigit then .europeanNumber
    else .neutral
  else if rightToLeft.contains code then .rightToLeft
  else if arabicNumbers.contains code then .arabicNumber
  else if europeanNumbers.contains code then .europeanNumber
  else if nonspacing.contains code then .nonspacing
  else if neutral.contains code then .neutral
  else .leftToRight

/-- Whether a label holds something that is written from right to left. -/
def runsRightToLeft (label : List Char) : Bool :=
  label.any fun character =>
    direction character = .rightToLeft || direction character = .arabicNumber

/-- Whether a label keeps to the rules for mixed directions: it starts with a letter, letters go one
way, it ends with a letter or a digit up to marks, and numbers are of one kind. -/
def keepsDirection (label : List Char) : Bool :=
  match label.map direction with
  | [] => true
  | first :: rest =>
      match first, (rest.reverse.dropWhile (· = .nonspacing)) with
      | .leftToRight, [] => true
      | .rightToLeft, [] => true
      | .leftToRight, last :: middle =>
          (last = .leftToRight || last = .europeanNumber) &&
            middle.all fun part => part ≠ .rightToLeft && part ≠ .arabicNumber
      | .rightToLeft, last :: middle =>
          last ≠ .leftToRight && last ≠ .neutral && middle.all (· ≠ .leftToRight) &&
            !((last :: middle).contains .arabicNumber && (last :: middle).contains .europeanNumber)
      | _, _ => false

/-- The labels of a domain, if the domain is acceptable. -/
def labels? (bytes : Bytes) : Option (List (List Char)) := do
  let text ← Utf8.decode? bytes
  let folded ← text.toList.mapM readCharacter
  let labels ← (folded.flatten.splitOn '.').mapM resolveLabel?
  if labels.all isWellFormed && (!labels.any runsRightToLeft || labels.all keepsDirection) then
    some labels
  else none

end ShootMachines.Net.Domain
