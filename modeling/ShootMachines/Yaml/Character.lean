/-!
# Characters of YAML text

Which characters a YAML text may hold, and the classes that its tokens are made of.
-/

namespace ShootMachines.Yaml

/-- Whether a character may occur in a YAML text. -/
def isAllowed (character : Char) : Bool :=
  let code := character.toNat
  code = 0x9 || code = 0xA || code = 0xD || (0x20 ≤ code && code ≤ 0x7E) || code = 0x85 ||
    (0xA0 ≤ code && code ≤ 0xD7FF) || (0xE000 ≤ code && code ≤ 0xFFFD) || 0x10000 ≤ code

/-- Carriage return, line feed, next line, line separator and paragraph separator. -/
def isBreak (character : Char) : Bool :=
  character = '\r' || character = '\n' || character.toNat = 0x85 || character.toNat = 0x2028 ||
    character.toNat = 0x2029

/-- Space and tab. -/
def isSpace (character : Char) : Bool :=
  character = ' ' || character = '\t'

/-- ASCII letters and digits, the hyphen and the low line. -/
def isWord (character : Char) : Bool :=
  character.isAlphanum || character = '-' || character = '_'

/-- A line break or the end of the text. -/
def endsLine : Option Char → Bool
  | some character => isBreak character
  | none => true

/-- A space, a tab, a line break or the end of the text. -/
def separates : Option Char → Bool
  | some character => isSpace character || isBreak character
  | none => true

/-- The brackets, braces and the comma of flow collections. -/
def isFlowIndicator (character : Char) : Bool :=
  character = ',' || character = '[' || character = ']' || character = '\x7b' || character = '\x7d'

/-- The characters of a tag. Only a verbatim tag may hold commas and brackets. -/
def isTagCharacter (verbatim : Bool) (character : Char) : Bool :=
  isWord character || ";/?:@&=+$.%!~*'()".toList.contains character ||
    (verbatim && (character = ',' || character = '[' || character = ']'))

end ShootMachines.Yaml
