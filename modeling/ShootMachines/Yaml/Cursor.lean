import ShootMachines.Yaml.Character

/-!
# Positions in YAML text

Layout matters in YAML: a cursor knows the line and the column of the text that is left.
-/

namespace ShootMachines.Yaml

/-- Why a text is no YAML document. -/
inductive Fault where
  | disallowed
  | lostKey
  | badDirective
  | badAnchor
  | badTag
  | badEscape
  | badHeader
  | tabIndentation
  | unexpectedIndicator
  | unclosedQuote
  | misplacedEntry
  | misplacedKey
  | misplacedValue
  | cannotStart (character : Char)
  | unexpectedToken
  | unknownHandle
  | unknownAnchor
  | endless
  deriving DecidableEq, Repr

/-- The fault in words. -/
def Fault.reason : Fault → String
  | .disallowed => "control characters are not allowed"
  | .lostKey => "could not find the colon of a key"
  | .badDirective => "invalid directive"
  | .badAnchor => "invalid anchor or alias"
  | .badTag => "invalid tag"
  | .badEscape => "invalid escape in a quoted scalar"
  | .badHeader => "invalid header of a block scalar"
  | .tabIndentation => "a tab stands where indentation is expected"
  | .unexpectedIndicator => "unexpected indicator"
  | .unclosedQuote => "unexpected end of a quoted scalar"
  | .misplacedEntry => "block sequence entries are not allowed here"
  | .misplacedKey => "mapping keys are not allowed here"
  | .misplacedValue => "mapping values are not allowed here"
  | .cannotStart character => character.toString ++ " cannot start a token"
  | .unexpectedToken => "unexpected token"
  | .unknownHandle => "undefined tag handle"
  | .unknownAnchor => "unknown anchor"
  | .endless => "the text does not end"

/-- The text that is left, and where it starts. -/
structure Cursor where
  rest : List Char
  index : Nat := 0
  line : Nat := 0
  column : Nat := 0

namespace Cursor

/-- The next character. -/
def next? (cursor : Cursor) : Option Char :=
  cursor.rest.head?

/-- The character after a number of others. -/
def ahead? (cursor : Cursor) (count : Nat) : Option Char :=
  cursor.rest[count]?

/-- The cursor after a number of characters of one line. -/
def skip (cursor : Cursor) (count : Nat) : Cursor :=
  ⟨cursor.rest.drop count, cursor.index + count, cursor.line, cursor.column + count⟩

/-- The characters of a class at the front, and the cursor after them. -/
def takeWhile (cursor : Cursor) (belongs : Char → Bool) : List Char × Cursor :=
  let taken := cursor.rest.takeWhile belongs
  (taken, cursor.skip taken.length)

/-- The cursor after the characters of a class. -/
def skipWhile (cursor : Cursor) (belongs : Char → Bool) : Cursor :=
  (cursor.takeWhile belongs).2

/-- The line break at the front, as it is kept, and the cursor on the next line. The usual line
breaks all become a line feed. -/
def takeBreak (cursor : Cursor) : List Char × Cursor :=
  match cursor.rest with
  | '\r' :: '\n' :: rest => (['\n'], ⟨rest, cursor.index + 2, cursor.line + 1, 0⟩)
  | character :: rest =>
      let kept := if character.toNat = 0x2028 || character.toNat = 0x2029 then character else '\n'
      ([kept], ⟨rest, cursor.index + 1, cursor.line + 1, 0⟩)
  | [] => ([], cursor)

/-- The cursor after the line break at the front. -/
def skipBreak (cursor : Cursor) : Cursor :=
  cursor.takeBreak.2

/-- Whether three equal marks stand alone at the start of a line. -/
def atMarker (cursor : Cursor) (mark : Char) : Bool :=
  cursor.column = 0 && cursor.rest.take 3 = [mark, mark, mark] && separates (cursor.ahead? 3)

/-- Whether a document starts or ends here. -/
def atDocumentMarker (cursor : Cursor) : Bool :=
  cursor.atMarker '-' || cursor.atMarker '.'

end Cursor

end ShootMachines.Yaml
