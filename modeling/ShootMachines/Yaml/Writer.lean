import ShootMachines.Number.Layout
import ShootMachines.Text.Lines
import ShootMachines.Yaml.Value

/-!
# YAML text

A value is written in block style, two columns for every level; the items of a list stand in the
column of the key they belong to. A text is written plainly if it reads back as that text, as a
literal block if it has several lines, and between quotation marks otherwise.
-/

namespace ShootMachines.Yaml

/-! ## Texts -/

/-- How a text is written. -/
inductive TextStyle where
  | plain
  | single
  | double
  | literal
  deriving DecidableEq, Repr

/-- Whether a character may stand for itself in a written text. -/
def isWritable (character : Char) : Bool :=
  let code := character.toNat
  (0x20 ≤ code && code ≤ 0x7E) || (0xA0 ≤ code && code ≤ 0xD7FF && code ≠ 0x2028 && code ≠ 0x2029) ||
    (0xE000 ≤ code && code ≤ 0xFFFD && code ≠ 0xFEFF)

/-- Words that some readers take for a flag, a null or a number. -/
def ambiguousWords : List String :=
  ["y", "yes", "n", "no", "on", "off", "true", "false", "null", "nil", "~", "nan"]

/-- Whether a text without quotation marks could be taken for something other than a text. -/
def isAmbiguous (text : String) : Bool :=
  ambiguousWords.contains (text.map Char.toLower) || isZeroLed text.toList ||
    match plainScalarOf text with
    | .ok (.text _) => false
    | _ => true

/-- Whether a character and the one after it make an indicator at the start of a plain text. -/
def startsIndicator (character : Char) (next : Option Char) : Bool :=
  "#,[]&*!|>'\"%@\x60\x7b\x7d".toList.contains character ||
    ((character = '-' || character = '?' || character = ':') && separates next)

/-- Whether an indicator stands within a plain text: a colon before a blank, or a number sign after
one. -/
def hasIndicator : List Char → Bool
  | [] => false
  | ':' :: rest => separates rest.head? || hasIndicator rest
  | ' ' :: rest => rest.head? = some '#' || hasIndicator rest
  | _ :: rest => hasIndicator rest

/-- Whether a text may stand without quotation marks. -/
def isPlain (text : List Char) : Bool :=
  match text with
  | [] => false
  | first :: rest =>
      !startsIndicator first rest.head? && !hasIndicator text && !"---".toList.isPrefixOf text &&
        !"...".toList.isPrefixOf text && first ≠ ' ' && text.getLast? ≠ some ' '

/-- Whether a text may be a literal block: no line ends in a space. -/
def isLiteral (text : List Char) : Bool :=
  text.all (fun character => isWritable character || character = '\n') &&
    text.getLast? ≠ some ' ' && !hasBlankEnd text
where
  hasBlankEnd : List Char → Bool
    | ' ' :: '\n' :: _ => true
    | _ :: rest => hasBlankEnd rest
    | [] => false

/-- How a text is written. A key stands on one line. -/
def styleOf (isKey : Bool) (text : String) : TextStyle :=
  let characters := text.toList
  if characters.contains '\n' then
    if !isKey && isLiteral characters then .literal else .double
  else if !characters.all isWritable then .double
  else if isAmbiguous text || !isPlain characters then .single
  else .plain

/-- A code point in uppercase hexadecimal digits, after a mark that tells their number. -/
def escapeCode (code : Nat) : List Char :=
  let digits := (Nat.toDigits 16 code).map Char.toUpper
  let (mark, width) := if code < 0x100 then ('x', 2) else if code < 0x10000 then ('u', 4) else ('U', 8)
  '\\' :: mark :: List.replicate (width - digits.length) '0' ++ digits

/-- The short escapes: a character and the mark it is written with. -/
def shortEscapes : List (Nat × Char) :=
  [(0x00, '0'), (0x07, 'a'), (0x08, 'b'), (0x09, 't'), (0x0A, 'n'), (0x0B, 'v'), (0x0C, 'f'),
    (0x0D, 'r'), (0x1B, 'e'), (0x22, '"'), (0x5C, '\\'), (0x85, 'N'), (0x2028, 'L'), (0x2029, 'P')]

/-- A character between double quotation marks. -/
def escapeChar (character : Char) : List Char :=
  match shortEscapes.lookup character.toNat with
  | some mark => ['\\', mark]
  | none => if isWritable character then [character] else escapeCode character.toNat

/-- A text between double quotation marks. -/
def writeDouble (text : String) : String :=
  String.ofList ('"' :: text.toList.flatMap escapeChar ++ ['"'])

/-- A text between single quotation marks, which are doubled within. -/
def writeSingle (text : String) : String :=
  let double (character : Char) : List Char := if character = '\'' then ['\'', '\''] else [character]
  String.ofList ('\'' :: text.toList.flatMap double ++ ['\''])

/-- A line one level deeper. An empty line stays empty. -/
def indentLine (line : String) : String :=
  if line.isEmpty then line else "  " ++ line

/-- The header of a literal block: the indentation if the first line does not show it, and what
becomes of the line feeds at the end. -/
def literalHeader (text : List Char) : String :=
  let depth := if text.head? = some ' ' ∨ text.head? = some '\n' then "2" else ""
  let reversed := text.reverse
  let ending :=
    if reversed.head? ≠ some '\n' then "-"
    else if reversed.tail.head?.getD '\n' = '\n' then "+"
    else ""
  "|" ++ depth ++ ending

/-- A literal block. The line feed at the end of the text is that of the last line. -/
def literalLines (text : List Char) : List String :=
  let lines := splitLines text
  let lines := if text.getLast? = some '\n' then lines.dropLast else lines
  literalHeader text :: lines.map fun line => indentLine (String.ofList line)

/-- The lines of a text. -/
def textLines (isKey : Bool) (text : String) : List String :=
  match styleOf isKey text with
  | .plain => [text]
  | .single => [writeSingle text]
  | .double => [writeDouble text]
  | .literal => literalLines text.toList

/-! ## Values -/

/-- The lines of a scalar. -/
def scalarLines (isKey : Bool) : Scalar → List String
  | .null => ["null"]
  | .flag value => [if value then "true" else "false"]
  | .whole value => [toString value]
  | .binary value => [NumberLayout.document.write value]
  | .infinite negative => [if negative then "-.inf" else ".inf"]
  | .notANumber => [".nan"]
  | .text text => textLines isKey text

/-- The space that a written value takes. -/
inductive Extent where
  /-- It starts on the line of its key. -/
  | line
  /-- A list, below its key. -/
  | items
  /-- A mapping, below its key and one level deeper. -/
  | entries
  deriving DecidableEq, Repr

/-- Lines behind a mark. The further lines of a collection stand one level deeper. -/
def hang (mark : String) (extent : Extent) : List String → List String
  | [] => []
  | first :: rest => (mark ++ first) :: if extent = .line then rest else rest.map indentLine

namespace Value

/-- The space that a value takes. -/
def extent : Value → Extent
  | .scalar _ => .line
  | .list [] => .line
  | .list (_ :: _) => .items
  | .mapping [] => .line
  | .mapping (_ :: _) => .entries
  | .tagged _ content => content.extent

/-- The greatest length of a key that stands before its value on one line. -/
def greatestKeyLength : Nat := 128

/-- A key that stands before its value on one line. -/
def simpleKey? : Value → Option String
  | .scalar value =>
      match scalarLines true value with
      | [line] => if line.utf8ByteSize ≤ greatestKeyLength then some line else none
      | _ => none
  | _ => none

/-- The lines of an entry, from those of its key and of its value. -/
def entryLines (key value : Value) (keyLines valueLines : List String) : List String :=
  match key.simpleKey? with
  | none => hang "? " key.extent keyLines ++ hang ": " value.extent valueLines
  | some key =>
      let below := match value.extent with
        | .entries => valueLines.map indentLine
        | _ => valueLines
      match value, value.extent, valueLines with
      | _, .line, lines => hang (key ++ ": ") .line lines
      | .tagged _ _, .items, tag :: rest => (key ++ ": " ++ tag) :: rest
      | .tagged _ _, .entries, tag :: rest => (key ++ ": " ++ tag) :: rest.map indentLine
      | _, _, _ => (key ++ ":") :: below

mutual

/-- The lines of a value. -/
def lines : Value → List String
  | .scalar value => scalarLines false value
  | .list [] => ["[]"]
  | .list (item :: rest) => itemLines (item :: rest)
  | .mapping [] => ["\x7b\x7d"]
  | .mapping (entry :: rest) => mappingLines (entry :: rest)
  | .tagged tag content =>
      match content.extent with
      | .line => hang ("!" ++ tag ++ " ") .line content.lines
      | _ => ("!" ++ tag) :: content.lines

/-- The lines of the items of a list. -/
def itemLines : List Value → List String
  | [] => []
  | item :: rest => hang "- " item.extent item.lines ++ itemLines rest

/-- The lines of the entries of a mapping. -/
def mappingLines : List (Value × Value) → List String
  | [] => []
  | (key, value) :: rest => entryLines key value key.lines value.lines ++ mappingLines rest

end

/-- The text of a value, one line after the other. -/
def write (value : Value) : String :=
  String.join (value.lines.map fun line => line ++ "\n")

end Value

end ShootMachines.Yaml
