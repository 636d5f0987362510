import ShootMachines.Yaml.Cursor
import ShootMachines.Yaml.Token.Basic

/-!
# Scalars of YAML text

Plain and quoted scalars may run over several lines, which are folded; block scalars keep their lines
or fold them, as their header says.
-/

namespace ShootMachines.Yaml

/-- What stands between two parts of a scalar: blanks on one line, or a first line break and the ones
after it. -/
inductive Gap where
  | blanks (text : List Char)
  | breaks (first others : List Char)

namespace Gap

/-- The gap as it counts for the value of the scalar: a single line break becomes a space, and of
several the first is dropped. -/
def text : Gap → List Char
  | .blanks text => text
  | .breaks first others =>
      if first = ['\n'] then (if others.isEmpty then [' '] else others) else first ++ others

/-- Whether the gap runs over a line break. -/
def breaksLine : Gap → Bool
  | .blanks _ => false
  | .breaks _ _ => true

end Gap

/-- Read blanks and line breaks onto a gap. A tab before the given column of a new line is refused. The
limit of this and the other readers bounds their steps; the length of the text left suffices. -/
def readGap (tabColumn : Int) (limit : Nat) (cursor : Cursor) (gap : Gap) :
    Except Fault (Gap × Cursor) :=
  match limit, cursor.next? with
  | limit + 1, some character =>
      if isSpace character then
        match gap with
        | .blanks text => readGap tabColumn limit (cursor.skip 1) (.blanks (text ++ [character]))
        | .breaks _ _ =>
            if character = '\t' ∧ (cursor.column : Int) < tabColumn then .error .tabIndentation
            else readGap tabColumn limit (cursor.skip 1) gap
      else if isBreak character then
        let (kept, cursor) := cursor.takeBreak
        match gap with
        | .blanks _ => readGap tabColumn limit cursor (.breaks kept [])
        | .breaks first others => readGap tabColumn limit cursor (.breaks first (others ++ kept))
      else .ok (gap, cursor)
  | _, _ => .ok (gap, cursor)

/-- The part of a plain scalar at the front of a line: up to a blank, a colon that ends a key or,
within a flow collection, one of its indicators. -/
def plainPart (inFlow : Bool) : List Char → Except Fault (List Char)
  | [] => .ok []
  | character :: rest =>
      let next := rest.head?
      if isSpace character || isBreak character then .ok []
      else if inFlow && character = ':' && next.any fun c => c = '?' || isFlowIndicator c then
        .error .unexpectedIndicator
      else if character = ':' && separates next then .ok []
      else if inFlow && isFlowIndicator character then .ok []
      else do
        let others ← plainPart inFlow rest
        .ok (character :: others)

/-- The parts of a plain scalar after a gap, onto the characters read so far, the latest first. Also
whether the scalar ends after a line break. -/
def readPlain (inFlow : Bool) (column : Int) (limit : Nat) (cursor : Cursor) (read : List Char)
    (gap : Gap) : Except Fault (List Char × Bool × Cursor) :=
  match limit with
  | 0 => .error .endless
  | limit + 1 => do
      if cursor.atDocumentMarker || cursor.next? = some '#' then
        return (read, gap.breaksLine, cursor)
      let part ← plainPart inFlow cursor.rest
      let read := if part.isEmpty then read else part.reverseAux (gap.text.reverseAux read)
      let gap := if part.isEmpty then gap else .blanks []
      let cursor := cursor.skip part.length
      if cursor.next?.any fun character => isSpace character || isBreak character then
        let (gap, cursor) ← readGap column limit cursor gap
        if !inFlow && (cursor.column : Int) < column then return (read, gap.breaksLine, cursor)
        readPlain inFlow column limit cursor read gap
      else return (read, gap.breaksLine, cursor)

/-- A plain scalar within a block of an indentation. -/
def plainScalar (inFlow : Bool) (indent : Int) (limit : Nat) (cursor : Cursor) :
    Except Fault (Token × Bool × Cursor) := do
  let (text, broken, cursor) ← readPlain inFlow (indent + 1) limit cursor [] (.blanks [])
  return (.scalar .plain (String.ofList text.reverse), broken, cursor)

/-- The value of a hexadecimal digit. -/
def hexValue? (character : Char) : Option Nat :=
  if character.isDigit then some (character.toNat - 48)
  else if 'a' ≤ character ∧ character ≤ 'f' then some (character.toNat - 87)
  else if 'A' ≤ character ∧ character ≤ 'F' then some (character.toNat - 55)
  else none

/-- The character of a number of hexadecimal digits. -/
def hexCharacter (digits : List Char) (count : Nat) : Except Fault Char :=
  match (digits.take count).mapM hexValue? with
  | none => .error .badEscape
  | some values =>
      let code := values.foldl (fun code value => code * 16 + value) 0
      if values.length < count ∨ (0xD800 ≤ code ∧ code ≤ 0xDFFF) ∨ 0x10FFFF < code then
        .error .badEscape
      else .ok (Char.ofNat code)

/-- The character of an escape after its backslash, and the length of the escape. -/
def escapedCharacter : List Char → Except Fault (Char × Nat)
  | [] => .error .badEscape
  | letter :: rest =>
      let short := [('0', 0x0), ('a', 0x7), ('b', 0x8), ('t', 0x9), ('\t', 0x9), ('n', 0xA),
        ('v', 0xB), ('f', 0xC), ('r', 0xD), ('e', 0x1B), (' ', 0x20), ('"', 0x22), ('/', 0x2F),
        ('\\', 0x5C), ('N', 0x85), ('_', 0xA0), ('L', 0x2028), ('P', 0x2029)]
      match short.lookup letter, [('x', 2), ('u', 4), ('U', 8)].lookup letter with
      | some code, _ => .ok (Char.ofNat code, 1)
      | none, some count => (hexCharacter rest count).map fun character => (character, count + 1)
      | none, none => .error .badEscape

/-- The rest of a quoted scalar after its opening quote, onto the characters read so far, the latest
first. -/
def readQuoted (quote : Char) (limit : Nat) (cursor : Cursor) (read : List Char) :
    Except Fault (List Char × Cursor) :=
  match limit with
  | 0 => .error .endless
  | limit + 1 =>
      if cursor.atDocumentMarker then .error .unexpectedIndicator
      else
        match cursor.rest with
        | [] => .error .unclosedQuote
        | character :: rest => do
            if character = quote then
              if quote = '\'' && rest.head? = some '\'' then
                readQuoted quote limit (cursor.skip 2) ('\'' :: read)
              else return (read, cursor.skip 1)
            else if quote = '"' && character = '\\' then
              if rest.head?.any isBreak then
                let (gap, cursor) ← readGap 0 limit (cursor.skip 1).skipBreak (.breaks [] [])
                readQuoted quote limit cursor (gap.text.reverseAux read)
              else
                let (character, length) ← escapedCharacter rest
                readQuoted quote limit (cursor.skip (length + 1)) (character :: read)
            else if isSpace character || isBreak character then
              let (gap, cursor) ← readGap 0 (limit + 1) cursor (.blanks [])
              readQuoted quote limit cursor (gap.text.reverseAux read)
            else readQuoted quote limit (cursor.skip 1) (character :: read)

/-- A quoted scalar. -/
def quotedScalar (quote : Char) (limit : Nat) (cursor : Cursor) : Except Fault (Token × Cursor) := do
  let (text, cursor) ← readQuoted quote limit (cursor.skip 1) []
  return (.scalar .quoted (String.ofList text.reverse), cursor)

/-- What becomes of the line breaks at the end of a block scalar. -/
inductive Chomping where
  | strip
  | clip
  | keep
  deriving DecidableEq

/-- The chomping and the indentation of a block scalar, in either order. -/
def readBlockHeader (cursor : Cursor) : Except Fault (Chomping × Option Nat × Cursor) := do
  let chomping? (cursor : Cursor) : Option Chomping × Cursor :=
    match cursor.next? with
    | some '+' => (some .keep, cursor.skip 1)
    | some '-' => (some .strip, cursor.skip 1)
    | _ => (none, cursor)
  let increment? (cursor : Cursor) : Except Fault (Option Nat × Cursor) :=
    match cursor.next? with
    | some digit =>
        if digit = '0' then .error .badHeader
        else if digit.isDigit then .ok (some (digit.toNat - 48), cursor.skip 1)
        else .ok (none, cursor)
    | none => .ok (none, cursor)
  let (before, cursor) := chomping? cursor
  let (increment, cursor) ← increment? cursor
  let (after, cursor) := if before.isNone && increment.isSome then chomping? cursor else (none, cursor)
  let cursor := cursor.skipWhile isSpace
  let cursor :=
    if cursor.next? = some '#' then cursor.skipWhile fun character => !isBreak character else cursor
  if !endsLine cursor.next? then .error .badHeader
  else return ((before.or after).getD .clip, increment, cursor.skipBreak)

/-- The empty lines and the indentation in front of a line of a block scalar: their line breaks, and
the greatest column that was reached. The indentation zero means that it is not known yet. -/
def readIndentation (indent : Nat) (limit : Nat) (cursor : Cursor) (breaks : List Char)
    (deepest : Nat) : Except Fault (List Char × Nat × Cursor) :=
  match limit with
  | 0 => .error .endless
  | limit + 1 =>
      let spaces := (cursor.rest.takeWhile (· = ' ')).length
      let cursor := cursor.skip (if indent = 0 then spaces else min spaces (indent - cursor.column))
      let deepest := max deepest cursor.column
      if (indent = 0 ∨ cursor.column < indent) ∧ cursor.next? = some '\t' then .error .tabIndentation
      else if cursor.next?.any isBreak then
        let (kept, cursor) := cursor.takeBreak
        readIndentation indent limit cursor (breaks ++ kept) deepest
      else .ok (breaks, deepest, cursor)

/-- The lines of a block scalar read so far. -/
structure BlockText where
  /-- Their characters, the latest first. -/
  reversed : List Char := []
  /-- The line break after the last line. -/
  lastBreak : List Char := []
  /-- The line breaks of the empty lines after it. -/
  emptyLines : List Char := []
  /-- Whether the last line started with a blank. -/
  indented : Bool := false

/-- Read the lines of a block scalar at its indentation. -/
def readBlockLines (folded : Bool) (indent : Nat) (limit : Nat) (cursor : Cursor)
    (block : BlockText) : Except Fault (BlockText × Cursor) :=
  match limit, cursor.next? with
  | 0, _ => .error .endless
  | _ + 1, none => .ok (block, cursor)
  | limit + 1, some first => do
      if cursor.column ≠ indent then return (block, cursor)
      let folds := folded && block.lastBreak = ['\n'] && !block.indented && !isSpace first
      let join :=
        if folds then (if block.emptyLines.isEmpty then [' '] else block.emptyLines)
        else block.lastBreak ++ block.emptyLines
      let (line, cursor) := cursor.takeWhile fun character => !isBreak character
      let (lastBreak, cursor) := cursor.takeBreak
      let (emptyLines, _, cursor) ← readIndentation indent limit cursor [] 0
      readBlockLines folded indent limit cursor
        ⟨line.reverseAux (join.reverseAux block.reversed), lastBreak, emptyLines, isSpace first⟩

/-- A block scalar within a block of an indentation. -/
def blockScalar (folded : Bool) (parent : Int) (limit : Nat) (cursor : Cursor) :
    Except Fault (Token × Cursor) := do
  let (chomping, increment, cursor) ← readBlockHeader (cursor.skip 1)
  let known := increment.elim 0 fun count => (max parent 0).toNat + count
  let (emptyLines, deepest, cursor) ← readIndentation known limit cursor [] 0
  let indent := if known = 0 then max deepest (max (parent + 1) 1).toNat else known
  let (block, cursor) ← readBlockLines folded indent limit cursor ⟨[], [], emptyLines, false⟩
  let tail := match chomping with
    | .strip => []
    | .clip => block.lastBreak
    | .keep => block.lastBreak ++ block.emptyLines
  let text := String.ofList (block.reversed.reverse ++ tail)
  return (.scalar (if folded then .folded else .literal) text, cursor)

end ShootMachines.Yaml
