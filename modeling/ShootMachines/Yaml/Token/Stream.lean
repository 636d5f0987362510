import ShootMachines.Yaml.Token.Property

/-!
# The tokens of a YAML text

Indentation opens and closes block collections, and a node turns out to be a key only when its colon
comes: the marks of the key, and of the mapping that the key starts, are then put in front of the
node. A key stands on one line and is at most 1024 characters long.
-/

namespace ShootMachines.Yaml

/-- A node that may turn out to be a key. -/
structure PossibleKey where
  /-- The number of tokens in front of the node. -/
  position : Nat
  /-- Whether the layout makes sense only if it is one. -/
  required : Bool
  index : Nat
  line : Nat
  column : Nat

/-- What has been read of a text. -/
structure TokenStream where
  cursor : Cursor
  /-- The tokens so far, the latest first, and their number. -/
  tokens : List Token := []
  count : Nat := 0
  /-- The column of the innermost open block, and of the blocks around it. -/
  indent : Int := -1
  outerIndents : List Int := []
  /-- The number of open flow collections. -/
  flowDepth : Nat := 0
  keyAllowed : Bool := true
  /-- The possible key of the innermost collection, and of the flow collections around it. -/
  possible : Option PossibleKey := none
  outerPossible : List (Option PossibleKey) := []

namespace TokenStream

/-- Add a token. -/
def add (stream : TokenStream) (token : Token) : TokenStream :=
  { stream with tokens := token :: stream.tokens, count := stream.count + 1 }

/-- Put a token after the first so many tokens. -/
def addAt (stream : TokenStream) (position : Nat) (token : Token) : TokenStream :=
  let later := stream.count - position
  { stream with
    tokens := stream.tokens.take later ++ token :: stream.tokens.drop later
    count := stream.count + 1 }

/-- Move on by a number of characters of one line. -/
def skip (stream : TokenStream) (count : Nat) : TokenStream :=
  { stream with cursor := stream.cursor.skip count }

/-- Whether block layout counts. -/
def inBlock (stream : TokenStream) : Bool :=
  stream.flowDepth = 0

/-- Close the blocks that are indented beyond a column. -/
def closeBlocks (stream : TokenStream) (column : Int) : TokenStream :=
  if !stream.inBlock then stream
  else
    let indents := stream.indent :: stream.outerIndents
    let closed := (indents.takeWhile fun indent => column < indent).length
    match indents.drop closed with
    | indent :: outer =>
        { stream with
          tokens := List.replicate closed .blockEnd ++ stream.tokens
          count := stream.count + closed
          indent := indent
          outerIndents := outer }
    | [] => stream

/-- Open a block at a column, unless one is open there, with its first token after so many others. -/
def openBlock (stream : TokenStream) (column : Int) (position : Nat) (token : Token) : TokenStream :=
  if stream.inBlock && stream.indent < column then
    { stream.addAt position token with
      indent := column
      outerIndents := stream.indent :: stream.outerIndents }
  else stream

/-- Give up the possible key of the innermost collection. -/
def dropKey (stream : TokenStream) : Except Fault TokenStream :=
  match stream.possible with
  | some key => if key.required then .error .lostKey else .ok { stream with possible := none }
  | none => .ok stream

/-- Note that the coming node may be a key. -/
def saveKey (stream : TokenStream) : Except Fault TokenStream :=
  if !stream.keyAllowed then .ok stream
  else do
    let required := stream.inBlock && stream.indent = stream.cursor.column
    let stream ← stream.dropKey
    return { stream with
      possible := some ⟨stream.count, required, stream.cursor.index, stream.cursor.line,
        stream.cursor.column⟩ }

/-- Give up a possible key whose colon can no longer come. -/
def refreshKey (cursor : Cursor) : Option PossibleKey → Except Fault (Option PossibleKey)
  | none => .ok none
  | some key =>
      if key.line < cursor.line ∨ key.index + 1024 < cursor.index then
        if key.required then .error .lostKey else .ok none
      else .ok (some key)

/-- Give up all possible keys whose colon can no longer come. -/
def refreshKeys (stream : TokenStream) : Except Fault TokenStream := do
  let possible ← refreshKey stream.cursor stream.possible
  let outer ← stream.outerPossible.mapM (refreshKey stream.cursor)
  return { stream with possible := possible, outerPossible := outer }

/-- Skip blanks, comments and line breaks up to the next token. -/
def skipToToken (limit : Nat) (stream : TokenStream) : TokenStream :=
  match limit with
  | 0 => stream
  | limit + 1 =>
      let mark := stream.cursor.column = 0 ∧ stream.cursor.next? = some (Char.ofNat 0xFEFF)
      let cursor := if mark then stream.cursor.skip 1 else stream.cursor
      let tabs := !stream.inBlock || !stream.keyAllowed
      let cursor := cursor.skipWhile fun character => character = ' ' || (tabs && character = '\t')
      let cursor :=
        if cursor.next? = some '#' then cursor.skipWhile fun character => !isBreak character
        else cursor
      if cursor.next?.any isBreak then
        skipToToken limit
          { stream with
            cursor := cursor.skipBreak
            keyAllowed := stream.inBlock || stream.keyAllowed }
      else { stream with cursor := cursor }

/-- Open a flow collection. -/
def openFlow (stream : TokenStream) (token : Token) : Except Fault TokenStream := do
  let stream ← stream.saveKey
  return { (stream.skip 1).add token with
    flowDepth := stream.flowDepth + 1
    keyAllowed := true
    possible := none
    outerPossible := stream.possible :: stream.outerPossible }

/-- Close a flow collection. -/
def closeFlow (stream : TokenStream) (token : Token) : Except Fault TokenStream := do
  let stream ← stream.dropKey
  let stream := { (stream.skip 1).add token with keyAllowed := false }
  match stream.outerPossible with
  | possible :: outer =>
      return { stream with
        flowDepth := stream.flowDepth - 1
        possible := possible
        outerPossible := outer }
  | [] => return stream

/-- A comma between the entries of a flow collection. -/
def flowEntry (stream : TokenStream) : Except Fault TokenStream := do
  let stream ← stream.dropKey
  return { (stream.skip 1).add .flowEntry with keyAllowed := true }

/-- A hyphen in front of an entry of a block sequence. -/
def blockEntry (stream : TokenStream) : Except Fault TokenStream := do
  if stream.inBlock && !stream.keyAllowed then throw .misplacedEntry
  let stream := stream.openBlock stream.cursor.column stream.count .blockSequenceStart
  let stream ← stream.dropKey
  return { (stream.skip 1).add .blockEntry with keyAllowed := true }

/-- A question mark in front of a key. -/
def key (stream : TokenStream) : Except Fault TokenStream := do
  if stream.inBlock && !stream.keyAllowed then throw .misplacedKey
  let stream := stream.openBlock stream.cursor.column stream.count .blockMappingStart
  let stream ← stream.dropKey
  return { (stream.skip 1).add .key with keyAllowed := stream.inBlock }

/-- A colon in front of a value. -/
def value (stream : TokenStream) : Except Fault TokenStream := do
  match stream.possible with
  | some possible =>
      let stream := stream.addAt possible.position .key
      let stream := stream.openBlock possible.column possible.position .blockMappingStart
      return { (stream.skip 1).add .value with possible := none, keyAllowed := false }
  | none =>
      if stream.inBlock && !stream.keyAllowed then throw .misplacedValue
      let stream := stream.openBlock stream.cursor.column stream.count .blockMappingStart
      return { (stream.skip 1).add .value with keyAllowed := stream.inBlock }

/-- A token that starts a node. -/
def node (stream : TokenStream) (read : Cursor → Except Fault (Token × Cursor)) :
    Except Fault TokenStream := do
  let stream ← stream.saveKey
  let (token, cursor) ← read stream.cursor
  return { stream.add token with cursor := cursor, keyAllowed := false }

/-- A directive, or the start or the end of a document. -/
def document (stream : TokenStream) (read : Cursor → Except Fault (Token × Cursor)) :
    Except Fault TokenStream := do
  let stream ← (stream.closeBlocks (-1)).dropKey
  let (token, cursor) ← read stream.cursor
  return { stream.add token with cursor := cursor, keyAllowed := false }

/-- A block scalar. -/
def block (stream : TokenStream) (folded : Bool) (limit : Nat) : Except Fault TokenStream := do
  let stream ← stream.dropKey
  let (token, cursor) ← blockScalar folded stream.indent limit stream.cursor
  return { stream.add token with cursor := cursor, keyAllowed := true }

/-- A plain scalar. After one that ends with a line a key may follow. -/
def plain (stream : TokenStream) (limit : Nat) : Except Fault TokenStream := do
  let stream ← stream.saveKey
  let (token, broken, cursor) ← plainScalar (!stream.inBlock) stream.indent limit stream.cursor
  return { stream.add token with cursor := cursor, keyAllowed := broken }

/-- Whether a plain scalar starts with a character, followed by another one. -/
def startsPlain (inFlow : Bool) (first : Char) (second : Option Char) : Bool :=
  !(isSpace first || "-?:,[]\x7b\x7d#&*!|>'\"%@`".toList.contains first) ||
    (first = '-' && !second.any isSpace) ||
    (!inFlow && (first = '?' || first = ':') && !separates second)

/-- Read the token that starts with a character. -/
def readToken (limit : Nat) (stream : TokenStream) (first : Char) : Except Fault TokenStream :=
  let cursor := stream.cursor
  let second := cursor.ahead? 1
  let alone := separates second
  let inFlow := !stream.inBlock
  if cursor.column = 0 ∧ first = '%' then stream.document readDirective
  else if cursor.atMarker '-' then stream.document fun cursor => .ok (.documentStart, cursor.skip 3)
  else if cursor.atMarker '.' then stream.document fun cursor => .ok (.documentEnd, cursor.skip 3)
  else if first = '[' then stream.openFlow .flowSequenceStart
  else if first = '\x7b' then stream.openFlow .flowMappingStart
  else if first = ']' then stream.closeFlow .flowSequenceEnd
  else if first = '\x7d' then stream.closeFlow .flowMappingEnd
  else if first = ',' then stream.flowEntry
  else if first = '-' ∧ alone then stream.blockEntry
  else if first = '?' ∧ (inFlow ∨ alone) then stream.key
  else if first = ':' ∧ (inFlow ∨ alone) then stream.value
  else if first = '*' then
    stream.node fun cursor => (readAnchor cursor).map fun (name, rest) => (.alias name, rest)
  else if first = '&' then
    stream.node fun cursor => (readAnchor cursor).map fun (name, rest) => (.anchor name, rest)
  else if first = '!' then stream.node (readTag inFlow)
  else if first = '|' ∧ stream.inBlock then stream.block false limit
  else if first = '>' ∧ stream.inBlock then stream.block true limit
  else if first = '\'' ∨ first = '"' then stream.node (quotedScalar first limit)
  else if startsPlain inFlow first second then stream.plain limit
  else .error (.cannotStart first)

/-- Read tokens up to the end of the text. Every token takes at least one character. -/
def readAll (limit : Nat) (stream : TokenStream) : Except Fault (List Token) :=
  match limit with
  | 0 => .error .endless
  | limit + 1 => do
      let stream := stream.skipToToken limit
      let stream ← stream.refreshKeys
      let stream := stream.closeBlocks stream.cursor.column
      match stream.cursor.next? with
      | none =>
          let stream ← (stream.closeBlocks (-1)).dropKey
          return stream.tokens.reverse
      | some first =>
          let stream ← stream.readToken limit first
          readAll limit stream

end TokenStream

/-- The tokens of a text. -/
def tokens (text : String) : Except Fault (List Token) :=
  let characters := text.toList
  if characters.all isAllowed then
    TokenStream.readAll (characters.length + 2) { cursor := ⟨characters, 0, 0, 0⟩ }
  else .error .disallowed

end ShootMachines.Yaml
