import ShootMachines.Yaml.Token.Stream

/-!
# Nodes of YAML documents

A document is a tree of scalars, sequences and mappings, in which an alias stands for a node that was
given an anchor. Aliases refer to anchors by number, so a tree is finite even where a node contains
an alias of itself.
-/

namespace ShootMachines.Yaml

/-- A node of a document, with its resolved tag if it has one. -/
inductive Node where
  | scalar (tag : Option String) (style : ScalarStyle) (text : String)
  | sequence (tag : Option String) (items : List Node)
  | mapping (tag : Option String) (entries : List (Node × Node))
  | alias (anchor : Nat)
  deriving Inhabited

/-- A node that holds nothing. -/
def Node.empty : Node := .scalar none .plain ""

/-- A document: its outermost node, the nodes with anchors, and how many nodes it has, the ends of
collections counted as well. -/
structure Document where
  root : Node
  anchors : List (Nat × Node)
  size : Nat

/-- What is known while a document is put together. -/
structure Composition where
  /-- The tokens that are left. -/
  tokens : List Token
  /-- The tags that handles stand for. -/
  handles : List (String × String) := []
  /-- The number that the aliases of a name refer to. -/
  names : List (String × Nat) := []
  /-- For every number, the place of its anchor among all anchors; the latest counts. -/
  places : List (Nat × Nat) := []
  /-- The finished nodes with anchors, by their place among all anchors. -/
  finished : List (Nat × Node) := []
  /-- How many anchors there were. -/
  anchorCount : Nat := 0
  size : Nat := 0

/-- A step that reads tokens. -/
abbrev Compose (α : Type) := StateT Composition (Except Fault) α

namespace Compose

/-- The next token. -/
def next? : Compose (Option Token) := do
  return (← get).tokens.head?

/-- Pass over the next token. -/
def skip : Compose Unit :=
  modify fun state => { state with tokens := state.tokens.drop 1 }

/-- Count nodes. -/
def count (nodes : Nat) : Compose Unit :=
  modify fun state => { state with size := state.size + nodes }

/-- Give up on a token that may not stand here. -/
def unexpected : Compose α :=
  throw .unexpectedToken

/-- A node that holds nothing. -/
def empty : Compose Node := do
  count 1
  return .empty

/-- The tag that a handle and a suffix stand for. -/
def resolveTag (handle suffix : String) : Compose String := do
  if handle.isEmpty then return suffix
  match (← get).handles.lookup handle with
  | some start => return start ++ suffix
  | none => throw .unknownHandle

/-- The anchor and the tag in front of a node, in either order. -/
def properties : Compose (Option String × Option String) := do
  let tag? : Compose (Option (String × String)) := do
    match ← next? with
    | some (.tag handle suffix) => skip; return some (handle, suffix)
    | _ => return none
  let anchor? : Compose (Option String) := do
    match ← next? with
    | some (.anchor name) => skip; return some name
    | _ => return none
  let first ← anchor?
  let tag ← tag?
  let second ← if first.isNone && tag.isSome then anchor? else pure none
  let tag ← match tag with
    | some (handle, suffix) => some <$> resolveTag handle suffix
    | none => pure none
  return (first.or second, tag)

/-- Give a node its number before its content is read. A number is the count of names so far, so a
name that is given again can make two names share a number; the later anchor then counts. -/
def register (anchor : Option String) : Compose (Option Nat) := do
  match anchor with
  | none => return none
  | some name =>
      let state ← get
      let number := state.names.length
      let place := state.anchorCount
      set { state with
        names := (name, number) :: state.names.filter (·.1 ≠ name)
        places := (number, place) :: state.places
        anchorCount := place + 1 }
      return some place

/-- Keep a finished node if it has an anchor. -/
def finish (place : Option Nat) (node : Node) : Compose Node := do
  match place with
  | some place => modify fun state => { state with finished := (place, node) :: state.finished }
  | none => pure ()
  return node

/-- Whether the next token is one of those given. -/
def atAny (tokens : List Token) : Compose Bool := do
  match ← next? with
  | some token => return tokens.contains token
  | none => return false

end Compose

open Compose

mutual

/-- A node. Block collections may start only in a block, and a sequence without indentation only as
the value or the key of a block mapping. The limit bounds the number of steps. -/
def composeNode (limit : Nat) (inBlock unindented : Bool) : Compose Node := do
  match limit with
  | 0 => throw .endless
  | limit + 1 =>
    if let some (.alias name) ← next? then
      skip
      count 1
      match (← get).names.lookup name with
      | some number => return .alias number
      | none => throw .unknownAnchor
    let (anchor, tag) ← properties
    match ← next? with
    | some .blockEntry =>
        if !unindented then
          if anchor.isNone && tag.isNone then unexpected
          composeEmpty anchor tag
        else
          let place ← register anchor
          count 2
          let items ← composeUnindented limit
          finish place (.sequence tag items)
    | some (.scalar style text) =>
        let place ← register anchor
        skip
        count 1
        finish place (.scalar (if tag = some "!" then none else tag) style text)
    | some .flowSequenceStart =>
        let place ← register anchor
        count 2
        skip
        let items ← composeFlowItems limit true
        finish place (.sequence tag items)
    | some .flowMappingStart =>
        let place ← register anchor
        count 2
        skip
        let entries ← composeFlowEntries limit true
        finish place (.mapping tag entries)
    | some .blockSequenceStart =>
        if !inBlock then unexpected
        let place ← register anchor
        count 2
        skip
        let items ← composeBlockItems limit
        finish place (.sequence tag items)
    | some .blockMappingStart =>
        if !inBlock then unexpected
        let place ← register anchor
        count 2
        skip
        let entries ← composeBlockEntries limit
        finish place (.mapping tag entries)
    | _ =>
        if anchor.isNone && tag.isNone then unexpected
        composeEmpty anchor tag
where
  /-- A node that has only an anchor or a tag. -/
  composeEmpty (anchor tag : Option String) : Compose Node := do
    let place ← register anchor
    count 1
    finish place (.scalar tag .plain "")

/-- The items of a block sequence. -/
def composeBlockItems (limit : Nat) : Compose (List Node) := do
  match limit with
  | 0 => throw .endless
  | limit + 1 =>
    match ← next? with
    | some .blockEntry =>
        skip
        let item ← if ← atAny [.blockEntry, .blockEnd] then empty else composeNode limit true false
        let others ← composeBlockItems limit
        return item :: others
    | some .blockEnd => skip; return []
    | _ => unexpected

/-- The items of a sequence that is not indented. -/
def composeUnindented (limit : Nat) : Compose (List Node) := do
  match limit with
  | 0 => throw .endless
  | limit + 1 =>
    match ← next? with
    | some .blockEntry =>
        skip
        let item ←
          if ← atAny [.blockEntry, .key, .value, .blockEnd] then empty
          else composeNode limit true false
        let others ← composeUnindented limit
        return item :: others
    | _ => return []

/-- A part of an entry of a block mapping. -/
def composeBlockPart (limit : Nat) : Compose Node := do
  match limit with
  | 0 => throw .endless
  | limit + 1 =>
    skip
    if ← atAny [.key, .value, .blockEnd] then empty else composeNode limit true true

/-- The entries of a block mapping. -/
def composeBlockEntries (limit : Nat) : Compose (List (Node × Node)) := do
  match limit with
  | 0 => throw .endless
  | limit + 1 =>
    match ← next? with
    | some .key =>
        let key ← composeBlockPart limit
        let value ← if ← atAny [.value] then composeBlockPart limit else empty
        let others ← composeBlockEntries limit
        return (key, value) :: others
    | some .blockEnd => skip; return []
    | _ => unexpected

/-- The items of a flow sequence. An item that is marked as a key is a mapping with one entry. -/
def composeFlowItems (limit : Nat) (first : Bool) : Compose (List Node) := do
  match limit with
  | 0 => throw .endless
  | limit + 1 =>
    if ← atAny [.flowSequenceEnd] then
      skip
      return []
    if !first then
      if ← atAny [.flowEntry] then skip else unexpected
    if ← atAny [.flowSequenceEnd] then
      skip
      return []
    let item ←
      if ← atAny [.key] then do
        skip
        count 2
        let key ←
          if ← atAny [.value, .flowEntry, .flowSequenceEnd] then do
            skip
            empty
          else composeNode limit false false
        let value ←
          if ← atAny [.value] then do
            skip
            if ← atAny [.flowEntry, .flowSequenceEnd] then empty
            else composeNode limit false false
          else empty
        pure (Node.mapping none [(key, value)])
      else composeNode limit false false
    let others ← composeFlowItems limit false
    return item :: others

/-- The entries of a flow mapping. -/
def composeFlowEntries (limit : Nat) (first : Bool) : Compose (List (Node × Node)) := do
  match limit with
  | 0 => throw .endless
  | limit + 1 =>
    if ← atAny [.flowMappingEnd] then
      skip
      return []
    if !first then
      if ← atAny [.flowEntry] then skip else unexpected
    if ← atAny [.flowMappingEnd] then
      skip
      return []
    let entry ←
      if ← atAny [.key] then do
        skip
        let key ←
          if ← atAny [.value, .flowEntry, .flowMappingEnd] then empty
          else composeNode limit false false
        let value ←
          if ← atAny [.value] then do
            skip
            if ← atAny [.flowEntry, .flowMappingEnd] then empty
            else composeNode limit false false
          else empty
        pure (key, value)
      else do
        let key ← composeNode limit false false
        let value ← empty
        pure (key, value)
    let others ← composeFlowEntries limit false
    return entry :: others

end

/-- The directives in front of a document: at most one version, 1.1 or 1.2, and no handle twice. -/
def composeDirectives (limit : Nat) (version : Bool) (handles : List (String × String)) :
    Compose (List (String × String)) := do
  match limit with
  | 0 => throw .endless
  | limit + 1 =>
    match ← next? with
    | some (.version major minor) =>
        if version || major ≠ 1 || (minor ≠ 1 && minor ≠ 2) then unexpected
        skip
        composeDirectives limit true handles
    | some (.tagShorthand handle start) =>
        if (handles.lookup handle).isSome then unexpected
        skip
        composeDirectives limit version ((handle, start) :: handles)
    | _ => return handles ++ [("!", "!"), ("!!", "tag:yaml.org,2002:")]

/-- Pass over the marks that end documents. -/
def skipEnds (limit : Nat) : Compose Unit := do
  match limit with
  | 0 => pure ()
  | limit + 1 =>
    if ← atAny [.documentEnd] then
      skip
      skipEnds limit

/-- Whether the next token starts a document, or is a directive in front of one. -/
def atDocumentStart : Compose Bool := do
  match ← next? with
  | some (.version _ _) => return true
  | some (.tagShorthand _ _) => return true
  | some .documentStart => return true
  | _ => return false

/-- The content of a document after the mark at its start. It may be missing. -/
def composeContent (limit : Nat) : Compose Node := do
  if ← (return (← next?).isNone) <||> atDocumentStart <||> atAny [.documentEnd] then empty
  else composeNode limit true false

/-- One document, if there is one left. Only the first one may do without a mark at its start. -/
def composeDocument (limit : Nat) (first : Bool) : Compose (Option Document) := do
  if !first then skipEnds limit
  if (← next?).isNone then return none
  let marked ← atDocumentStart
  if !first && !marked then unexpected
  let handles ← composeDirectives limit false []
  modify fun state => { tokens := state.tokens, handles := handles }
  if marked then
    if ← atAny [.documentStart] then skip else unexpected
  let root ← if marked then composeContent limit else composeNode limit true false
  if ← atAny [.documentEnd] then skip
  let state ← get
  let anchors := state.places.filterMap fun (number, place) =>
    (state.finished.lookup place).map fun node => (number, node)
  return some ⟨root, anchors, state.size⟩

/-- All documents that are left. The first limit bounds their number, the second one the steps for
each. -/
def composeDocuments (limit steps : Nat) (first : Bool) : Compose (List Document) := do
  match limit with
  | 0 => throw .endless
  | limit + 1 =>
    match ← composeDocument steps first with
    | none => return []
    | some document =>
        let others ← composeDocuments limit steps false
        return document :: others

/-- The documents of a text. A text without any stands for one that holds nothing. -/
def documents (text : String) : Except Fault (List Document) := do
  let tokens ← tokens text
  let (documents, _) ←
    (composeDocuments (tokens.length + 1) (4 * tokens.length + 8) true).run { tokens := tokens }
  return if documents.isEmpty then [⟨.empty, [], 1⟩] else documents

end ShootMachines.Yaml
