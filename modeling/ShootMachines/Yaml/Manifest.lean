import ShootMachines.Schema.Read
import ShootMachines.Text.Utf8
import ShootMachines.Yaml.CoreScalar

/-!
# Reading manifests

A manifest is one YAML document. Read as a typed value, a scalar is a text wherever a text is wanted,
and a node without content stands for an empty list or object. Read as a document value, every plain
scalar has its own type. At most 128 collections may be nested, and aliases may be followed at most a
hundred times as often as the document has nodes.
-/

namespace ShootMachines.Yaml

/-- The number of collections that may be nested. -/
def greatestDepth : Nat := 128

/-- The aliases that may be followed for every node of a document. -/
def aliasesPerNode : Nat := 100

/-- A node of a document, and how many collections may still be entered. -/
structure Position where
  node : Node
  depth : Nat

namespace Document

/-- The node that a node stands for. -/
def resolve (document : Document) : Node → Node
  | .alias anchor => (document.anchors.lookup anchor).getD .empty
  | node => node

/-- The text of a scalar. -/
def keyText (document : Document) (node : Node) : Except Mismatch String :=
  match document.resolve node with
  | .scalar _ _ text => .ok text
  | _ => .error (.wanted "a text as key")

/-- Follow an alias, if the node is one. -/
def follow (document : Document) (node : Node) : StateT Nat (Except Mismatch) Node :=
  match node with
  | .alias _ => do
      match ← get with
      | 0 => throw (.wanted "fewer aliases")
      | left + 1 =>
          set left
          return document.resolve node
  | other => return other

/-- A scalar as a document value. What is no finite number becomes null. -/
def scalarPayload : Scalar → Payload
  | .null => .null
  | .flag value => .flag value
  | .whole value => .int value
  | .binary value => .number (.binary value)
  | .infinite _ => .null
  | .notANumber => .null
  | .text value => .text value

/-- A tag that is no local one; a local tag chooses a variant. -/
def checkTag (tag : Option String) : Except Mismatch Unit :=
  if tag.any (·.startsWith "!") then .error (.wanted "a value without a variant") else .ok ()

/-- A node as a document value. Of two entries with one key the later stays. -/
def payloadOf (document : Document) :
    (depth : Nat) → Node → StateT Nat (Except Mismatch) Payload
  | depth, node => do
    match ← document.follow node with
    | .scalar tag style text => scalarPayload <$> scalarOf tag style text
    | .sequence tag items =>
        checkTag tag
        match depth with
        | 0 => throw .tooDeep
        | depth + 1 => .list <$> items.mapM (payloadOf document depth)
    | .mapping tag entries =>
        checkTag tag
        match depth with
        | 0 => throw .tooDeep
        | depth + 1 =>
            let fields ← entries.mapM fun (key, value) => do
              let key ← document.follow key
              let text ← document.keyText key
              let payload ← payloadOf document depth value
              return (text, payload)
            return .ofFields fields
    | .alias _ => throw (.wanted "a node")

/-- The node at a position as a document value. -/
def payload (document : Document) (position : Position) : Except Mismatch Payload :=
  ((document.payloadOf position.depth position.node).run (aliasesPerNode * document.size)).map
    Prod.fst

/-- The items or entries of the node at a position. -/
def form (document : Document) (position : Position) : Except Mismatch (Form Position) :=
  match document.resolve position.node, position.depth with
  | .scalar _ style text, _ =>
      if style = .plain ∧ text.isEmpty then .ok .empty else .ok .scalar
  | .sequence _ _, 0 => .error .tooDeep
  | .mapping _ _, 0 => .error .tooDeep
  | .sequence _ items, depth + 1 => .ok (.list (items.map fun node => ⟨node, depth⟩))
  | .mapping _ entries, depth + 1 => do
      let fields ← entries.mapM fun (key, value) => do
        let text ← document.keyText key
        return (text, Position.mk value depth)
      return .object fields
  | .alias _, _ => .error (.wanted "a node")

/-- The scalar at a position as a value of a core type: plain, or a literal block with its tag. -/
def typedText (document : Document) (type : String) (position : Position) :
    Except Mismatch String :=
  match document.resolve position.node with
  | .scalar tag style text =>
      if style = .plain ∨ (style = .literal ∧ tag = some (coreTag type)) then .ok text
      else .error (.wanted "a plain scalar")
  | _ => .error (.wanted "a scalar")

/-- The positions of a document as a source of typed values. -/
def source (document : Document) : Source Position where
  isNull position :=
    match document.resolve position.node with
    | .scalar none .plain text => text.isEmpty || isNullWord text
    | .scalar (some tag) .plain text => tag = coreTag "null" && isNullWord text
    | _ => false
  text position :=
    match document.resolve position.node with
    | .scalar _ _ text => .ok text
    | _ => .error (.wanted "a text")
  flag position := do
    match flagOf? (← document.typedText "bool" position) with
    | some value => .ok value
    | none => .error (.wanted "true or false")
  whole position := do
    match wholeOf? (← document.typedText "int" position).toList with
    | some value => .ok value
    | none => .error (.wanted "a whole number")
  natural position := do
    let text ← document.typedText "int" position
    match wholeOf? text.toList with
    | some value =>
        if text.startsWith "-" then .error (.wanted "a number without a sign") else .ok value
    | none => .error (.wanted "a whole number")
  scalar position :=
    match document.resolve position.node with
    | .scalar tag style text => scalarOf tag style text
    | _ => .error (.wanted "a scalar")
  form := document.form
  payload := document.payload
  variant position :=
    match document.resolve position.node with
    | .scalar (some tag) style text => (localName tag).map fun name =>
        (name, ⟨.scalar none style text, position.depth⟩)
    | .sequence (some tag) items => (localName tag).map fun name =>
        (name, ⟨.sequence none items, position.depth⟩)
    | .mapping (some tag) entries => (localName tag).map fun name =>
        (name, ⟨.mapping none entries, position.depth⟩)
    | _ => .error (.wanted "a variant")
  positional := false
where
  /-- The name of the variant that a local tag chooses. -/
  localName (tag : String) : Except Mismatch String :=
    match tag.toList with
    | '!' :: name => .ok (String.ofList name)
    | _ => .error (.wanted "a variant")

end Document

/-- The only document of a text. -/
def document (text : String) : Except String Document :=
  match documents text with
  | .error fault => .error fault.reason
  | .ok [document] => .ok document
  | .ok _ => .error "more than one document"

/-- The value that a schema reads from a text, or why there is none. -/
def readAs (schema : Schema α) (text : String) : Except String α := do
  let document ← document text
  (schema.read document.source ⟨document.root, greatestDepth⟩).mapError Mismatch.reason

/-- The document value of a text, or why there is none. -/
def readPayload (text : String) : Except String Payload :=
  readAs .payload text

/-- The document value of UTF-8 bytes, or why there is none. -/
def readPayloadBytes (bytes : Bytes) : Except String Payload :=
  match Utf8.decode? bytes with
  | some text => readPayload text
  | none => .error "invalid UTF-8"

end ShootMachines.Yaml
