import ShootMachines.Yaml.Manifest

/-!
# YAML values with tags

Some documents are read, and all output is written, as values that keep the local tags of their
nodes: a tagged value is one variant of several. Keys may be any values, and no key may occur twice.
-/

namespace ShootMachines.Yaml

/-- A value of a YAML document. -/
inductive Value where
  | scalar (value : Scalar)
  | list (items : List Value)
  | mapping (entries : List (Value × Value))
  | tagged (tag : String) (content : Value)
  deriving Inhabited

namespace Value

mutual

/-- Whether two values are the same. -/
def same : Value → Value → Bool
  | .scalar left, .scalar right => left = right
  | .list left, .list right => sameItems left right
  | .mapping left, .mapping right => sameEntries left right
  | .tagged tag left, .tagged other right => tag = other && same left right
  | _, _ => false

/-- Whether two lists have the same items. -/
def sameItems : List Value → List Value → Bool
  | [], [] => true
  | left :: lefts, right :: rights => same left right && sameItems lefts rights
  | _, _ => false

/-- Whether two mappings have the same entries in the same order. -/
def sameEntries : List (Value × Value) → List (Value × Value) → Bool
  | [], [] => true
  | (key, left) :: lefts, (other, right) :: rights =>
      same key other && same left right && sameEntries lefts rights
  | _, _ => false

end

/-- The text of a local tag without its mark. -/
def localTag? (tag : Option String) : Option String :=
  tag.bind fun tag =>
    match tag.toList with
    | '!' :: name => some (String.ofList name)
    | _ => none

/-- The value without the tags around it. -/
def untagged : Value → Value
  | .tagged _ content => content.untagged
  | other => other

/-- A text. -/
def text (text : String) : Value :=
  .scalar (.text text)

end Value

namespace Document

/-- A node without its tag, as a value, where the nodes within it are read in a given way. -/
def contentOf (read : Node → StateT Nat (Except Mismatch) Value) (node : Node) :
    StateT Nat (Except Mismatch) Value := do
  match node with
  | .sequence _ items => .list <$> items.mapM read
  | .mapping _ entries =>
      let fields ← entries.foldlM (fun fields (key, value) => do
        let key ← read key
        if fields.any fun (field : Value × Value) => field.1.same key then
          throw (.repeatedField "of a mapping")
        let value ← read value
        return (key, value) :: fields) []
      return .mapping fields.reverse
  | .scalar tag style text =>
      let tag := if (Value.localTag? tag).isSome then none else tag
      .scalar <$> scalarOf tag style text
  | .alias _ => throw (.wanted "a node")

/-- Whether a node is a collection. -/
def isCollection : Node → Bool
  | .sequence _ _ => true
  | .mapping _ _ => true
  | _ => false

/-- The tag of a node. -/
def tagOf : Node → Option String
  | .scalar tag _ _ => tag
  | .sequence tag _ => tag
  | .mapping tag _ => tag
  | .alias _ => none

/-- A node as a value. -/
def valueOf (document : Document) : (depth : Nat) → Node → StateT Nat (Except Mismatch) Value
  | depth, node => do
    let node ← document.follow node
    let content ← match depth with
      | 0 => if isCollection node then throw .tooDeep else contentOf (fun _ => throw .tooDeep) node
      | depth + 1 => contentOf (fun inner => valueOf document depth inner) node
    return (Value.localTag? (tagOf node)).elim content fun tag => .tagged tag content

/-- A document as a value. -/
def value (document : Document) : Except Mismatch Value :=
  ((document.valueOf greatestDepth document.root).run (aliasesPerNode * document.size)).map Prod.fst

end Document

namespace Value

mutual

/-- The value as a document value without tags. Keys have to be texts. -/
def payload : Value → Except Mismatch Payload
  | .scalar value => .ok (Document.scalarPayload value)
  | .list items => do
      let payloads ← payloadItems items
      return .list payloads
  | .mapping entries => do
      let fields ← payloadEntries entries
      return .ofFields fields
  | .tagged _ _ => .error (.wanted "a value without a variant")

/-- The items as document values. -/
def payloadItems : List Value → Except Mismatch (List Payload)
  | [] => .ok []
  | item :: rest => do
      let first ← payload item
      let others ← payloadItems rest
      return first :: others

/-- The entries as fields. -/
def payloadEntries : List (Value × Value) → Except Mismatch (List (String × Payload))
  | [] => .ok []
  | (key, value) :: rest => do
      let name ← match key.untagged with
        | .scalar (.text name) => pure name
        | _ => .error (.wanted "a text as key")
      let first ← payload value
      let others ← payloadEntries rest
      return (name, first) :: others

end

/-- Values as a source of typed values: every type is explicit, and tags do not count. -/
def source : Source Value where
  isNull value :=
    match value with
    | .scalar .null => true
    | _ => false
  text value :=
    match value.untagged with
    | .scalar (.text text) => .ok text
    | _ => .error (.wanted "a text")
  flag value :=
    match value.untagged with
    | .scalar (.flag flag) => .ok flag
    | _ => .error (.wanted "true or false")
  whole value :=
    match value.untagged with
    | .scalar (.whole number) => .ok number
    | _ => .error (.wanted "a whole number")
  natural value :=
    match value.untagged with
    | .scalar (.whole number) => .ok number
    | _ => .error (.wanted "a whole number")
  scalar value :=
    match value with
    | .scalar content => .ok content
    | _ => .error (.wanted "a scalar")
  form value :=
    match value.untagged with
    | .list items => .ok (.list items)
    | .mapping entries => do
        let fields ← entries.mapM fun (key, value) =>
          match key.untagged with
          | .scalar (.text name) => .ok (name, value)
          | _ => .error (.wanted "a text as key")
        return .object fields
    | .scalar .null => .ok .empty
    | _ => .ok .scalar
  payload := payload
  variant value :=
    match value with
    | .tagged tag content => .ok (tag, content)
    | _ => .error (.wanted "a variant")
  positional := false

end Value

end ShootMachines.Yaml
