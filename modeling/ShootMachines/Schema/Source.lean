import ShootMachines.Document.Payload

/-!
# Sources of typed values

Typed values are read from documents of three kinds: plain values, the nodes of a YAML manifest,
and the entries of a kubeconfig. A source answers the questions a schema asks of a node, so that
one reader serves all of them.
-/

namespace ShootMachines

/-- Why a node does not have the wanted form. -/
inductive Mismatch where
  | wanted (form : String)
  | missingField (key : String)
  | repeatedField (key : String)
  | tooFewItems
  | tooManyItems
  | unknownVariant (tag : String)
  | tooDeep
  deriving DecidableEq, Repr

/-- The mismatch in words. -/
def Mismatch.reason : Mismatch → String
  | .wanted form => "expected " ++ form
  | .missingField key => "missing field " ++ key
  | .repeatedField key => "field " ++ key ++ " is given twice"
  | .tooFewItems => "too few items"
  | .tooManyItems => "too many items"
  | .unknownVariant tag => "unknown variant " ++ tag
  | .tooDeep => "nested too deeply"

/-- A scalar whose type the node itself decides. -/
inductive Scalar where
  | null
  | flag (value : Bool)
  | whole (value : Int)
  | binary (value : Binary64)
  | infinite (negative : Bool)
  | notANumber
  | text (value : String)
  deriving DecidableEq, Repr

/-- The outer form of a node. An empty node may stand for an empty list or an empty object. -/
inductive Form (σ : Type) where
  | list (items : List σ)
  | object (fields : List (String × σ))
  | empty
  | scalar

/-- The questions that a schema asks of the nodes of a document. -/
structure Source (σ : Type) where
  /-- Whether the node stands for the absence of a value. -/
  isNull : σ → Bool
  /-- The text of the node, where a text is wanted. -/
  text : σ → Except Mismatch String
  /-- The flag of the node, where a flag is wanted. -/
  flag : σ → Except Mismatch Bool
  /-- The whole number of the node, where one with a sign is wanted. -/
  whole : σ → Except Mismatch Int
  /-- The whole number of the node, where one without a sign is wanted. -/
  natural : σ → Except Mismatch Int
  /-- The scalar of the node, where the node decides its type. -/
  scalar : σ → Except Mismatch Scalar
  /-- The items or fields of the node. -/
  form : σ → Except Mismatch (Form σ)
  /-- The whole node as a document value. -/
  payload : σ → Except Mismatch Payload
  /-- The tag and the content of a node that chooses between variants. -/
  variant : σ → Except Mismatch (String × σ)
  /-- Whether a record may be given as the list of its fields. -/
  positional : Bool

namespace Payload

/-- The scalar of a document value. -/
def scalar? : Payload → Option Scalar
  | .null => some .null
  | .flag value => some (.flag value)
  | .number (.whole value) => some (.whole value)
  | .number (.binary value) => some (.binary value)
  | .text value => some (.text value)
  | _ => none

/-- Document values as a source: every type is explicit, and a variant is an object with one field
that holds an object. -/
def source : Source Payload where
  isNull := isNull
  text
    | .text value => .ok value
    | _ => .error (.wanted "a text")
  flag
    | .flag value => .ok value
    | _ => .error (.wanted "true or false")
  whole
    | .number (.whole value) => .ok value
    | _ => .error (.wanted "a whole number")
  natural
    | .number (.whole value) => .ok value
    | _ => .error (.wanted "a whole number")
  scalar payload :=
    match payload.scalar? with
    | some scalar => .ok scalar
    | none => .error (.wanted "a scalar")
  form
    | .list items => .ok (.list items)
    | .object fields => .ok (.object fields)
    | _ => .ok .scalar
  payload value := .ok value
  variant
    | .object [(tag, .object fields)] => .ok (tag, .object fields)
    | _ => .error (.wanted "one variant")
  positional := true

end Payload

end ShootMachines
