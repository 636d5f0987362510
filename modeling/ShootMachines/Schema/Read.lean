import ShootMachines.Number.Layout
import ShootMachines.Schema.Basic
import ShootMachines.Schema.Source

/-!
# Reading typed values

A schema reads a value from any source. An object's unknown fields are passed over; a declared
field given twice is refused unless the record is tolerant: there every node must be null or
readable, and the last one counts.
-/

namespace ShootMachines

/-- The whole number as a number of 32 bits with a sign. -/
def readInt32 (value : Int) : Except Mismatch Int32 :=
  if -0x80000000 ≤ value ∧ value < 0x80000000 then .ok (Int32.ofInt value)
  else .error (.wanted "a 32-bit number")

/-- The whole number as a number of 64 bits with a sign. -/
def readInt64 (value : Int) : Except Mismatch Int64 :=
  if -0x8000000000000000 ≤ value ∧ value < 0x8000000000000000 then .ok (Int64.ofInt value)
  else .error (.wanted "a 64-bit number")

/-- The whole number as a number of 32 bits without a sign. -/
def readUInt32 (value : Int) : Except Mismatch UInt32 :=
  if 0 ≤ value ∧ value < 0x100000000 then .ok (UInt32.ofNat value.toNat)
  else .error (.wanted "a 32-bit number without a sign")

/-- A quantity is a text, or a number that stands for its decimal text. -/
def readQuantity : Scalar → Except Mismatch Quantity
  | .text value => .ok ⟨value⟩
  | .whole value => .ok ⟨toString value⟩
  | .binary value => .ok ⟨NumberLayout.quantity.write value⟩
  | .infinite negative => .ok ⟨if negative then "-inf" else "inf"⟩
  | .notANumber => .ok ⟨"NaN"⟩
  | _ => .error (.wanted "a quantity")

/-- A count of 32 bits or a text. -/
def readIntOrText : Scalar → Except Mismatch IntOrText
  | .text value => .ok (.text value)
  | .whole value => (readInt32 value).map .int
  | _ => .error (.wanted "a number or a text")

/-- The bytes of a base64 text. -/
def readBytes (value : String) : Except Mismatch Bytes :=
  match Base64.decode? value with
  | some bytes => .ok bytes
  | none => .error (.wanted "base64 text")

/-- The point in time of a text. -/
def readInstant (value : String) : Except Mismatch Instant :=
  match Instant.parse? value with
  | some instant => .ok instant
  | none => .error (.wanted "a point in time")

/-- What a missing field stands for: the object names its fields, a list gives them in order. -/
def Presence.absent (presence : Presence α) (key : String) (named : Bool) : Except Mismatch α :=
  match presence with
  | .required => .error (if named then .missingField key else .tooFewItems)
  | .default value => .ok value
  | .named value => if named then .ok value else .error .tooFewItems

/-- The nodes given for a key, in order. -/
def givenFor (key : String) (given : List (String × σ)) : List σ :=
  (given.filter fun field => field.1 = key).map Prod.snd

/-- A resource that states another type than its own is refused. -/
def checkStated (source : Source σ) (key expected : String) (given : List (String × σ)) :
    Except Mismatch Unit :=
  (givenFor key given).forM fun node => do
    let stated ← source.text node
    if stated = expected then .ok () else .error (.wanted (key ++ " " ++ expected))

mutual

/-- Read a value as its schema says. -/
def Schema.read (source : Source σ) : {α : Type} → Schema α → σ → Except Mismatch α
  | _, .text, node => source.text node
  | _, .flag, node => source.flag node
  | _, .int32, node => source.whole node >>= readInt32
  | _, .int64, node => source.whole node >>= readInt64
  | _, .uint32, node => source.natural node >>= readUInt32
  | _, .quantity, node => source.scalar node >>= readQuantity
  | _, .intOrText, node => source.scalar node >>= readIntOrText
  | _, .bytes, node => if source.isNull node then .ok [] else source.text node >>= readBytes
  | _, .instant, node => source.text node >>= readInstant
  | _, .payload, node => source.payload node
  | _, .optional item, node =>
      if source.isNull node then .ok none else (item.read source node).map some
  | _, .list item, node => do
      match ← source.form node with
      | .list items => items.mapM fun node => item.read source node
      | .empty => .ok []
      | _ => .error (.wanted "a list")
  | _, .dict item, node => do
      match ← source.form node with
      | .object fields =>
          let entries ← fields.mapM fun field => do
            let value ← item.read source field.2
            .ok (field.1, value)
          .ok (Dict.ofList entries)
      | .empty => .ok .empty
      | _ => .error (.wanted "an object")
  | _, .record style fields build _ _ _, node => do
      match ← source.form node with
      | .object given => (fields.readNamed source style given).map build
      | .empty => (fields.readNamed source style []).map build
      | .list items =>
          if source.positional ∧ style = .flexible then (fields.readPositional source items).map build
          else .error (.wanted "an object")
      | .scalar => .error (.wanted "an object")
  | _, .choice cases build _ _ _, node => do
      let (tag, content) ← source.variant node
      (cases.read source tag content).map build
  | _, .resource apiVersion kind checked item, node => do
      if checked then
        match ← source.form node with
        | .object given =>
            checkStated source "apiVersion" apiVersion given
            checkStated source "kind" kind given
        | _ => pure ()
      item.read source node

/-- Read the declared fields from the fields of an object. -/
def Fields.readNamed (source : Source σ) (style : RecordStyle) :
    {β : Type} → Fields β → List (String × σ) → Except Mismatch β
  | _, .nil, _ => .ok ()
  | _, .cons key presence schema rest, given => do
      let value ← match style, givenFor key given with
        | _, [] => presence.absent key true
        | .tolerant, nodes => do
            let values ← nodes.mapM fun node =>
              if source.isNull node then .ok none else (schema.read source node).map some
            match values.getLast? with
            | some (some value) => .ok value
            | _ => presence.absent key true
        | _, [node] => schema.read source node
        | _, _ => .error (.repeatedField key)
      let others ← rest.readNamed source style given
      .ok (value, others)

/-- Read the declared fields from the items of a list. -/
def Fields.readPositional (source : Source σ) :
    {β : Type} → Fields β → List σ → Except Mismatch β
  | _, .nil, [] => .ok ()
  | _, .nil, _ :: _ => .error .tooManyItems
  | _, .cons key presence _ rest, [] => do
      let value ← presence.absent key false
      let others ← rest.readPositional source []
      .ok (value, others)
  | _, .cons _ _ schema rest, node :: nodes => do
      let value ← schema.read source node
      let others ← rest.readPositional source nodes
      .ok (value, others)

/-- Read the content of the variant with a tag. -/
def Cases.read (source : Source σ) : {β : Type} → Cases β → String → σ → Except Mismatch β
  | _, .nil, tag, _ => .error (.unknownVariant tag)
  | _, .cons name schema rest, tag, content =>
      if name = tag then (schema.read source content).map .inl
      else (rest.read source tag content).map .inr

end

/-- An optional value is nothing where nothing is given, and is read like a value elsewhere. -/
theorem Schema.read_optional (source : Source σ) (item : Schema α) (node : σ) :
    item.optional.read source node =
      if source.isNull node then .ok none else (item.read source node).map some := by
  rw [Schema.read]

/-- Read a value from a document value. -/
def Schema.decode (schema : Schema α) (payload : Payload) : Except Mismatch α :=
  schema.read Payload.source payload

end ShootMachines
