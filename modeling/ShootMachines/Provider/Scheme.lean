import ShootMachines.Failure
import ShootMachines.Provider.Kind
import ShootMachines.Schema.Undeclared
import ShootMachines.Schema.Write
import ShootMachines.Yaml.Manifest

/-!
# Decoding provider payloads

A payload states its API version and its kind. A scheme knows which of them the provider recognizes,
and hands out decoders: a strict one refuses fields that the kind does not declare, a lenient one
passes over them. Payloads that are submitted are decoded strictly; payloads that were stored before
are decoded leniently, so that a change of a kind does not make them unreadable.
-/

namespace ShootMachines

/-- The API version of the payloads that the provider writes. -/
def providerApiVersion : String := "kubevirt.provider.extensions.gardener.cloud/v1alpha1"

/-- The payload types that are recognized, as pairs of an API version and a kind. -/
structure Scheme where
  types : List (String × String)
  deriving DecidableEq, Repr

namespace Scheme

/-- The scheme that also recognizes the given kinds of an API version. -/
def register (scheme : Scheme) (apiVersion : String) (kinds : List String) : Scheme :=
  ⟨scheme.types ++ kinds.map fun kind => (apiVersion, kind)⟩

/-- The scheme that recognizes the kinds of the provider. -/
def standard : Scheme :=
  register ⟨[]⟩ providerApiVersion (ProviderKind.all.map ProviderKind.name)

/-- Whether a type is recognized. -/
def recognizes (scheme : Scheme) (apiVersion kind : String) : Bool :=
  scheme.types.contains (apiVersion, kind)

end Scheme

/-- A decoder of payloads. -/
structure Decoder where
  scheme : Scheme
  strict : Bool

namespace Scheme

/-- The decoder that refuses undeclared fields. -/
def strictDecoder (scheme : Scheme) : Decoder := ⟨scheme, true⟩

/-- The decoder that passes over undeclared fields. -/
def lenientDecoder (scheme : Scheme) : Decoder := ⟨scheme, false⟩

end Scheme

/-- The keys under which a payload states its type. -/
def typeKeys : List String := ["apiVersion", "kind"]

/-- The document of a text. -/
def parseDocument (text : String) : Except PayloadFault Payload :=
  (Yaml.readPayload text).mapError .malformed

/-- A payload given as a text stands for the document of that text. -/
def parsePayload : Payload → Except PayloadFault Payload
  | .text text => parseDocument text
  | payload => .ok payload

namespace Decoder

/-- The kind that a payload states, if its type is recognized. -/
def statedKind (decoder : Decoder) (payload : Payload) : Except PayloadFault String :=
  match (payload.get? "apiVersion").bind Payload.text?, (payload.get? "kind").bind Payload.text? with
  | some apiVersion, some kind =>
      if decoder.scheme.recognizes apiVersion kind then .ok kind
      else .error (.unrecognized apiVersion kind)
  | _, _ => .error .missingTypeMeta

/-- Read a value of a kind from the fields of a payload, the statement of its type left out. -/
def decodeFields (decoder : Decoder) (kind : ProviderKind) (fields : Payload) :
    Except PayloadFault kind.Config :=
  match kind.schema.decode fields with
  | .error mismatch => .error (.malformed mismatch.reason)
  | .ok value =>
      let undeclared := fields.undeclared (kind.schema.encode value) (.within kind.schema)
      if decoder.strict && !undeclared.isEmpty then .error (.unknownFields undeclared)
      else .ok value

/-- Decode a parsed payload as a kind. A null payload stands for an absent one. -/
def decodeParsed (decoder : Decoder) (kind : ProviderKind) (payload : Payload) :
    Except PayloadFault kind.Config :=
  if payload.isNull then .ok kind.absent
  else do
    let stated ← decoder.statedKind payload
    if stated ≠ kind.name then .error (.kindMismatch kind.name stated)
    else decoder.decodeFields kind (payload.without typeKeys)

/-- Decode a payload as a kind. -/
def decode (decoder : Decoder) (kind : ProviderKind) (payload : Payload) :
    Except PayloadFault kind.Config := do
  let parsed ← parsePayload payload
  decoder.decodeParsed kind parsed

/-- Decode a payload that may be absent. -/
def decode? (decoder : Decoder) (kind : ProviderKind) :
    Option Payload → Except PayloadFault kind.Config
  | none => .ok kind.absent
  | some payload => decoder.decode kind payload

/-- Decode the bytes of a document as a kind. -/
def decodeBytes (decoder : Decoder) (kind : ProviderKind) (bytes : Bytes) :
    Except PayloadFault kind.Config := do
  let document ← (Yaml.readPayloadBytes bytes).mapError .malformed
  decoder.decode kind document

/-- Decode the text of a document as a kind. -/
def decodeText (decoder : Decoder) (kind : ProviderKind) (text : String) :
    Except PayloadFault kind.Config := do
  let document ← parseDocument text
  decoder.decode kind document

/-- Decode a payload as the kind it states. -/
def decodeAny (decoder : Decoder) (payload : Payload) : Except PayloadFault ProviderConfig := do
  let parsed ← parsePayload payload
  let stated ← decoder.statedKind parsed
  match ProviderKind.ofName? stated with
  | some kind =>
      let value ← decoder.decodeParsed kind parsed
      .ok ⟨kind, value⟩
  | none =>
      .error (.unrecognized (((parsed.get? "apiVersion").bind Payload.text?).getD "") stated)

end Decoder

/-- Write a value of a kind as a payload that states its type. -/
def encodeConfig (kind : ProviderKind) (value : kind.Config) : Payload :=
  ((kind.schema.encode value).withField "apiVersion" (.text providerApiVersion)).withField "kind"
    (.text kind.name)

/-- Write a value of any kind as a payload that states its type. -/
def ProviderConfig.encode (config : ProviderConfig) : Payload :=
  encodeConfig config.kind config.value

/-- A value together with its type. -/
structure Versioned (α : Type) where
  apiVersion : String
  kind : String
  object : α

/-- Read a value and its type from a payload. -/
def Versioned.decode (schema : Schema α) (payload : Payload) : Except Mismatch (Versioned α) := do
  let text (key : String) : Except Mismatch String :=
    match payload.get? key with
    | some value => Payload.source.text value
    | none => .error (.missingField key)
  let apiVersion ← text "apiVersion"
  let kind ← text "kind"
  let object ← schema.decode (payload.without typeKeys)
  .ok ⟨apiVersion, kind, object⟩

/-- Convert a value to the written API version: write it and read it back. -/
def convertConfig (kind : ProviderKind) (value : kind.Config) (subject : String) :
    Except Failure (Versioned kind.Config) :=
  match Versioned.decode kind.schema (encodeConfig kind value) with
  | .ok versioned => .ok versioned
  | .error mismatch =>
      .error (.conversion (subject ++ " to " ++ providerApiVersion) mismatch.reason)

end ShootMachines
