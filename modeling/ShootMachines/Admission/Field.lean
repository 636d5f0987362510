/-!
# Field paths and field errors

A check of a submitted object reports every violation it finds. A violation names the field by its
path within the object, the kind of fault, the offending value where there is one, and a detail.
-/

namespace ShootMachines

/-- One step down an object. -/
inductive FieldStep where
  | child (name : String)
  | index (position : Nat)
  | key (name : String)
  deriving DecidableEq, Repr

/-- A field within an object, by the steps from a root. -/
structure FieldPath where
  root : String
  steps : List FieldStep := []
  deriving DecidableEq, Repr

namespace FieldPath

/-- The path one step further down. -/
def push (path : FieldPath) (step : FieldStep) : FieldPath :=
  ⟨path.root, path.steps ++ [step]⟩

/-- The field of an object. -/
def child (path : FieldPath) (name : String) : FieldPath :=
  path.push (.child name)

/-- The item of a list. -/
def index (path : FieldPath) (position : Nat) : FieldPath :=
  path.push (.index position)

/-- The entry of a map. -/
def key (path : FieldPath) (name : String) : FieldPath :=
  path.push (.key name)

end FieldPath

/-- A step as written after a path. -/
def FieldStep.text : FieldStep → String
  | .child name => "." ++ name
  | .index position => "[" ++ toString position ++ "]"
  | .key name => "[" ++ name ++ "]"

/-- The written path. -/
def FieldPath.text (path : FieldPath) : String :=
  path.root ++ String.join (path.steps.map FieldStep.text)

/-- The kind of a violation. -/
inductive FieldErrorKind where
  | required
  | invalid
  | duplicate
  | forbidden
  | notSupported
  deriving DecidableEq, Repr

/-- The kind in words. -/
def FieldErrorKind.text : FieldErrorKind → String
  | .required => "Required value"
  | .invalid => "Invalid value"
  | .duplicate => "Duplicate value"
  | .forbidden => "Forbidden"
  | .notSupported => "Unsupported value"

/-- A violation at a field. -/
structure FieldError where
  kind : FieldErrorKind
  path : FieldPath
  value : Option String
  detail : String
  deriving DecidableEq, Repr

namespace FieldError

/-- The field must be given. -/
def required (path : FieldPath) (detail : String) : FieldError :=
  ⟨.required, path, none, detail⟩

/-- The value of the field is wrong. -/
def invalid (path : FieldPath) (value detail : String) : FieldError :=
  ⟨.invalid, path, some value, detail⟩

/-- The value of the field occurred before. -/
def duplicate (path : FieldPath) (value : String) : FieldError :=
  ⟨.duplicate, path, some value, ""⟩

/-- The field must not be set or changed so. -/
def forbidden (path : FieldPath) (detail : String) : FieldError :=
  ⟨.forbidden, path, none, detail⟩

/-- The value of the field is none of the supported ones. -/
def notSupported (path : FieldPath) (value : String) (supported : List String) : FieldError :=
  ⟨.notSupported, path, some value,
    "supported values: " ++ ", ".intercalate (supported.map fun text => "\"" ++ text ++ "\"")⟩

/-- The violation in words. -/
def message (error : FieldError) : String :=
  error.path.text ++ ": " ++ error.kind.text ++
    (match error.value with
      | some value => ": \"" ++ value ++ "\""
      | none => "") ++
    (if error.detail.isEmpty then "" else ": " ++ error.detail)

/-- A list of violations in words: a single one as it is, others in brackets. -/
def listMessage : List FieldError → String
  | [single] => single.message
  | errors => "[" ++ ", ".intercalate (errors.map message) ++ "]"

end FieldError

end ShootMachines
