import ShootMachines.Schema.Basic

/-!
# Taints

A taint keeps pods off a node unless they tolerate it.
-/

namespace ShootMachines

/-- A taint of a node. -/
structure Taint where
  effect : String
  key : String
  timeAdded : Option Instant
  value : Option String
  deriving DecidableEq

/-- A taint is an object; effect and key default to the empty text. -/
def Taint.schema : Schema Taint :=
  .ofParts .tolerant
    (.default "effect" .text "" <|
      .default "key" .text "" <|
      .optional "timeAdded" .instant <|
      .optional "value" .text .nil)
    (fun (effect, key, timeAdded, value, ()) => ⟨effect, key, timeAdded, value⟩)
    (fun taint => (taint.effect, taint.key, taint.timeAdded, taint.value, ()))

end ShootMachines
