/-!
# Counts and percentages

A scaling bound is a whole number of machines or a text that should be a percentage.
-/

namespace ShootMachines

/-- A 32-bit number or a text. -/
inductive IntOrText where
  | int (value : Int32)
  | text (value : String)
  deriving DecidableEq, Repr

end ShootMachines
