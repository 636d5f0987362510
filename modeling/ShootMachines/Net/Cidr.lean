import ShootMachines.Net.Address

/-!
# Address ranges

A range of addresses is written as an address, a slash, and the number of leading bits that are
fixed. For IPv4 addresses, a mask of the fixed bits may stand for their number.
-/

namespace ShootMachines.Net

/-- The number of fixed bits: decimal digits, after an optional plus sign. -/
def bits? (limit : Nat) (text : List Char) : Option Nat :=
  let digits := match text with
    | '+' :: rest => rest
    | other => other
  if digits.isEmpty || !digits.all Char.isDigit then none
  else some (decimal digits) |>.filter (· ≤ limit)

/-- Whether a number of 32 bits has all of its ones in front. -/
def isMask (mask : Nat) : Bool :=
  (List.range 33).any fun zeros => mask = 0x100000000 - (1 <<< zeros)

/-- Whether a text is a range of addresses. -/
def isCidr (text : List Char) : Bool :=
  match text.splitOn '/' with
  | [address, range] =>
      if (ipv4? address).isSome then
        match ipv4? range with
        | some mask => isMask mask
        | none => (bits? 32 range).isSome
      else isIpv6 address && (bits? 128 range).isSome
  | _ => false

end ShootMachines.Net
