import ShootMachines.Document.Json.Reader

/-!
# Network addresses

An IPv4 address is written as four decimal numbers, an IPv6 address as up to eight groups of
hexadecimal digits, of which one run of zero groups may be left out; its last two groups may be
written as an IPv4 address.
-/

namespace ShootMachines.Net

/-- The number of a run of decimal digits. -/
def decimal (digits : List Char) : Nat :=
  digits.foldl (fun value digit => value * 10 + (digit.toNat - 48)) 0

/-- The number of an octet: up to three digits without a leading zero, at most 255. -/
def octet? (digits : List Char) : Option Nat :=
  if digits.isEmpty || !digits.all Char.isDigit || 3 < digits.length then none
  else if 1 < digits.length && digits.head? = some '0' then none
  else if 255 < decimal digits then none
  else some (decimal digits)

/-- The IPv4 address of four octets, as a number of 32 bits. -/
def ipv4? (text : List Char) : Option Nat :=
  match (text.splitOn '.').mapM octet? with
  | some [first, second, third, fourth] =>
      some (((first * 256 + second) * 256 + third) * 256 + fourth)
  | _ => none

/-- Whether a text is a group of an IPv6 address: up to four hexadecimal digits. -/
def isGroup (text : List Char) : Bool :=
  !text.isEmpty && text.length ≤ 4 && text.all fun character => (Json.hexValue? character).isSome

/-- The number of groups that colon-separated parts stand for. An IPv4 address at the end stands for
two. -/
def groupCount? : List (List Char) → Option Nat
  | [] => some 0
  | [last] =>
      if isGroup last then some 1
      else if (ipv4? last).isSome then some 2
      else none
  | group :: rest => if isGroup group then (groupCount? rest).map (· + 1) else none

/-- The number of groups of a text without an omission; the empty text has none. -/
def groupsOf? (text : List Char) : Option Nat :=
  if text.isEmpty then some 0 else groupCount? (text.splitOn ':')

/-- The parts of a text before and after the first double colon. -/
def splitOmission : List Char → Option (List Char × List Char)
  | ':' :: ':' :: rest => some ([], rest)
  | character :: rest => (splitOmission rest).map fun (before, after) => (character :: before, after)
  | [] => none

/-- Whether a text is an IPv6 address. Groups before an omission are written as groups, and an
omission stands for at least one of the eight groups. -/
def isIpv6 (text : List Char) : Bool :=
  match splitOmission text with
  | none => !text.isEmpty && groupsOf? text = some 8
  | some (before, after) =>
      match groupsOf? before, groupsOf? after with
      | some front, some back =>
          front + back ≤ 7 && (before.isEmpty || (before.splitOn ':').all isGroup)
      | _, _ => false

end ShootMachines.Net
