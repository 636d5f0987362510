import ShootMachines.Net.Address
import ShootMachines.Net.Domain

/-!
# URLs

Whether a text is an absolute URL, or why it is none. Blanks and controls around the text and breaks
within it do not count. Schemes of the web need a host, which is a domain or an address; a host of
any other scheme is a text without delimiters.
-/

namespace ShootMachines.Net.Url

/-- Why a text is no URL. -/
inductive Fault where
  | noScheme
  | emptyHost
  | badDomain
  | badHostCharacter
  | badIpv4
  | badIpv6
  | badPort
  deriving DecidableEq, Repr

/-- The fault in words. -/
def Fault.message : Fault → String
  | .noScheme => "relative URL without a base"
  | .emptyHost => "empty host"
  | .badDomain => "invalid international domain name"
  | .badHostCharacter => "invalid domain character"
  | .badIpv4 => "invalid IPv4 address"
  | .badIpv6 => "invalid IPv6 address"
  | .badPort => "invalid port number"

/-- The text without what does not count. -/
def clean (text : List Char) : List Char :=
  let blank (character : Char) : Bool := character.toNat ≤ 0x20
  let trimmed := ((text.dropWhile blank).reverse.dropWhile blank).reverse
  trimmed.filter fun character => character ≠ '\t' && character ≠ '\n' && character ≠ '\r'

/-- The scheme of a text in lower case, and what follows its colon. -/
def scheme? (text : List Char) : Option (String × List Char) :=
  let scheme := text.takeWhile (· ≠ ':')
  let allowed (character : Char) : Bool :=
    character.isAlphanum || character = '+' || character = '-' || character = '.'
  if text.length ≤ scheme.length then none
  else if scheme.head?.any Char.isAlpha && scheme.all allowed then
    some (String.ofList (scheme.map Char.toLower), text.drop (scheme.length + 1))
  else none

/-- The schemes of the web. -/
def webSchemes : List String := ["http", "https", "ws", "wss", "ftp"]

/-- The bytes of a text with percent signs, each standing for the byte of the two hexadecimal digits
after it. -/
def percentDecode : Bytes → Bytes
  | 0x25 :: first :: second :: rest =>
      match Json.hexValue? (Char.ofNat first.toNat), Json.hexValue? (Char.ofNat second.toNat) with
      | some high, some low => UInt8.ofNat (high * 16 + low) :: percentDecode rest
      | _, _ => 0x25 :: percentDecode (first :: second :: rest)
  | byte :: rest => byte :: percentDecode rest
  | [] => []

/-- The number that a label of an IPv4 address stands for: hexadecimal, octal or decimal. -/
def addressNumber? (label : List Char) : Option Nat :=
  match label with
  | [] => none
  | '0' :: 'x' :: digits => inBase 16 digits
  | '0' :: digit :: digits => inBase 8 (digit :: digits)
  | digits => inBase 10 digits
where
  /-- The number of digits in a base; no digits stand for zero. -/
  inBase (base : Nat) (digits : List Char) : Option Nat :=
    (digits.mapM fun digit => (Json.hexValue? digit).filter (· < base)).map
      (·.foldl (fun value digit => value * base + digit) 0)

/-- Whether the last label of a domain is a number. -/
def endsInNumber (labels : List (List Char)) : Bool :=
  let last := match labels.reverse with
    | [] :: last :: _ => last
    | last :: _ => last
    | [] => []
  (!last.isEmpty && last.all Char.isDigit) || (addressNumber? last).isSome

/-- Whether the labels of a domain are an IPv4 address: up to four numbers, all but the last of one
byte, and the last one of the bytes that remain. -/
def isAddress (labels : List (List Char)) : Bool :=
  let labels := if labels.getLast? = some [] then labels.dropLast else labels
  match labels.mapM addressNumber? with
  | none => false
  | some numbers =>
      match numbers.reverse with
      | [] => false
      | last :: others =>
          numbers.length ≤ 4 && others.all (· ≤ 255) && last < 1 <<< (8 * (5 - numbers.length))

/-- Check a host in brackets, given without the first one. -/
def checkBracketed (text : List Char) : Except Fault Unit :=
  if text.getLast? = some ']' && isIpv6 text.dropLast then .ok () else .error .badIpv6

/-- Check the host of a web URL. -/
def checkDomain (host : List Char) : Except Fault Unit :=
  match host with
  | '[' :: rest => checkBracketed rest
  | _ =>
      match Domain.labels? (percentDecode (Utf8.encode (String.ofList host))) with
      | none => .error .badDomain
      | some labels =>
          if labels = [[]] then .error .emptyHost
          else if endsInNumber labels && !isAddress labels then .error .badIpv4
          else .ok ()

/-- The delimiters that a host of no web URL may not hold. -/
def refusedInHost : List Char :=
  ['\x00', '\t', '\n', '\r', ' ', '#', '/', ':', '<', '>', '?', '@', '[', '\\', ']', '^', '|']

/-- Check the host of any other URL. -/
def checkHost (host : List Char) : Except Fault Unit :=
  match host with
  | '[' :: rest => checkBracketed rest
  | _ => if host.any refusedInHost.contains then .error .badHostCharacter else .ok ()

/-- Whether a character ends the part of a URL that names the host. -/
def endsAuthority (web : Bool) (character : Char) : Bool :=
  character = '/' || character = '?' || character = '#' || (web && character = '\\')

/-- The host in front of a text, up to a colon outside brackets or the end of the part that names the
host, and the rest. -/
def splitHost (web bracketed : Bool) : List Char → List Char × List Char
  | [] => ([], [])
  | character :: rest =>
      if endsAuthority web character || (character = ':' && !bracketed) then
        ([], character :: rest)
      else
        let bracketed := if character = '[' then true else if character = ']' then false else bracketed
        let (host, rest) := splitHost web bracketed rest
        (character :: host, rest)

/-- Check a port in front of a text: decimal digits of a number of 16 bits, or nothing. -/
def checkPort (text : List Char) : Except Fault Unit :=
  let port := text.takeWhile fun character => !endsAuthority true character
  if port.all Char.isDigit && decimal port < 0x10000 then .ok () else .error .badPort

/-- Check the host and the port in front of a text. -/
def checkHostAndPort (web named : Bool) (text : List Char) : Except Fault Unit := do
  let (host, rest) := splitHost web false text
  if web then
    if host.isEmpty then throw .emptyHost
    checkDomain host
  else
    checkHost host
    if host.isEmpty && rest.head? = some ':' then throw .emptyHost
  if rest.head? = some ':' then checkPort (rest.drop 1)
  if host.isEmpty && named then throw .emptyHost

/-- Check what follows two slashes: a user, if there is an at sign, and the host. -/
def checkAuthority (web : Bool) (text : List Char) : Except Fault Unit :=
  let authority := text.takeWhile fun character => !endsAuthority web character
  if authority.contains '@' then
    let user := ((authority.reverse.dropWhile (· ≠ '@')).drop 1).reverse
    let rest := text.drop (user.length + 1)
    if user.isEmpty && rest.head?.any (endsAuthority web) then .error .emptyHost
    else checkHostAndPort web (!user.isEmpty && user ≠ [':']) rest
  else checkHostAndPort web false text

/-- Whether a character is a slash of either kind. -/
def isSlash (character : Char) : Bool :=
  character = '/' || character = '\\'

/-- Whether a text is the letter of a drive. -/
def isDrive (text : List Char) : Bool :=
  match text with
  | [letter, mark] => letter.isAlpha && (mark = ':' || mark = '|')
  | _ => false

/-- Check what follows the scheme of a file. A file needs no host. -/
def checkFile (text : List Char) : Except Fault Unit :=
  match text with
  | first :: second :: rest =>
      let host := rest.takeWhile fun character => !endsAuthority true character
      if isSlash first && isSlash second && !host.isEmpty && !isDrive host then checkDomain host
      else .ok ()
  | _ => .ok ()

/-- Check that a text is an absolute URL. -/
def check (text : String) : Except Fault Unit :=
  match scheme? (clean text.toList) with
  | none => .error .noScheme
  | some (scheme, rest) =>
      if scheme = "file" then checkFile rest
      else if webSchemes.contains scheme then checkAuthority true (rest.dropWhile isSlash)
      else
        match rest with
        | '/' :: '/' :: rest => checkAuthority false rest
        | _ => .ok ()

end ShootMachines.Net.Url
