import ShootMachines.Yaml.Token.Scalar

/-!
# Directives, anchors and tags of YAML text

The tokens that say something about nodes rather than hold them.
-/

namespace ShootMachines.Yaml

/-- A version number of at most nine digits. -/
def readVersionNumber (cursor : Cursor) : Except Fault (Nat × Cursor) :=
  let (digits, cursor) := cursor.takeWhile Char.isDigit
  if digits.isEmpty ∨ 9 < digits.length then .error .badDirective
  else
    .ok (digits.foldl (fun value digit => value * 10 + (digit.toNat - 48)) 0, cursor)

/-- A handle of a tag: an exclamation mark, a name, and again an exclamation mark. Only the second
mark tells it from the start of a tag. -/
def readHandle (cursor : Cursor) : Except Fault (List Char × Cursor) :=
  if cursor.next? ≠ some '!' then .error .badTag
  else
    let (name, cursor) := (cursor.skip 1).takeWhile isWord
    if cursor.next? = some '!' then .ok ('!' :: name ++ ['!'], cursor.skip 1)
    else .ok ('!' :: name, cursor)

/-- The number of bytes of the character that starts with a byte. -/
def octetCount? (octet : Nat) : Option Nat :=
  if octet < 0x80 then some 1
  else if octet / 32 = 6 then some 2
  else if octet / 16 = 14 then some 3
  else if octet / 8 = 30 then some 4
  else none

/-- A byte spelled as a percent sign and two hexadecimal digits. -/
def octet? : List Char → Option Nat
  | '%' :: high :: low :: _ => do
      let high ← hexValue? high
      let low ← hexValue? low
      some (high * 16 + low)
  | _ => none

/-- The further bytes of an escaped character. -/
def readOctets (count value : Nat) (text : List Char) : Except Fault Nat :=
  match count with
  | 0 => .ok value
  | count + 1 =>
      match octet? text with
      | some octet =>
          if octet / 64 = 2 then readOctets count (value * 64 + octet % 64) (text.drop 3)
          else .error .badTag
      | none => .error .badTag

/-- The characters of a tag; escaped ones are put in their place. -/
def readTagText (verbatim : Bool) (limit : Nat) (cursor : Cursor) (read : List Char) :
    Except Fault (List Char × Cursor) :=
  match limit, cursor.next? with
  | limit + 1, some character =>
      if !isTagCharacter verbatim character then .ok (read, cursor)
      else if character = '%' then
        match octet? cursor.rest with
        | none => .error .badTag
        | some octet =>
            match octetCount? octet with
            | none => .error .badTag
            | some count => do
                let start := if count = 1 then octet else octet % (1 <<< (7 - count))
                let code ← readOctets (count - 1) start (cursor.rest.drop 3)
                readTagText verbatim limit (cursor.skip (3 * count)) (read ++ [Char.ofNat code])
      else readTagText verbatim limit (cursor.skip 1) (read ++ [character])
  | _, _ => .ok (read, cursor)

/-- A directive, with the line it stands on. -/
def readDirective (cursor : Cursor) : Except Fault (Token × Cursor) := do
  let (name, cursor) := (cursor.skip 1).takeWhile isWord
  if !separates cursor.next? then throw .badDirective
  let start := cursor.skipWhile isSpace
  let (token, cursor) ←
    if name = "YAML".toList then do
      let (major, cursor) ← readVersionNumber start
      if cursor.next? ≠ some '.' then throw .badDirective
      let (minor, cursor) ← readVersionNumber (cursor.skip 1)
      pure (Token.version major minor, cursor)
    else if name = "TAG".toList then do
      let (handle, cursor) ← readHandle start
      if handle ≠ ['!'] ∧ (handle.length < 2 ∨ handle.getLast? ≠ some '!') then throw .badDirective
      if !cursor.next?.any isSpace then throw .badDirective
      let cursor := cursor.skipWhile isSpace
      let (text, after) ← readTagText true (cursor.rest.length + 1) cursor []
      if text.isEmpty ∨ !separates after.next? then throw .badDirective
      pure (Token.tagShorthand (String.ofList handle) (String.ofList text), after)
    else throw .badDirective
  let cursor := cursor.skipWhile isSpace
  let cursor :=
    if cursor.next? = some '#' then cursor.skipWhile fun character => !isBreak character else cursor
  if !endsLine cursor.next? then throw .badDirective
  return (token, cursor.skipBreak)

/-- The name of an anchor or an alias after its mark. -/
def readAnchor (cursor : Cursor) : Except Fault (String × Cursor) :=
  let (name, cursor) := (cursor.skip 1).takeWhile isWord
  let closes := separates cursor.next? ||
    cursor.next?.any fun character =>
      ['?', ':', ',', ']', '\x7d', '%', '@', '\x60'].contains character
  if name.isEmpty || !closes then .error .badAnchor else .ok (String.ofList name, cursor)

/-- A tag: verbatim, a handle and a suffix, or a suffix alone. -/
def readTag (inFlow : Bool) (cursor : Cursor) : Except Fault (Token × Cursor) := do
  let limit := cursor.rest.length + 1
  let (handle, suffix, cursor) ←
    if cursor.ahead? 1 = some '<' then do
      let (text, cursor) ← readTagText true limit (cursor.skip 2) []
      if text.isEmpty ∨ cursor.next? ≠ some '>' then throw .badTag
      pure ([], text, cursor.skip 1)
    else do
      let (handle, cursor) ← readHandle cursor
      if 1 < handle.length ∧ handle.getLast? = some '!' then do
        let (text, cursor) ← readTagText false limit cursor []
        if text.isEmpty then throw .badTag
        pure (handle, text, cursor)
      else do
        let (text, cursor) ← readTagText false limit cursor []
        let suffix := handle.drop 1 ++ text
        pure (if suffix.isEmpty then ([], ['!'], cursor) else (['!'], suffix, cursor))
  if (inFlow && cursor.next? = some ',') || separates cursor.next? then
    return (.tag (String.ofList handle) (String.ofList suffix), cursor)
  else throw .badTag

end ShootMachines.Yaml
