/-!
# Points in time

Kubernetes writes a point in time as RFC 3339 text in UTC with whole seconds. Reading accepts the
forms of ISO 8601 with any offset, and a fraction of a second, which is dropped. A point in time whose
year does not fit four digits has no such text, so it is none of ours.
-/

namespace ShootMachines

namespace Instant

/-- The number of days from the start of 1970 to a date of the Gregorian calendar. -/
def daysFromDate (year : Int) (month day : Nat) : Int :=
  let year := if month ≤ 2 then year - 1 else year
  let era := year.fdiv 400
  let yearOfEra := year - era * 400
  let dayOfYear : Int := (153 * ((month + 9) % 12) + 2) / 5 + day - 1
  let dayOfEra := yearOfEra * 365 + yearOfEra / 4 - yearOfEra / 100 + dayOfYear
  era * 146097 + dayOfEra - 719468

/-- The date a number of days after the start of 1970. -/
def dateOfDays (days : Int) : Int × Nat × Nat :=
  let shifted := days + 719468
  let era := shifted.fdiv 146097
  let dayOfEra := shifted - era * 146097
  let yearOfEra := (dayOfEra - dayOfEra / 1460 + dayOfEra / 36524 - dayOfEra / 146096) / 365
  let dayOfYear := (dayOfEra - (365 * yearOfEra + yearOfEra / 4 - yearOfEra / 100)).toNat
  let monthIndex := (5 * dayOfYear + 2) / 153
  let day := dayOfYear - (153 * monthIndex + 2) / 5 + 1
  let month := if monthIndex < 10 then monthIndex + 3 else monthIndex - 9
  let year := yearOfEra + era * 400
  (if month ≤ 2 then year + 1 else year, month, day)

/-- A number with leading zeros up to a width. -/
def padded (width number : Nat) : String :=
  let digits := Nat.toDigits 10 number
  String.ofList (List.replicate (width - digits.length) '0' ++ digits)

/-- The text of a point in time, given in seconds from the start of 1970 in UTC. -/
def textOfSeconds (seconds : Int) : String :=
  let days := seconds.fdiv 86400
  let second := (seconds - days * 86400).toNat
  let (year, month, day) := dateOfDays days
  padded 4 year.toNat ++ "-" ++ padded 2 month ++ "-" ++ padded 2 day ++ "T" ++
    padded 2 (second / 3600) ++ ":" ++ padded 2 (second / 60 % 60) ++ ":" ++
    padded 2 (second % 60) ++ "Z"

/-- A number of exactly so many digits at the front of a text, and the rest. -/
def number? (width : Nat) (text : List Char) : Option (Nat × List Char) :=
  let digits := text.take width
  if digits.length = width ∧ digits.all Char.isDigit then
    some (digits.foldl (fun value digit => value * 10 + (digit.toNat - 48)) 0, text.drop width)
  else none

/-- The text after one of the given characters. -/
def after? (expected : List Char) : List Char → Option (List Char)
  | character :: rest => if character ∈ expected then some rest else none
  | [] => none

/-- The number of days of a month. -/
def monthLength (year : Int) (month : Nat) : Nat :=
  if month = 2 then
    if year % 4 = 0 ∧ (year % 100 ≠ 0 ∨ year % 400 = 0) then 29 else 28
  else if month = 4 ∨ month = 6 ∨ month = 9 ∨ month = 11 then 30
  else 31

/-- Hours with the smaller parts that are given, as a time of day or an offset writes them. -/
structure Clock where
  hours : Nat
  minutes : Nat
  seconds : Nat
  nanoseconds : Nat

/-- The whole seconds of a clock. -/
def Clock.toSeconds (clock : Clock) : Int :=
  clock.hours * 3600 + clock.minutes * 60 + clock.seconds

/-- The text from the next part of a clock on, if one follows: a colon announces it in the extended
form, its digits in the basic form. -/
def nextPart? (extended : Bool) (text : List Char) : Option (List Char) :=
  if extended then after? [':'] text
  else (number? 2 text).map fun _ => text

/-- A fraction of one to nine digits in nanoseconds, if a point or comma announces one. -/
def fraction? (text : List Char) : Option (Nat × List Char) :=
  match after? ['.', ','] text with
  | none => some (0, text)
  | some rest => do
      let digits := (rest.take 9).takeWhile Char.isDigit
      if digits.isEmpty then none
      else
        let (value, _) ← number? 9 (digits ++ List.replicate (9 - digits.length) '0')
        some (value, rest.drop digits.length)

/-- A clock at the front of a text, and the rest. -/
def clock? (text : List Char) : Option (Clock × List Char) := do
  let (hours, rest) ← number? 2 text
  let extended : Bool := rest.head? = some ':'
  match nextPart? extended rest with
  | none => some (⟨hours, 0, 0, 0⟩, rest)
  | some rest => do
      let (minutes, rest) ← number? 2 rest
      match nextPart? extended rest with
      | none => some (⟨hours, minutes, 0, 0⟩, rest)
      | some rest => do
          let (seconds, rest) ← number? 2 rest
          let (nanoseconds, rest) ← fraction? rest
          some (⟨hours, minutes, seconds, nanoseconds⟩, rest)

/-- The greatest offset from UTC in seconds, 25:59:59. -/
def greatestOffset : Int := 93599

/-- An offset from UTC in seconds, rounded to the nearest, up to the end of the text. -/
def offset? : List Char → Option Int
  | ['Z'] => some 0
  | ['z'] => some 0
  | sign :: rest => do
      let negative ← if sign = '+' then some false else if sign = '-' then some true else none
      let (clock, rest) ← clock? rest
      let seconds := clock.toSeconds + if 500000000 ≤ clock.nanoseconds then 1 else 0
      if rest.isEmpty ∧ clock.minutes ≤ 59 ∧ clock.seconds ≤ 59 ∧ seconds ≤ greatestOffset then
        some (if negative then -seconds else seconds)
      else none
  | [] => none

/-- A year at the front of a text: four digits, or a sign and six digits that are not a negative
zero. -/
def year? (text : List Char) : Option (Int × List Char) :=
  match after? ['+', '-'] text with
  | none => (number? 4 text).map fun (year, rest) => ((year : Int), rest)
  | some rest => do
      let (year, rest) ← number? 6 rest
      if text.head? = some '+' then some ((year : Int), rest)
      else if year = 0 then none
      else some (-(year : Int), rest)

/-- The days from the start of 1970 to the date at the front of a text, and the rest. The basic form
has no hyphens. -/
def date? (text : List Char) : Option (Int × List Char) := do
  let (year, rest) ← year? text
  let separated (text : List Char) : Option (List Char) :=
    if rest.head? = some '-' then after? ['-'] text else some text
  let (month, rest) ← number? 2 (← separated rest)
  let (day, rest) ← number? 2 (← separated rest)
  if year.natAbs ≤ 9999 ∧ 1 ≤ month ∧ month ≤ 12 ∧ 1 ≤ day ∧ day ≤ monthLength year month then
    some (daysFromDate year month day, rest)
  else none

/-- The first and the last second that a point in time may fall into, in UTC: in this range
every offset leads to a year of at most four digits. -/
def range : Int × Int := (-377705023201, 253402207200)

/-- The seconds from the start of 1970 in UTC to the point in time of a text. The sixtieth second of
a minute counts as the one before it. -/
def secondsOfText? (text : String) : Option Int := do
  let (days, rest) ← date? text.toList
  let (clock, rest) ← clock? (← after? ['T', 't', ' '] rest)
  let offset ← offset? rest
  if clock.hours ≤ 23 ∧ clock.minutes ≤ 59 ∧ clock.seconds ≤ 60 then
    let seconds :=
      days * 86400 + { clock with seconds := min clock.seconds 59 }.toSeconds - offset
    if range.1 ≤ seconds ∧ seconds ≤ range.2 then some seconds else none
  else none

end Instant

/-- A point in time, in seconds from the start of 1970 in UTC, whose text reads back. -/
structure Instant where
  seconds : Int
  readsBack : Instant.secondsOfText? (Instant.textOfSeconds seconds) = some seconds
  deriving DecidableEq

namespace Instant

/-- The written point in time. -/
def text (instant : Instant) : String :=
  textOfSeconds instant.seconds

/-- Read a point in time. -/
def parse? (text : String) : Option Instant := do
  let seconds ← secondsOfText? text
  if readsBack : secondsOfText? (textOfSeconds seconds) = some seconds then
    some ⟨seconds, readsBack⟩
  else none

/-- The written point in time reads back. -/
@[simp]
theorem parse?_text (instant : Instant) : parse? instant.text = some instant := by
  simp [parse?, text, instant.readsBack]

end Instant

end ShootMachines
