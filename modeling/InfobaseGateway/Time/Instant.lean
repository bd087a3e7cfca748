/-!
# Instants

A point in time is a count of seconds since 1970-01-01 UTC and a count of nanoseconds in that
second. A second that ends a minute can be a leap second: its nanoseconds then run past one
thousand million. Instants are ordered by their two parts, and their difference counts a leap
second that lies between them.
-/

namespace InfobaseGateway

/-- A point in time. -/
structure Instant where
  seconds : Int
  nanos : Nat
  deriving DecidableEq

namespace Instant

/-- Nanoseconds in one second. -/
def second : Nat :=
  1000000000

/-- Seconds in one day. -/
def day : Nat :=
  86400

/-- The first and the last second that can be represented. -/
def range : Int × Int :=
  (-8334601228800, 8210266876799)

/-- The instant with the given parts, if there is one: the seconds lie in the representable range
and the nanoseconds below one second, or below two in the last second of a minute. -/
def ofParts? (seconds nanos : Int) : Option Instant :=
  if range.1 ≤ seconds ∧ seconds ≤ range.2 ∧ 0 ≤ nanos ∧
      (nanos < second ∨ nanos < 2 * second ∧ seconds.emod 60 = 59) then
    some ⟨seconds, nanos.toNat⟩
  else none

/-- Whether an instant lies strictly before another. -/
def before (a b : Instant) : Bool :=
  a.seconds < b.seconds || (a.seconds == b.seconds && a.nanos < b.nanos)

/-- The days since 1970-01-01. -/
def dayNumber (t : Instant) : Int :=
  t.seconds.fdiv day

/-- The second of the day. -/
def secondOfDay (t : Instant) : Nat :=
  (t.seconds.fmod day).toNat

/-- The leap second that an instant within its day is past, seen from a later or earlier second
of a day. -/
def leapBetween (a b : Instant) : Int :=
  if b.secondOfDay < a.secondOfDay ∧ second ≤ b.nanos then 1
  else if a.secondOfDay < b.secondOfDay ∧ second ≤ a.nanos then -1
  else 0

/-- The nanoseconds from `b` to `a`. -/
def nanosSince (a b : Instant) : Int :=
  (a.seconds - b.seconds + leapBetween a b) * second + (a.nanos - b.nanos : Int)

/-- The year, month and day of a day number, by the Gregorian calendar. -/
def civilDate (dayNumber : Int) : Int × Nat × Nat :=
  let shifted := dayNumber + 719468
  let era := shifted.fdiv 146097
  let dayOfEra := (shifted.fmod 146097).toNat
  let yearOfEra :=
    (dayOfEra - dayOfEra / 1460 + dayOfEra / 36524 - dayOfEra / 146096) / 365
  let dayOfYear := dayOfEra - (365 * yearOfEra + yearOfEra / 4 - yearOfEra / 100)
  let monthFromMarch := (5 * dayOfYear + 2) / 153
  let dayOfMonth := dayOfYear - (153 * monthFromMarch + 2) / 5 + 1
  let month := if monthFromMarch < 10 then monthFromMarch + 3 else monthFromMarch - 9
  let year := (yearOfEra : Int) + era * 400 + (if month ≤ 2 then 1 else 0)
  (year, month, dayOfMonth)

/-- A number in decimal, with leading zeros up to a width. -/
def padded (width n : Nat) : String :=
  let digits := Nat.toDigits 10 n
  String.ofList (List.replicate (width - digits.length) '0' ++ digits)

/-- A year: four digits, and a sign when it lies outside the four-digit years. -/
def yearText (year : Int) : String :=
  if 0 ≤ year ∧ year ≤ 9999 then padded 4 year.toNat
  else (if year < 0 then "-" else "+") ++ padded 4 year.natAbs

/-- The date of an instant. -/
def dateText (t : Instant) : String :=
  let (year, month, dayOfMonth) := civilDate t.dayNumber
  yearText year ++ "-" ++ padded 2 month ++ "-" ++ padded 2 dayOfMonth

/-- The fraction of a second, in the fewest of 0, 3, 6 and 9 digits that show it. -/
def fractionText (nanos : Nat) : String :=
  if nanos = 0 then ""
  else if nanos % 1000000 = 0 then "." ++ padded 3 (nanos / 1000000)
  else if nanos % 1000 = 0 then "." ++ padded 6 (nanos / 1000)
  else "." ++ padded 9 nanos

/-- The time of day of an instant; a leap second shows as second 60. -/
def timeText (t : Instant) : String :=
  let s := t.secondOfDay
  padded 2 (s / 3600) ++ ":" ++ padded 2 (s / 60 % 60) ++ ":"
    ++ padded 2 (s % 60 + t.nanos / second) ++ fractionText (t.nanos % second)

/-- An instant as people read it. -/
def text (t : Instant) : String :=
  t.dateText ++ " " ++ t.timeText ++ " UTC"

/-- An instant in the compact form of structured views. -/
def view (t : Instant) : String :=
  t.dateText ++ "T" ++ t.timeText ++ "Z"

end Instant

end InfobaseGateway
