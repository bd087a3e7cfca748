import InfobaseGateway.Text.Encoding

/-!
# Call timeouts

Callers give a timeout as one to eight decimal digits and a unit: hours, minutes, seconds,
milliseconds, microseconds or nanoseconds. The text is whatever a caller sends. It is cut at a byte
and reckoned in words of 64 bits, so a cut inside a character and a number that outgrows a word
would break the reading down.
-/

namespace InfobaseGateway

/-- A length of time: whole seconds, and the nanoseconds beyond them. -/
structure Duration where
  seconds : UInt64
  nanos : Fin 1000000000
  deriving DecidableEq

namespace Duration

def totalNanos (duration : Duration) : Nat :=
  1000000000 * duration.seconds.toNat + duration.nanos

/-- The whole milliseconds of a length of time. -/
def millis (duration : Duration) : Nat :=
  duration.totalNanos / 1000000

def ofSeconds (seconds : UInt64) : Duration :=
  ⟨seconds, 0⟩

/-- An amount of fractions of a second, of which so many make a second. -/
def ofFractions (perSecond : UInt64) (amount : UInt64) : Duration :=
  ⟨amount / perSecond,
    .ofNat 1000000000 ((amount % perSecond).toNat * (1000000000 / perSecond.toNat))⟩

end Duration

/-- What a timeout is counted in. -/
inductive TimeUnit
  | hour
  | minute
  | second
  | milli
  | micro
  | nano
  deriving DecidableEq

namespace Timeout

/-- How the reading of a timeout would break down. -/
inductive Breakdown
  /-- A number outgrows 64 bits. -/
  | overflow
  /-- A text is cut inside a character or behind its end. -/
  | brokenText
  deriving DecidableEq

/-- The product of two words. -/
def times (a b : UInt64) : Except Breakdown UInt64 :=
  if a.toNat * b.toNat < UInt64.size then .ok (a * b) else .error .overflow

/-- Cuts a text behind a number of bytes. -/
def cut (count : Nat) (text : List Char) : Except Breakdown (List Char × List Char) :=
  let start := Text.takeBytes count text
  if Text.byteSize start = count then .ok (start, Text.dropBytes count text)
  else .error .brokenText

/-- Puts a decimal digit behind a number, as long as a word holds it. -/
def pushDigit? (value : UInt64) (c : Char) : Option UInt64 :=
  let next := 10 * value.toNat + (c.toNat - '0'.toNat)
  if c.isDigit ∧ next < UInt64.size then some (.ofNat next) else none

/-- Reads a number into a word. A plus sign may stand in front of its digits. -/
def readWord? (text : List Char) : Option UInt64 :=
  let digits := if text.head? = some '+' then text.drop 1 else text
  if digits.isEmpty then none else digits.foldlM pushDigit? 0

/-- The unit with a letter. -/
def unit? : List Char → Option TimeUnit
  | ['H'] => some .hour
  | ['M'] => some .minute
  | ['S'] => some .second
  | ['m'] => some .milli
  | ['u'] => some .micro
  | ['n'] => some .nano
  | _ => none

/-- The time that an amount of a unit takes. -/
def duration (amount : UInt64) : TimeUnit → Except Breakdown Duration
  | .hour => do return .ofSeconds (← times (← times amount 60) 60)
  | .minute => do return .ofSeconds (← times amount 60)
  | .second => .ok (.ofSeconds amount)
  | .milli => .ok (.ofFractions 1000 amount)
  | .micro => .ok (.ofFractions 1000000 amount)
  | .nano => .ok (.ofFractions 1000000000 amount)

/-- The time that digits and a letter give. -/
def ofParts (digits letter : List Char) : Except Breakdown (Option Duration) :=
  if digits.all Char.isDigit then
    match readWord? digits, unit? letter with
    | some amount, some unit => (duration amount unit).map some
    | _, _ => .ok none
  else .ok none

/-- Reads a timeout: in two to nine bytes of ASCII, all but the last are digits, and the last is the
letter of a unit. -/
def parse (text : String) : Except Breakdown (Option Duration) :=
  if text.toList.all (·.toNat < 0x80) ∧ 2 ≤ text.utf8ByteSize ∧ text.utf8ByteSize ≤ 9 then do
    let (digits, letter) ← cut (text.utf8ByteSize - 1) text.toList
    ofParts digits letter
  else .ok none

end Timeout

end InfobaseGateway
