/-!
# Numbers in configurations

How files and variables write integers and decimals. An integer fits a machine word, with or without
a sign; a decimal has digits, an optional point and an optional exponent.
-/

namespace InfobaseGateway.Config.Number

/-- The value of a digit in a base. -/
def digit? (base : Nat) (c : Char) : Option Nat :=
  let value :=
    if c.isDigit then some (c.toNat - '0'.toNat)
    else if 'a' ≤ c ∧ c ≤ 'f' then some (c.toNat - 'a'.toNat + 10)
    else if 'A' ≤ c ∧ c ≤ 'F' then some (c.toNat - 'A'.toNat + 10)
    else none
  value.filter (· < base)

/-- The number that digits write in a base; there has to be one. -/
def ofDigits? (base : Nat) (digits : List Char) : Option Nat :=
  match digits with
  | [] => none
  | _ => digits.foldlM (fun value c => (digit? base c).map (base * value + ·)) 0

/-- The character that hexadecimal digits stand for. -/
def charOfHex? (digits : List Char) : Option Char :=
  (ofDigits? 16 digits).bind fun n => if n.isValidChar then some (Char.ofNat n) else none

/-- A natural number that fits a word without a sign. -/
def word? (n : Nat) : Option Int :=
  if n < UInt64.size then some n else none

/-- The negative of a natural number, if it fits a word with a sign. -/
def negative? (n : Nat) : Option Int :=
  if n ≤ UInt64.size / 2 then some (-n) else none

/-- Reads an integer in decimal digits with an optional sign. -/
def integer? (text : List Char) : Option Int :=
  match text with
  | '+' :: digits => (ofDigits? 10 digits).bind word?
  | '-' :: digits => (ofDigits? 10 digits).bind negative?
  | digits => (ofDigits? 10 digits).bind word?

/-- The parts of a decimal without its sign. -/
structure Decimal where
  whole : List Char
  fraction : List Char
  exponent : Int

/-- Reads an exponent with an optional sign. -/
def exponent? (text : List Char) : Option Int :=
  match text with
  | '+' :: digits => (ofDigits? 10 digits).map Int.ofNat
  | '-' :: digits => (ofDigits? 10 digits).map fun n => -(n : Int)
  | digits => (ofDigits? 10 digits).map Int.ofNat

/-- Reads a decimal without a sign. There has to be a digit before or after the point. -/
def decimal? (text : List Char) : Option Decimal :=
  let (whole, rest) := text.span Char.isDigit
  let (fraction, rest) :=
    match rest with
    | '.' :: rest => rest.span Char.isDigit
    | rest => ([], rest)
  if whole.isEmpty && fraction.isEmpty then none
  else
    match rest with
    | [] => some ⟨whole, fraction, 0⟩
    | 'e' :: rest => (exponent? rest).map (⟨whole, fraction, ·⟩)
    | 'E' :: rest => (exponent? rest).map (⟨whole, fraction, ·⟩)
    | _ => none

/-- A text without a sign in front of it. -/
def unsigned : List Char → List Char
  | '+' :: rest => rest
  | '-' :: rest => rest
  | text => text

/-- Whether a text is a decimal, however large. -/
def isDecimal (text : List Char) : Bool :=
  (decimal? (unsigned text)).isSome

/-- The least number that double precision cannot hold: from here on the nearest double would have
to have a larger exponent than there is. -/
def doubleLimit : Nat :=
  Nat.pow 2 1024 - Nat.pow 2 970

/-- Whether double precision can hold a decimal. -/
def Decimal.isFinite (decimal : Decimal) : Bool :=
  let digits := (decimal.whole ++ decimal.fraction).dropWhile (· = '0')
  let shift := decimal.exponent - decimal.fraction.length
  match ofDigits? 10 digits with
  | none => true
  | some n =>
    if 400 < digits.length + shift then false
    else if digits.length + shift < 300 then true
    else if 0 ≤ shift then n * Nat.pow 10 shift.toNat < doubleLimit
    else n < doubleLimit * Nat.pow 10 (-shift).toNat

/-- Whether a text is a decimal that double precision can hold. -/
def isFiniteDecimal (text : List Char) : Bool :=
  ((decimal? (unsigned text)).map Decimal.isFinite).getD false

end InfobaseGateway.Config.Number
