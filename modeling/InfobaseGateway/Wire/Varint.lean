/-!
# Variable-length integers

A number is written in groups of seven bits, the lowest first, and every byte but the last has its
high bit set. A number of up to 64 bits takes at most ten bytes; a longer or larger one is refused.
-/

namespace InfobaseGateway.Wire

/-- Bytes on the wire. -/
abbrev Bytes := List UInt8

/-- Why bytes are not a message. -/
inductive DecodeError
  | invalidVarint
  | invalidKey (key : Nat)
  | invalidTag
  | invalidWireType (value : Nat)
  | unexpectedWireType (actual expected : String)
  | underflow
  /-- A nested record goes on after its length. -/
  | lengthExceeded
  | invalidText
  | unexpectedGroupEnd
  | recursionLimit
  /-- The cause of a failure inside a field of a message. -/
  | inField (message field : String) (cause : DecodeError)
  deriving DecidableEq

/-- The cause of a failure, without the fields that it happened in. -/
def DecodeError.description : DecodeError → String
  | invalidVarint => "invalid varint"
  | invalidKey key => "invalid key value: " ++ toString key
  | invalidTag => "invalid tag value: 0"
  | invalidWireType value => "invalid wire type value: " ++ toString value
  | unexpectedWireType actual expected =>
    "invalid wire type: " ++ actual ++ " (expected " ++ expected ++ ")"
  | underflow => "buffer underflow"
  | lengthExceeded => "delimited length exceeded"
  | invalidText => "invalid string value: data is not UTF-8 encoded"
  | unexpectedGroupEnd => "unexpected end group tag"
  | recursionLimit => "recursion limit reached"
  | inField _ _ cause => cause.description

/-- The fields that a failure happened in, the innermost first. -/
def DecodeError.path : DecodeError → String
  | inField message field cause => cause.path ++ message ++ "." ++ field ++ ": "
  | _ => ""

/-- The text of a decoding failure. -/
def DecodeError.message (error : DecodeError) : String :=
  "failed to decode Protobuf message: " ++ error.path ++ error.description

namespace Varint

/-- The bytes of a number. -/
def encode (n : Nat) : Bytes :=
  if n < 128 then [n.toUInt8] else (n % 128 + 128).toUInt8 :: encode (n / 128)
termination_by n
decreasing_by omega

/-- Reads a number of at most `groups` more bytes; the last byte that is allowed may only hold
`top` or less. -/
def decodeWithin : (groups : Nat) → Bytes → Except DecodeError (Nat × Bytes)
  | 0, _ => .error .invalidVarint
  | _ + 1, [] => .error .invalidVarint
  | groups + 1, byte :: rest =>
    if byte.toNat < 128 then
      if groups = 0 ∧ 2 ≤ byte.toNat then .error .invalidVarint else .ok (byte.toNat, rest)
    else do
      let (high, rest) ← decodeWithin groups rest
      .ok (byte.toNat - 128 + 128 * high, rest)

/-- The number at the start of the bytes, and the bytes after it. -/
def decode (bytes : Bytes) : Except DecodeError (Nat × Bytes) :=
  decodeWithin 10 bytes

end Varint

end InfobaseGateway.Wire
