import InfobaseGateway.Wire.Varint

/-!
# Fields on the wire

A field is a key and a payload. The key holds the tag and the wire type, which says where the
payload ends. A field that no message has is skipped; a group is skipped as a whole, with
everything nested in it, because no message has a field of that kind.
-/

namespace InfobaseGateway.Wire

/-- How a payload is laid out. -/
inductive WireType
  | varint
  | sixtyFourBit
  | lengthDelimited
  | startGroup
  | endGroup
  | thirtyTwoBit
  deriving DecidableEq

namespace WireType

/-- The number of a wire type in a key. -/
def number : WireType → Nat
  | varint => 0
  | sixtyFourBit => 1
  | lengthDelimited => 2
  | startGroup => 3
  | endGroup => 4
  | thirtyTwoBit => 5

/-- The wire type with the given number. -/
def ofNumber? : Nat → Option WireType
  | 0 => some varint
  | 1 => some sixtyFourBit
  | 2 => some lengthDelimited
  | 3 => some startGroup
  | 4 => some endGroup
  | 5 => some thirtyTwoBit
  | _ => none

/-- The name of a wire type in error texts. -/
def name : WireType → String
  | varint => "Varint"
  | sixtyFourBit => "SixtyFourBit"
  | lengthDelimited => "LengthDelimited"
  | startGroup => "StartGroup"
  | endGroup => "EndGroup"
  | thirtyTwoBit => "ThirtyTwoBit"

end WireType

/-- What stands before a payload. -/
structure Key where
  tag : Nat
  wireType : WireType
  deriving DecidableEq

/-- The bytes of a key. -/
def encodeKey (tag : Nat) (wireType : WireType) : Bytes :=
  Varint.encode (8 * tag + wireType.number)

/-- The bytes of a field with a varint payload. -/
def encodeVarintField (tag value : Nat) : Bytes :=
  encodeKey tag .varint ++ Varint.encode value

/-- The bytes of a field with a payload of its own length. -/
def encodeBytesField (tag : Nat) (value : Bytes) : Bytes :=
  encodeKey tag .lengthDelimited ++ Varint.encode value.length ++ value

/-- Reads a key: at most 32 bits, a known wire type, and a tag other than zero. -/
def decodeKey (bytes : Bytes) : Except DecodeError (Key × Bytes) := do
  let (key, rest) ← Varint.decode bytes
  if UInt32.size ≤ key then .error (.invalidKey key)
  else
    match WireType.ofNumber? (key % 8) with
    | none => .error (.invalidWireType (key % 8))
    | some wireType => if key / 8 = 0 then .error .invalidTag else .ok (⟨key / 8, wireType⟩, rest)

/-- Drops a fixed number of bytes. -/
def skip (count : Nat) (bytes : Bytes) : Except DecodeError Bytes :=
  if bytes.length < count then .error .underflow else .ok (bytes.drop count)

/-- Reads the length of a payload, for which there have to be enough bytes. -/
def decodeLength (bytes : Bytes) : Except DecodeError (Nat × Bytes) := do
  let (length, rest) ← Varint.decode bytes
  if rest.length < length then .error .underflow else .ok (length, rest)

/-- Reads a payload that starts with its length. -/
def decodeBytes (bytes : Bytes) : Except DecodeError (Bytes × Bytes) := do
  let (length, rest) ← decodeLength bytes
  return (rest.take length, rest.drop length)

/-- Skips a payload that is no group. -/
def skipPlain (wireType : WireType) (bytes : Bytes) : Except DecodeError Bytes :=
  match wireType with
  | .varint => (Varint.decode bytes).map (·.2)
  | .sixtyFourBit => skip 8 bytes
  | .thirtyTwoBit => skip 4 bytes
  | .lengthDelimited => (decodeBytes bytes).map (·.2)
  | .startGroup => .ok bytes
  | .endGroup => .error .unexpectedGroupEnd

/-- Reads past the open groups, the innermost first, with everything nested in them. A field inside
as many groups as `depth` is one too deep. -/
def skipGroups (depth : Nat) : (fuel : Nat) → (openTags : List Nat) → Bytes →
    Except DecodeError Bytes
  | _, [], bytes => .ok bytes
  | 0, _ :: _, _ => .error .invalidVarint
  | fuel + 1, tag :: outer, bytes => do
    let (key, rest) ← decodeKey bytes
    if key.wireType = .endGroup then
      if key.tag = tag then skipGroups depth fuel outer rest else .error .unexpectedGroupEnd
    else if depth ≤ (tag :: outer).length then .error .recursionLimit
    else if key.wireType = .startGroup then skipGroups depth fuel (key.tag :: tag :: outer) rest
    else do
      let rest ← skipPlain key.wireType rest
      skipGroups depth fuel (tag :: outer) rest

/-- Skips the payload that follows a key. Every field in a group takes a byte, so there are at most
as many fields as bytes. -/
def skipField (depth : Nat) (key : Key) (bytes : Bytes) : Except DecodeError Bytes :=
  if key.wireType = .startGroup then skipGroups depth bytes.length [key.tag] bytes
  else skipPlain key.wireType bytes

end InfobaseGateway.Wire
