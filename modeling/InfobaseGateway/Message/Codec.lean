import InfobaseGateway.Message.Schema
import InfobaseGateway.Text.Encoding
import InfobaseGateway.Wire.Key

/-!
# Wire format of messages

A message is written field by field in the order of its schema. Plain fields with the initial value
are left out; optional fields are written whenever they are present. Reading starts from the initial
message and lets each field on the wire change the one with its tag: a scalar is replaced, a nested
record is changed slot by slot, a repeated field grows. Other fields are skipped. Nested records are
read from the bytes of the whole message, and only then is it checked that they end where their
length says.
-/

namespace InfobaseGateway

open Wire

/-- How deep groups and nested records may lie. -/
def nestingLimit : Nat :=
  100

namespace Scalar

/-- The wire type of the values of a scalar kind. -/
def wireType : Scalar → WireType
  | text => .lengthDelimited
  | _ => .varint

/-- A scalar field on the wire. Signed numbers are written as the 64-bit number that is congruent
to them. -/
def encode (tag : Nat) : (scalar : Scalar) → scalar.Value → Bytes
  | text, value => encodeBytesField tag (utf8Bytes value)
  | flag, value => encodeVarintField tag value.toNat
  | int32, value => encodeVarintField tag value.toInt64.toUInt64.toNat
  | uint32, value => encodeVarintField tag value.toNat
  | int64, value => encodeVarintField tag value.toUInt64.toNat
  | choice _, value => encodeVarintField tag value.toInt64.toUInt64.toNat

/-- The value that a number on the wire stands for; bits that do not fit are dropped. -/
def ofVarint : (scalar : Scalar) → Nat → scalar.Value
  | text, _ => ""
  | flag, n => !decide (n = 0)
  | int32, n => (UInt32.ofNat n).toInt32
  | uint32, n => UInt32.ofNat n
  | int64, n => (UInt64.ofNat n).toInt64
  | choice _, n => (UInt32.ofNat n).toInt32

/-- Reads a value from the payload of a field. -/
def decode (scalar : Scalar) (wireType : WireType) (bytes : Bytes) :
    Except DecodeError (scalar.Value × Bytes) :=
  if wireType ≠ scalar.wireType then
    .error (.unexpectedWireType wireType.name scalar.wireType.name)
  else
    match scalar with
    | text => do
      let (value, rest) ← decodeBytes bytes
      match textOfUtf8? value with
      | some value => .ok (value, rest)
      | none => .error .invalidText
    | scalar => do
      let (n, rest) ← Varint.decode bytes
      return (ofVarint scalar n, rest)

end Scalar

namespace Slots

/-- A flat record on the wire. -/
def encode : (slots : List Slot) → Slots slots → Bytes
  | [], _ => []
  | slot :: slots, (value, values) =>
    (if value = slot.scalar.initial then [] else slot.scalar.encode slot.tag value)
      ++ encode slots values

/-- Reads the payload that follows a key into the slot with its tag. -/
def readField (layout : String) (key : Key) : (slots : List Slot) → Slots slots → Bytes →
    Except DecodeError (Slots slots × Bytes)
  | [], values, bytes => (skipField (nestingLimit - 1) key bytes).map (values, ·)
  | slot :: slots, (value, values), bytes =>
    if slot.tag = key.tag then
      match slot.scalar.decode key.wireType bytes with
      | .ok (value, rest) => .ok ((value, values), rest)
      | .error error => .error (.inField layout slot.name error)
    else do
      let (values, rest) ← readField layout key slots values bytes
      return ((value, values), rest)

end Slots

namespace Layout

/-- Reads fields into a flat record until not more than `left` bytes are left, and then there have
to be as many. -/
def readUntil (layout : Layout) (left : Nat) : (fuel : Nat) → Slots layout.slots → Bytes →
    Except DecodeError (Slots layout.slots × Bytes)
  | fuel, values, bytes =>
    if bytes.length = left then .ok (values, bytes)
    else if bytes.length < left then .error .lengthExceeded
    else
      match fuel with
      | 0 => .error .invalidVarint
      | fuel + 1 => do
        let (key, rest) ← decodeKey bytes
        let (values, rest) ← Slots.readField layout.name key layout.slots values rest
        readUntil layout left fuel values rest

/-- Reads a nested record over the one that is there. Every field takes a byte. -/
def decodeOver (layout : Layout) (values : Slots layout.slots) (wireType : WireType)
    (bytes : Bytes) : Except DecodeError (Slots layout.slots × Bytes) :=
  if wireType ≠ .lengthDelimited then
    .error (.unexpectedWireType wireType.name WireType.lengthDelimited.name)
  else do
    let (length, rest) ← decodeLength bytes
    readUntil layout (rest.length - length) rest.length values rest

end Layout

namespace FieldKind

/-- A field on the wire. -/
def encode (tag : Nat) : (kind : FieldKind) → kind.Value → Bytes
  | plain scalar, value => if value = scalar.initial then [] else scalar.encode tag value
  | optional scalar, value =>
    match value with
    | some value => scalar.encode tag value
    | none => []
  | nested layout, value =>
    match value with
    | some values => encodeBytesField tag (Slots.encode layout.slots values)
    | none => []
  | repeated layout, value =>
    value.flatMap fun values => encodeBytesField tag (Slots.encode layout.slots values)

/-- Reads a payload over the value of a field. -/
def decodeOver : (kind : FieldKind) → kind.Value → WireType → Bytes →
    Except DecodeError (kind.Value × Bytes)
  | plain scalar, _, wireType, bytes => scalar.decode wireType bytes
  | optional scalar, _, wireType, bytes =>
    (scalar.decode wireType bytes).map fun (value, rest) => (some value, rest)
  | nested layout, value, wireType, bytes =>
    (layout.decodeOver (value.getD (Slots.initial layout.slots)) wireType bytes).map
      fun (values, rest) => (some values, rest)
  | repeated layout, value, wireType, bytes =>
    (layout.decodeOver (Slots.initial layout.slots) wireType bytes).map
      fun (values, rest) => (value ++ [values], rest)

end FieldKind

namespace Record

/-- A record on the wire. -/
def encode : (fields : List Field) → Record fields → Bytes
  | [], _ => []
  | field :: fields, (value, values) => field.kind.encode field.tag value ++ encode fields values

/-- Reads the payload that follows a key into the field with its tag. -/
def readField (schema : String) (key : Key) : (fields : List Field) → Record fields → Bytes →
    Except DecodeError (Record fields × Bytes)
  | [], values, bytes => (skipField nestingLimit key bytes).map (values, ·)
  | field :: fields, (value, values), bytes =>
    if field.tag = key.tag then
      match field.kind.decodeOver value key.wireType bytes with
      | .ok (value, rest) => .ok ((value, values), rest)
      | .error error => .error (.inField schema field.name error)
    else do
      let (values, rest) ← readField schema key fields values bytes
      return ((value, values), rest)

end Record

namespace Schema

/-- The bytes of a record of the schema. -/
def encode (schema : Schema) (record : Record schema.fields) : Bytes :=
  Record.encode schema.fields record

/-- Reads fields over a record of the schema up to the end of the bytes. -/
def readWithin (schema : Schema) : (fuel : Nat) → Record schema.fields → Bytes →
    Except DecodeError (Record schema.fields)
  | _, record, [] => .ok record
  | 0, _, _ :: _ => .error .invalidVarint
  | fuel + 1, record, bytes => do
    let (key, rest) ← decodeKey bytes
    let (record, rest) ← Record.readField schema.name key schema.fields record rest
    readWithin schema fuel record rest

/-- Reads bytes over a record of the schema. Every field takes a byte. -/
def decodeOver (schema : Schema) (record : Record schema.fields) (bytes : Bytes) :
    Except DecodeError (Record schema.fields) :=
  schema.readWithin bytes.length record bytes

/-- The record of the schema that the bytes hold. -/
def decode (schema : Schema) (bytes : Bytes) : Except DecodeError (Record schema.fields) :=
  schema.decodeOver (Record.initial schema.fields) bytes

end Schema

namespace Message

def encode {α : Type} [Message α] (message : α) : Bytes :=
  (schema α).encode (toRecord message)

/-- The message that the bytes hold. -/
def decode (α : Type) [Message α] (bytes : Bytes) : Except DecodeError α :=
  ((schema α).decode bytes).map ofRecord

end Message

end InfobaseGateway
