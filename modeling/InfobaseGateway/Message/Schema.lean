/-!
# Message schemas

A message is a record whose fields are listed in a schema. The schema says for each field its name,
its tag on the wire, the kind of its values and the part it plays in the audit log. Printing,
sanitizing and the wire format are defined once, over schemas.
-/

namespace InfobaseGateway

/-- The names of an enumeration's values, by number. -/
structure Enumeration where
  names : List String

/-- The kinds of a single value. -/
inductive Scalar
  | text
  | flag
  | int32
  | uint32
  | int64
  | choice (names : Enumeration)

/-- The values of a scalar kind. A choice is any number, also one without a name. -/
@[reducible]
def Scalar.Value : Scalar → Type
  | .text => String
  | .flag => Bool
  | .int32 => Int32
  | .uint32 => UInt32
  | .int64 => Int64
  | .choice _ => Int32

/-- The value of a scalar that is not written. -/
def Scalar.initial : (scalar : Scalar) → scalar.Value
  | .text => ""
  | .flag => false
  | .int32 => (0 : Int32)
  | .uint32 => (0 : UInt32)
  | .int64 => (0 : Int64)
  | .choice _ => (0 : Int32)

instance (scalar : Scalar) : DecidableEq scalar.Value := by
  cases scalar <;> exact inferInstance

/-- A field of a flat record. -/
structure Slot where
  name : String
  tag : Nat
  scalar : Scalar

/-- The layout of a record that is nested in messages: plain scalars only. -/
structure Layout where
  name : String
  slots : List Slot

/-- The values of a list of slots. -/
@[reducible]
def Slots : List Slot → Type
  | [] => Unit
  | slot :: slots => slot.scalar.Value × Slots slots

/-- A record whose slots all hold the initial value. -/
def Slots.initial : (slots : List Slot) → Slots slots
  | [] => ()
  | slot :: slots => (slot.scalar.initial, Slots.initial slots)

instance Slots.decEq : (slots : List Slot) → DecidableEq (Slots slots)
  | [] => inferInstanceAs (DecidableEq Unit)
  | slot :: slots =>
    have := Slots.decEq slots
    inferInstanceAs (DecidableEq (slot.scalar.Value × Slots slots))

/-- What a field of a message holds. -/
inductive FieldKind
  /-- A value that is always there. -/
  | plain (scalar : Scalar)
  /-- A value that may be absent, and is then told apart from the initial value. -/
  | optional (scalar : Scalar)
  /-- A nested record that may be absent. -/
  | nested (layout : Layout)
  /-- Any number of nested records. -/
  | repeated (layout : Layout)

/-- The values of a field kind. -/
@[reducible]
def FieldKind.Value : FieldKind → Type
  | .plain scalar => scalar.Value
  | .optional scalar => Option scalar.Value
  | .nested layout => Option (Slots layout.slots)
  | .repeated layout => List (Slots layout.slots)

/-- The value of a field that is not written. -/
def FieldKind.initial : (kind : FieldKind) → kind.Value
  | .plain scalar => scalar.initial
  | .optional scalar => (none : Option scalar.Value)
  | .nested layout => (none : Option (Slots layout.slots))
  | .repeated layout => ([] : List (Slots layout.slots))

instance (kind : FieldKind) : DecidableEq kind.Value := by
  cases kind <;> exact inferInstance

/-- The part that a field plays in the audit log. -/
inductive Role
  | ordinary
  /-- Masked in every log record. -/
  | credential
  /-- Names the cluster of the call. -/
  | cluster
  /-- Names the infobase of the call. -/
  | infobase
  /-- Names the user on whose behalf the call is made. -/
  | user
  deriving DecidableEq

/-- A field of a message. -/
structure Field where
  name : String
  tag : Nat
  kind : FieldKind
  role : Role

/-- The fields of a message, in the order of their tags. -/
structure Schema where
  name : String
  fields : List Field

/-- The values of a list of fields. -/
@[reducible]
def Record : List Field → Type
  | [] => Unit
  | field :: fields => field.kind.Value × Record fields

/-- A record whose fields all hold the initial value. -/
def Record.initial : (fields : List Field) → Record fields
  | [] => ()
  | field :: fields => (field.kind.initial, Record.initial fields)

instance Record.decEq : (fields : List Field) → DecidableEq (Record fields)
  | [] => inferInstanceAs (DecidableEq Unit)
  | field :: fields =>
    have := Record.decEq fields
    inferInstanceAs (DecidableEq (field.kind.Value × Record fields))

/-- A type of messages: its schema, and the record that each message is. -/
class Message (α : Type) where
  schema : Schema
  toRecord : α → Record schema.fields
  ofRecord : Record schema.fields → α
  ofRecord_toRecord (message : α) : ofRecord (toRecord message) = message
  toRecord_ofRecord (record : Record schema.fields) : toRecord (ofRecord record) = record

end InfobaseGateway
