import InfobaseGateway.Message.Schema
import InfobaseGateway.Text.Quoted

/-!
# What the audit log sees of a message

Log records show a sanitized copy of a message, in which every credential that is not empty is
replaced by one mask, and name the cluster, the infobase and the user of a call. Both follow from
the roles of the fields, and so does the structured view of a message.
-/

namespace InfobaseGateway

/-- A credential as it may be shown: an empty one stays empty. -/
def maskText (text : String) : String :=
  if text = "" then text else mask

/-- Who and what a call is about. -/
structure AuditMetadata where
  clusterId : Option String
  infobaseId : Option String
  user : Option String
  deriving DecidableEq

namespace FieldKind

/-- The value of a credential field as it may be shown. -/
def sanitize : (kind : FieldKind) → kind.Value → kind.Value
  | plain .text, value => maskText value
  | optional .text, value => Option.map maskText value
  | _, value => value

/-- The text of a field, if it has one that is not empty. -/
def presentText? : (kind : FieldKind) → kind.Value → Option String
  | plain .text, value => if value = "" then none else some value
  | optional .text, value => Option.filter (fun text => text ≠ "") value
  | _, _ => none

end FieldKind

namespace Scalar

/-- The structured view of a value. A choice shows its name if it has one. -/
def view : (scalar : Scalar) → scalar.Value → String
  | text, value => Text.quote value
  | flag, value => Text.showFlag value
  | int32, value => toString value.toInt
  | uint32, value => toString value.toNat
  | int64, value => toString value.toInt
  | choice enumeration, value =>
    let number := value.toInt
    if number < 0 then toString number
    else (enumeration.names[number.toNat]?).getD (toString number)

end Scalar

def Slots.view : (slots : List Slot) → Slots slots → List (String × String)
  | [], _ => []
  | slot :: slots, (value, values) => (slot.name, slot.scalar.view value) :: Slots.view slots values

def Layout.view (layout : Layout) (values : Slots layout.slots) : String :=
  Text.showRecord layout.name (Slots.view layout.slots values)

def FieldKind.view : (kind : FieldKind) → kind.Value → String
  | plain scalar, value => scalar.view value
  | optional scalar, value => Text.showOption (Option.map scalar.view value)
  | nested layout, value => Text.showOption (Option.map layout.view value)
  | repeated layout, value => Text.showList (List.map layout.view value)

namespace Record

/-- A record whose credentials are masked. -/
def sanitize : (fields : List Field) → Record fields → Record fields
  | [], _ => ()
  | field :: fields, (value, values) =>
    (if field.role = .credential then field.kind.sanitize value else value,
      sanitize fields values)

/-- The text of the first field with the given role that has one that is not empty. -/
def textOf? (role : Role) : (fields : List Field) → Record fields → Option String
  | [], _ => none
  | field :: fields, (value, values) =>
    match if field.role = role then field.kind.presentText? value else none with
    | some text => some text
    | none => textOf? role fields values

def view : (fields : List Field) → Record fields → List (String × String)
  | [], _ => []
  | field :: fields, (value, values) => (field.name, field.kind.view value) :: view fields values

end Record

namespace Schema

/-- The sanitized copy of a record. -/
def sanitize (schema : Schema) (record : Record schema.fields) : Record schema.fields :=
  Record.sanitize schema.fields record

def metadata (schema : Schema) (record : Record schema.fields) : AuditMetadata where
  clusterId := Record.textOf? .cluster schema.fields record
  infobaseId := Record.textOf? .infobase schema.fields record
  user := Record.textOf? .user schema.fields record

def view (schema : Schema) (record : Record schema.fields) : String :=
  Text.showRecord schema.name (Record.view schema.fields record)

end Schema

namespace Message

variable {α : Type} [Message α]

def sanitize (message : α) : α :=
  ofRecord ((schema α).sanitize (toRecord message))

def metadata (message : α) : AuditMetadata :=
  (schema α).metadata (toRecord message)

def view (message : α) : String :=
  (schema α).view (toRecord message)

end Message

end InfobaseGateway
