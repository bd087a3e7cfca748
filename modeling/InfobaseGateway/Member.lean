import InfobaseGateway.Text.Quoted
import InfobaseGateway.Time.Instant

/-!
# Members of records

Requests and infobase records list their members by name. Views are written from these lists, so a
password is hidden wherever a record is shown.
-/

namespace InfobaseGateway

/-- What a member of a record holds. -/
inductive Datum
  | text (value : String)
  /-- Hidden in every view. -/
  | password (value : String)
  | flag (value : Bool)
  | number (value : Int)
  | instant (value : Instant)
  /-- A word of a fixed vocabulary: its name in records and its name in views. -/
  | word (name view : String)
  deriving DecidableEq

namespace Datum

/-- The structured view of a datum. A password is hidden also when it is empty. -/
def view : Datum → String
  | text value => Text.quote value
  | password _ => Text.quote mask
  | flag value => Text.showFlag value
  | number value => toString value
  | instant value => value.view
  | word _ view => view

end Datum

/-- The types whose values can be members. -/
class HasDatum (α : Type) where
  datum : α → Datum

instance : HasDatum String := ⟨.text⟩

instance : HasDatum Bool := ⟨.flag⟩

instance : HasDatum Int32 := ⟨fun n => .number n.toInt⟩

instance : HasDatum UInt32 := ⟨fun n => .number n.toNat⟩

instance : HasDatum Instant := ⟨.instant⟩

/-- A named member of a record. -/
inductive Member
  | plain (name : String) (datum : Datum)
  | optional (name : String) (datum : Option Datum)
  deriving DecidableEq

namespace Member

/-- A member that is always there. -/
def ofValue {α : Type} [HasDatum α] (name : String) (value : α) : Member :=
  .plain name (HasDatum.datum value)

/-- A member that may be absent. -/
def ofOption {α : Type} [HasDatum α] (name : String) (value : Option α) : Member :=
  .optional name (value.map HasDatum.datum)

/-- A password that may be absent. -/
def ofPassword (name : String) (value : Option String) : Member :=
  .optional name (value.map .password)

/-- The name of a member with the structured view of what it holds. -/
def view : Member → String × String
  | plain name datum => (name, datum.view)
  | optional name datum => (name, Text.showOption (datum.map Datum.view))

end Member

end InfobaseGateway
