import InfobaseGateway.Message.Schema

/-!
# Records laid over one another

What becomes of a record when another one of its type is laid over it: a plain field is replaced
unless the upper one has the initial value, an optional field is replaced if the upper one is
present, nested records are laid over one another slot by slot, and lists are joined. Over the
initial record every record is itself.
-/

namespace InfobaseGateway

/-- A plain value with another one laid over it. -/
def Scalar.overlay (scalar : Scalar) (lower upper : scalar.Value) : scalar.Value :=
  if upper = scalar.initial then lower else upper

/-- A flat record with another one laid over it, slot by slot. -/
def Slots.overlay : (slots : List Slot) → (lower upper : Slots slots) → Slots slots
  | [], _, _ => ()
  | slot :: slots, (lower, lowers), (upper, uppers) =>
    (slot.scalar.overlay lower upper, overlay slots lowers uppers)

/-- The value of a field with another one laid over it. -/
def FieldKind.overlay : (kind : FieldKind) → (lower upper : kind.Value) → kind.Value
  | plain scalar, lower, upper => scalar.overlay lower upper
  | optional _, lower, upper =>
    match upper with
    | some value => some value
    | none => lower
  | nested layout, lower, upper =>
    match lower, upper with
    | some lower, some upper => some (Slots.overlay layout.slots lower upper)
    | none, some upper => some upper
    | lower, none => lower
  | repeated _, lower, upper => lower ++ upper

/-- A record with another one laid over it, field by field. -/
def Record.overlay : (fields : List Field) → (lower upper : Record fields) → Record fields
  | [], _, _ => ()
  | field :: fields, (lower, lowers), (upper, uppers) =>
    (field.kind.overlay lower upper, overlay fields lowers uppers)

theorem Scalar.overlay_initial (scalar : Scalar) (value : scalar.Value) :
    scalar.overlay scalar.initial value = value := by
  unfold overlay
  by_cases h : value = scalar.initial
  · rw [if_pos h, h]
  · rw [if_neg h]

theorem Slots.overlay_initial (slots : List Slot) (values : Slots slots) :
    overlay slots (initial slots) values = values := by
  induction slots with
  | nil => rfl
  | cons slot slots ih =>
    obtain ⟨value, values⟩ := values
    simp only [overlay, initial, Scalar.overlay_initial, ih]

theorem FieldKind.overlay_initial (kind : FieldKind) (value : kind.Value) :
    kind.overlay kind.initial value = value := by
  cases kind with
  | plain scalar => exact scalar.overlay_initial value
  | optional scalar =>
    cases value with
    | none => rfl
    | some value => rfl
  | nested layout =>
    cases value with
    | none => rfl
    | some values => rfl
  | repeated layout => exact List.nil_append value

theorem Record.overlay_initial (fields : List Field) (record : Record fields) :
    overlay fields (initial fields) record = record := by
  induction fields with
  | nil => rfl
  | cons field fields ih =>
    obtain ⟨value, values⟩ := record
    simp only [overlay, initial, FieldKind.overlay_initial, ih]

end InfobaseGateway
