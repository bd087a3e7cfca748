import InfobaseGateway.Message.Audit
import InfobaseGateway.Rpc.Method

/-!
# Sanitized copies

The copy of a message that may be shown forgets what its passwords say, and nothing else. Two
messages have the same copy exactly if they agree on every field that is no password and each
password is absent, empty or written in both. The passwords are listed here by name, so that the
roles in the schemas are not taken at their word.
-/

namespace InfobaseGateway

/-! ## Masks -/

@[simp]
theorem maskText_maskText (text : String) : maskText (maskText text) = maskText text := by
  unfold maskText
  by_cases hempty : text = ""
  · simp [hempty]
  · simp [hempty]

theorem maskText_empty : maskText "" = "" := rfl

/-! ## Fields -/

/-- What can be told of a text without reading it. -/
inductive Outline
  | absent
  | empty
  | written

namespace Outline

def ofText (text : String) : Outline :=
  if text = "" then .empty else .written

theorem ofText_ne_absent (text : String) : ofText text ≠ .absent := by
  unfold ofText
  split
  · nofun
  · nofun

theorem eq_empty_of_ofText_ne_written {text : String} (htext : ofText text ≠ .written) :
    text = "" :=
  Decidable.byContradiction fun hwritten => htext (if_neg hwritten)

end Outline

/-- The mask tells of a text what its outline tells. -/
theorem maskText_eq_maskText_iff (text other : String) :
    maskText text = maskText other ↔ Outline.ofText text = Outline.ofText other := by
  have hmask : mask ≠ "" := by decide
  unfold maskText Outline.ofText
  by_cases htext : text = ""
  · by_cases hother : other = ""
    · simp [htext, hother]
    · simp [htext, hother, hmask.symm]
  · by_cases hother : other = ""
    · simp [htext, hother, hmask]
    · simp [htext, hother]

namespace FieldKind

/-- The outline of a field that holds a text. -/
def outline : (kind : FieldKind) → kind.Value → Outline
  | plain .text, value => Outline.ofText value
  | optional .text, value => Option.elim value .absent Outline.ofText
  | _, _ => .absent

/-- The field holds a text, given or not. -/
inductive IsText : FieldKind → Prop
  | plain : IsText (.plain .text)
  | optional : IsText (.optional .text)

@[simp]
theorem sanitize_sanitize (kind : FieldKind) (value : kind.Value) :
    kind.sanitize (kind.sanitize value) = kind.sanitize value := by
  match kind, value with
  | plain .text, value => exact maskText_maskText value
  | optional .text, none => rfl
  | optional .text, some text => exact congrArg some (maskText_maskText text)
  | plain .flag, _ | plain .int32, _ | plain .uint32, _ | plain .int64, _
  | plain (.choice _), _ | optional .flag, _ | optional .int32, _ | optional .uint32, _
  | optional .int64, _ | optional (.choice _), _ | nested _, _ | repeated _, _ => rfl

/-- The masked value of a text is settled by its outline, and settles it. -/
theorem sanitize_eq_sanitize_iff
    {kind : FieldKind} (hkind : kind.IsText) (value other : kind.Value) :
    kind.sanitize value = kind.sanitize other ↔ kind.outline value = kind.outline other := by
  cases hkind with
  | plain => exact maskText_eq_maskText_iff value other
  | optional =>
    match value, other with
    | none, none => exact ⟨fun _ => rfl, fun _ => rfl⟩
    | none, some text =>
      exact ⟨nofun, fun houtline => absurd houtline.symm (Outline.ofText_ne_absent text)⟩
    | some text, none =>
      exact ⟨nofun, fun houtline => absurd houtline (Outline.ofText_ne_absent text)⟩
    | some text, some other =>
      show some (maskText text) = some (maskText other) ↔
        Outline.ofText text = Outline.ofText other
      rw [Option.some_inj, maskText_eq_maskText_iff]

/-- A text that is not written is shown as it is. -/
theorem sanitize_of_outline_ne_written
    {kind : FieldKind} (hkind : kind.IsText) {value : kind.Value}
    (hvalue : kind.outline value ≠ .written) :
    kind.sanitize value = value := by
  cases hkind with
  | plain =>
    obtain rfl := Outline.eq_empty_of_ofText_ne_written hvalue
    exact maskText_empty
  | optional =>
    match value with
    | none => rfl
    | some text =>
      obtain rfl := Outline.eq_empty_of_ofText_ne_written hvalue
      exact congrArg some maskText_empty

end FieldKind

/-! ## Records -/

/-- The fields that hold a password, by name. -/
def passwordNames : List String :=
  ["db_password", "cluster_password", "password"]

/-- The credentials among the fields are the passwords, and each is a text. -/
structure MasksPasswords (fields : List Field) : Prop where
  credential_iff : ∀ field ∈ fields, field.role = .credential ↔ field.name ∈ passwordNames
  isText : ∀ field ∈ fields, field.role = .credential → field.kind.IsText

namespace Record

/-- Two records agree on every field that is no password, and each password is absent, empty or
written in both. -/
def AgreeButPasswords : (fields : List Field) → Record fields → Record fields → Prop
  | [], _, _ => True
  | field :: fields, (value, values), (other, others) =>
    (if field.name ∈ passwordNames then field.kind.outline value = field.kind.outline other
      else value = other) ∧
      AgreeButPasswords fields values others

/-- Some password of the record is not empty. -/
def WritesPassword : (fields : List Field) → Record fields → Prop
  | [], _ => False
  | field :: fields, (value, values) =>
    (field.name ∈ passwordNames ∧ field.kind.outline value = .written) ∨
      WritesPassword fields values

theorem sanitize_sanitize (fields : List Field) (record : Record fields) :
    sanitize fields (sanitize fields record) = sanitize fields record := by
  induction fields with
  | nil => rfl
  | cons field fields ih =>
    obtain ⟨value, values⟩ := record
    by_cases hfield : field.role = .credential
    · simp only [sanitize, if_pos hfield, ih, FieldKind.sanitize_sanitize]
    · simp only [sanitize, if_neg hfield, ih]

/-- Masking the credentials of a record changes no other field. -/
theorem textOf?_sanitize
    {role : Role} (hrole : role ≠ .credential) (fields : List Field) (record : Record fields) :
    textOf? role fields (sanitize fields record) = textOf? role fields record := by
  induction fields with
  | nil => rfl
  | cons field fields ih =>
    obtain ⟨value, values⟩ := record
    by_cases hfield : field.role = role
    · have hother : field.role ≠ .credential := by
        rw [hfield]
        exact hrole
      simp only [sanitize, textOf?, if_neg hother, ih]
    · simp only [sanitize, textOf?, if_neg hfield, ih]

end Record

namespace MasksPasswords

variable {field : Field} {fields : List Field}

theorem tail (hmasks : MasksPasswords (field :: fields)) : MasksPasswords fields where
  credential_iff other hother := hmasks.credential_iff other (List.mem_cons_of_mem field hother)
  isText other hother := hmasks.isText other (List.mem_cons_of_mem field hother)

theorem role_eq_iff (hmasks : MasksPasswords (field :: fields)) :
    field.role = .credential ↔ field.name ∈ passwordNames :=
  hmasks.credential_iff field List.mem_cons_self

theorem isText_head
    (hmasks : MasksPasswords (field :: fields)) (hrole : field.role = .credential) :
    field.kind.IsText :=
  hmasks.isText field List.mem_cons_self hrole

theorem sanitize_eq_sanitize_iff
    (hmasks : MasksPasswords fields) (record other : Record fields) :
    Record.sanitize fields record = Record.sanitize fields other ↔
      Record.AgreeButPasswords fields record other := by
  induction fields with
  | nil => exact ⟨fun _ => trivial, fun _ => rfl⟩
  | cons field fields ih =>
    obtain ⟨value, values⟩ := record
    obtain ⟨otherValue, others⟩ := other
    rw [Record.AgreeButPasswords, ← ih hmasks.tail]
    by_cases hrole : field.role = .credential
    · simp only [Record.sanitize, if_pos hrole, if_pos (hmasks.role_eq_iff.mp hrole),
        Prod.mk.injEq, FieldKind.sanitize_eq_sanitize_iff (hmasks.isText_head hrole)]
    · have hname : field.name ∉ passwordNames := fun hname =>
        hrole (hmasks.role_eq_iff.mpr hname)
      simp only [Record.sanitize, if_neg hrole, if_neg hname, Prod.mk.injEq]

theorem sanitize_eq_self
    (hmasks : MasksPasswords fields) {record : Record fields}
    (hrecord : ¬ Record.WritesPassword fields record) :
    Record.sanitize fields record = record := by
  induction fields with
  | nil => rfl
  | cons field fields ih =>
    obtain ⟨value, values⟩ := record
    rw [Record.WritesPassword, not_or, not_and] at hrecord
    obtain ⟨hvalue, hvalues⟩ := hrecord
    rw [Record.sanitize, ih hmasks.tail hvalues]
    by_cases hrole : field.role = .credential
    · rw [if_pos hrole, FieldKind.sanitize_of_outline_ne_written (hmasks.isText_head hrole)
        (hvalue (hmasks.role_eq_iff.mp hrole))]
    · rw [if_neg hrole]

end MasksPasswords

/-! ## Messages -/

theorem Schema.metadata_sanitize (schema : Schema) (record : Record schema.fields) :
    schema.metadata (schema.sanitize record) = schema.metadata record := by
  have hcluster : Role.cluster ≠ .credential := nofun
  have hinfobase : Role.infobase ≠ .credential := nofun
  have huser : Role.user ≠ .credential := nofun
  unfold metadata sanitize
  rw [Record.textOf?_sanitize hcluster, Record.textOf?_sanitize hinfobase,
    Record.textOf?_sanitize huser]

namespace Message

variable {α : Type} [Message α]

theorem toRecord_sanitize (message : α) :
    toRecord (sanitize message) = (schema α).sanitize (toRecord message) := by
  rw [sanitize, toRecord_ofRecord]

theorem toRecord_inj {message other : α} : toRecord message = toRecord other ↔ message = other := by
  constructor
  · intro hrecord
    rw [← ofRecord_toRecord message, hrecord, ofRecord_toRecord]
  · intro hmessage
    rw [hmessage]

end Message

namespace Rpc

/-- The schemas of all requests call exactly the passwords credentials. -/
theorem masksPasswords (rpc : Rpc) : MasksPasswords (Message.schema rpc.Request).fields where
  credential_iff := by
    cases rpc with
    | _ => decide
  isText := by
    cases rpc with
    | _ => simp [Message.schema, FieldKind.IsText.plain, FieldKind.IsText.optional]

/-- What the sanitized copies of the requests of a method tell of them. -/
structure SanitizesPasswords (rpc : Rpc) : Prop where
  /-- The copy forgets what the passwords say, and only that. -/
  same_iff : ∀ message other : rpc.Request,
    Message.sanitize message = Message.sanitize other ↔
      Record.AgreeButPasswords (Message.schema rpc.Request).fields
        (Message.toRecord message) (Message.toRecord other)
  idempotent : ∀ message : rpc.Request,
    Message.sanitize (Message.sanitize message) = Message.sanitize message
  metadata : ∀ message : rpc.Request,
    Message.metadata (Message.sanitize message) = Message.metadata message
  /-- A message in which no password is written is its own copy. -/
  unchanged : ∀ message : rpc.Request,
    ¬ Record.WritesPassword (Message.schema rpc.Request).fields (Message.toRecord message) →
      Message.sanitize message = message

theorem sanitizes_passwords (rpc : Rpc) : rpc.SanitizesPasswords where
  same_iff message other := by
    rw [← Message.toRecord_inj, Message.toRecord_sanitize, Message.toRecord_sanitize]
    exact rpc.masksPasswords.sanitize_eq_sanitize_iff _ _
  idempotent message := by
    rw [← Message.toRecord_inj, Message.toRecord_sanitize, Message.toRecord_sanitize]
    exact Record.sanitize_sanitize _ _
  metadata message := by
    rw [Message.metadata, Message.toRecord_sanitize]
    exact Schema.metadata_sanitize _ _
  unchanged message hmessage := by
    rw [← Message.toRecord_inj, Message.toRecord_sanitize]
    exact rpc.masksPasswords.sanitize_eq_self hmessage

end Rpc

end InfobaseGateway
