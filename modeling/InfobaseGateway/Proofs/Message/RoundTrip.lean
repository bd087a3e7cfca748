import InfobaseGateway.Message.Codec
import InfobaseGateway.Proofs.Message.Overlay
import InfobaseGateway.Proofs.Wire.Written
import InfobaseGateway.Rpc.Directory

/-!
# Messages on the wire

Bytes that were written from a message are read over any record of its type as that record with the
message laid over it. So the bytes of two messages in a row hold the second one laid over the first,
and the bytes of one message hold that message.

The proof goes along the schema. Each field writes a key and a payload, and the reader finds the
field by the tag in the key; this needs the tags of a schema to be distinct. A nested record is read
in the same way within the bytes of its own.
-/

namespace InfobaseGateway

open Wire

/-! ## Scalars -/

namespace Scalar

/-- The number that is written for a value, unless it is a text. -/
def number : (scalar : Scalar) → scalar.Value → Nat
  | text, _ => 0
  | flag, value => Bool.toNat value
  | int32, value => (Int32.toInt64 value).toUInt64.toNat
  | uint32, value => UInt32.toNat value
  | int64, value => (Int64.toUInt64 value).toNat
  | choice _, value => (Int32.toInt64 value).toUInt64.toNat

/-- What stands behind the key of a value. -/
def payload : (scalar : Scalar) → scalar.Value → Bytes
  | text, value => Varint.encode (utf8Bytes value).length ++ utf8Bytes value
  | scalar, value => Varint.encode (scalar.number value)

theorem encode_eq_append (tag : Nat) (scalar : Scalar) (value : scalar.Value) :
    scalar.encode tag value = encodeKey tag scalar.wireType ++ scalar.payload value := by
  cases scalar with
  | text => exact List.append_assoc ..
  | _ => rfl

theorem number_lt (scalar : Scalar) (value : scalar.Value) : scalar.number value < 2 ^ 64 := by
  cases scalar with
  | text => exact Nat.two_pow_pos 64
  | flag => exact (Bool.toNat_le value).trans_lt (by decide)
  | int32 | choice => exact UInt64.toNat_lt _
  | uint32 => exact (UInt32.toNat_lt value).trans (by decide)
  | int64 => exact UInt64.toNat_lt _

/-- A number of 32 bits is extended by its sign, and cut off again. -/
theorem toInt32_ofNat_toUInt64 (n : Int32) :
    (UInt32.ofNat n.toInt64.toUInt64.toNat).toInt32 = n := by
  have hcut : (UInt32.ofNat n.toInt64.toUInt64.toNat).toBitVec =
      n.toInt64.toBitVec.signExtend 32 := by
    rw [BitVec.signExtend_eq_setWidth_of_le _ (by decide)]
    rfl
  have hback : (UInt32.ofNat n.toInt64.toUInt64.toNat).toInt32 = n.toInt64.toInt32 :=
    congrArg (fun bits => Int32.ofUInt32 (UInt32.ofBitVec bits)) hcut
  rw [hback, n.toInt32_toInt64]

theorem ofVarint_number {scalar : Scalar} (hnumber : scalar ≠ text) (value : scalar.Value) :
    scalar.ofVarint (scalar.number value) = value := by
  cases scalar with
  | text => exact absurd rfl hnumber
  | flag => cases value <;> rfl
  | int32 | choice => exact toInt32_ofNat_toUInt64 value
  | uint32 => exact UInt32.ofNat_toNat
  | int64 =>
    show (UInt64.ofNat (Int64.toUInt64 value).toNat).toInt64 = value
    rw [UInt64.ofNat_toNat, Int64.toInt64_toUInt64]

/-- A value is read from its payload, whatever follows. -/
theorem decode_payload_append
    (scalar : Scalar) {value : scalar.Value} (hsize : (scalar.payload value).length < 2 ^ 64)
    (rest : Bytes) :
    scalar.decode scalar.wireType (scalar.payload value ++ rest) = .ok (value, rest) := by
  unfold decode
  rw [if_neg (not_not_intro rfl)]
  cases scalar with
  | text =>
    have hlength : (utf8Bytes value).length < 2 ^ 64 := by
      simp only [payload, List.length_append] at hsize
      omega
    simp only [payload, decodeBytes_append hlength, bind, Except.bind, textOfUtf8?_utf8Bytes]
  | flag | int32 | uint32 | int64 | choice =>
    have hnumber := ofVarint_number (by simp) value
    simp only [payload, Varint.decode_encode_append (number_lt _ value), bind, Except.bind, pure,
      Except.pure, hnumber]

end Scalar

/-! ## Tags -/

/-- Tags by which the fields of a record can be told apart on the wire. -/
def AreTags (tags : List Nat) : Prop :=
  tags.Nodup ∧ ∀ tag ∈ tags, IsTag tag

instance (tags : List Nat) : Decidable (AreTags tags) :=
  inferInstanceAs (Decidable (tags.Nodup ∧ ∀ tag ∈ tags, IsTag tag))

theorem areTags_cons_iff (tag : Nat) (tags : List Nat) :
    AreTags (tag :: tags) ↔ IsTag tag ∧ tag ∉ tags ∧ AreTags tags := by
  unfold AreTags
  rw [List.nodup_cons, List.forall_mem_cons]
  tauto

def Layout.IsTagged (layout : Layout) : Prop :=
  AreTags (layout.slots.map Slot.tag)

instance (layout : Layout) : Decidable layout.IsTagged :=
  inferInstanceAs (Decidable (AreTags _))

/-- Whether the records that are nested in a field have tags of their own. -/
def FieldKind.IsTagged : FieldKind → Prop
  | plain _ | optional _ => True
  | nested layout | repeated layout => layout.IsTagged

instance : (kind : FieldKind) → Decidable kind.IsTagged
  | .plain _ | .optional _ => inferInstanceAs (Decidable True)
  | .nested layout | .repeated layout => inferInstanceAs (Decidable layout.IsTagged)

/-- Whether the fields of a list, and the slots of the records nested in them, have tags. -/
def Field.AreTagged (fields : List Field) : Prop :=
  AreTags (fields.map Field.tag) ∧ ∀ field ∈ fields, field.kind.IsTagged

instance (fields : List Field) : Decidable (Field.AreTagged fields) :=
  inferInstanceAs (Decidable (AreTags _ ∧ ∀ field ∈ fields, field.kind.IsTagged))

theorem Field.areTagged_cons_iff (field : Field) (fields : List Field) :
    AreTagged (field :: fields) ↔
      IsTag field.tag ∧ field.tag ∉ fields.map Field.tag ∧ field.kind.IsTagged ∧
        AreTagged fields := by
  unfold AreTagged
  rw [List.map_cons, areTags_cons_iff, List.forall_mem_cons]
  tauto

/-- The schemas of all messages are well tagged. -/
theorem Schema.areTagged_of_mem_all : ∀ schema ∈ Schema.all, Field.AreTagged schema.fields := by
  decide

/-! ## Flat records -/

namespace Slots

variable {layout : String} {slot : Slot} {slots rest : List Slot}

/-- The record is put together from the last of its slots, and a field with one of their tags is
read there. -/
def ReadsThrough (layout : String) (put : Slots rest → Slots slots) : Prop :=
  ∀ key : Key, key.tag ∈ rest.map Slot.tag → ∀ values bytes,
    readField layout key slots (put values) bytes =
      (readField layout key rest values bytes).map fun (values, bytes) => (put values, bytes)

theorem readsThrough_id : ReadsThrough layout (id : Slots slots → Slots slots) := by
  intro key htag values bytes
  show _ = Except.map id _
  rw [Except.map_id]
  rfl

theorem ReadsThrough.tail
    {put : Slots (slot :: rest) → Slots slots} (h : ReadsThrough layout put)
    (hnew : slot.tag ∉ rest.map Slot.tag) (value : slot.scalar.Value) :
    ReadsThrough layout fun values => put (value, values) := by
  intro key htag values bytes
  have hother : slot.tag ≠ key.tag := by
    rintro hsame
    rw [hsame] at hnew
    exact hnew htag
  rw [h key (List.mem_cons_of_mem _ htag)]
  simp only [readField, if_neg hother, bind, Except.bind]
  cases readField layout key rest values bytes with
  | error error => rfl
  | ok read => rfl

end Slots

namespace Layout

variable {layout : Layout} {slot : Slot} {rest : List Slot} {left : Nat}

theorem readUntil_left (fuel : Nat) (values : Slots layout.slots) (bytes : Bytes) :
    layout.readUntil bytes.length fuel values bytes = .ok (values, bytes) := by
  unfold readUntil
  exact if_pos rfl

/-- A scalar is read into its slot. -/
theorem reads_slot
    {put : Slots (slot :: rest) → Slots layout.slots}
    (hput : Slots.ReadsThrough layout.name put) (htag : IsTag slot.tag)
    (lower : slot.scalar.Value) {upper : slot.scalar.Value}
    (hsize : (slot.scalar.encode slot.tag upper).length < 2 ^ 64) (values : Slots rest) :
    Reads (layout.readUntil left) left (put (lower, values)) (slot.scalar.encode slot.tag upper)
      (put (upper, values)) := by
  rw [Scalar.encode_eq_append] at hsize ⊢
  have hkey := encodeKey_ne_nil slot.tag slot.scalar.wireType
  apply Reads.field (List.append_ne_nil_of_left_ne_nil hkey _)
  intro fuel tail hleft
  rw [List.append_assoc]
  have hlong : left < (encodeKey slot.tag slot.scalar.wireType ++
      (slot.scalar.payload upper ++ tail)).length := by
    have := List.length_pos_iff.mpr hkey
    simp only [List.length_append]
    omega
  have hpayload : (slot.scalar.payload upper).length < 2 ^ 64 := by
    rw [List.length_append] at hsize
    omega
  have hread : Slots.readField layout.name ⟨slot.tag, slot.scalar.wireType⟩ layout.slots
      (put (lower, values)) (slot.scalar.payload upper ++ tail) =
        .ok (put (upper, values), tail) := by
    rw [hput _ List.mem_cons_self]
    simp only [Slots.readField, slot.scalar.decode_payload_append hpayload, if_true]
    rfl
  rw [readUntil, if_neg hlong.ne', if_neg (Nat.not_lt.mpr hlong.le)]
  simp only [decodeKey_encodeKey_append htag, bind, Except.bind, hread]

/-- The bytes of a flat record are read over another one as the overlay of the two. -/
theorem reads_encode
    {put : Slots rest → Slots layout.slots} (hput : Slots.ReadsThrough layout.name put)
    (htags : AreTags (rest.map Slot.tag)) (lower : Slots rest) {upper : Slots rest}
    (hsize : (Slots.encode rest upper).length < 2 ^ 64) :
    Reads (layout.readUntil left) left (put lower) (Slots.encode rest upper)
      (put (Slots.overlay rest lower upper)) := by
  induction rest with
  | nil => exact .nil _
  | cons slot rest ih =>
    obtain ⟨value, lowers⟩ := lower
    obtain ⟨upper, uppers⟩ := upper
    rw [List.map_cons, areTags_cons_iff] at htags
    obtain ⟨htag, hnew, htags⟩ := htags
    simp only [Slots.encode, List.length_append] at hsize
    simp only [Slots.encode, Slots.overlay, Scalar.overlay]
    by_cases hinitial : upper = slot.scalar.initial
    · rw [if_pos hinitial, if_pos hinitial, List.nil_append]
      exact ih (hput.tail hnew value) htags lowers (by omega)
    · rw [if_neg hinitial] at hsize
      rw [if_neg hinitial, if_neg hinitial]
      exact (reads_slot hput htag value (by omega) lowers).append
        (ih (hput.tail hnew upper) htags lowers (by omega))

/-- A nested record is read over the one that is there, whatever follows it. -/
theorem decodeOver_encode_append
    (htags : layout.IsTagged) (lower : Slots layout.slots) {upper : Slots layout.slots}
    (hsize : (Slots.encode layout.slots upper).length < 2 ^ 64) (tail : Bytes) :
    layout.decodeOver lower .lengthDelimited
        (Varint.encode (Slots.encode layout.slots upper).length ++
          Slots.encode layout.slots upper ++ tail) =
      .ok (Slots.overlay layout.slots lower upper, tail) := by
  have hlength : decodeLength (Varint.encode (Slots.encode layout.slots upper).length ++
      (Slots.encode layout.slots upper ++ tail)) =
        .ok ((Slots.encode layout.slots upper).length, Slots.encode layout.slots upper ++ tail) :=
    decodeLength_encode_append hsize (by simp)
  have hleft : (Slots.encode layout.slots upper ++ tail).length -
      (Slots.encode layout.slots upper).length = tail.length := by simp
  have hreads : Reads (layout.readUntil tail.length) tail.length lower
      (Slots.encode layout.slots upper) (Slots.overlay layout.slots lower upper) :=
    reads_encode Slots.readsThrough_id htags lower hsize
  obtain ⟨fuel, -, hread⟩ :=
    hreads (Slots.encode layout.slots upper ++ tail).length tail le_rfl (by omega)
  unfold decodeOver
  rw [if_neg (not_not_intro rfl), List.append_assoc]
  simp only [hlength, bind, Except.bind, hleft]
  exact hread.trans (readUntil_left fuel _ tail)

end Layout

/-! ## Records -/

namespace Record

variable {schema : String} {field : Field} {fields rest : List Field}

/-- The record is put together from the last of its fields, and what has one of their tags is read
there. -/
def ReadsThrough (schema : String) (put : Record rest → Record fields) : Prop :=
  ∀ key : Key, key.tag ∈ rest.map Field.tag → ∀ record bytes,
    readField schema key fields (put record) bytes =
      (readField schema key rest record bytes).map fun (record, bytes) => (put record, bytes)

theorem readsThrough_id : ReadsThrough schema (id : Record fields → Record fields) := by
  intro key htag record bytes
  show _ = Except.map id _
  rw [Except.map_id]
  rfl

theorem ReadsThrough.tail
    {put : Record (field :: rest) → Record fields} (h : ReadsThrough schema put)
    (hnew : field.tag ∉ rest.map Field.tag) (value : field.kind.Value) :
    ReadsThrough schema fun record => put (value, record) := by
  intro key htag record bytes
  have hother : field.tag ≠ key.tag := by
    rintro hsame
    rw [hsame] at hnew
    exact hnew htag
  rw [h key (List.mem_cons_of_mem _ htag)]
  simp only [readField, if_neg hother, bind, Except.bind]
  cases readField schema key rest record bytes with
  | error error => rfl
  | ok read => rfl

end Record

namespace Schema

variable {schema : Schema} {field : Field} {rest : List Field}

theorem readWithin_of_readField
    {key : Key} {bytes rest rest' : Bytes} {record record' : Record schema.fields}
    (hkey : decodeKey bytes = .ok (key, rest))
    (hfield : Record.readField schema.name key schema.fields record rest = .ok (record', rest'))
    (fuel : Nat) :
    schema.readWithin (fuel + 1) record bytes = schema.readWithin fuel record' rest' := by
  cases bytes with
  | nil => cases hkey
  | cons byte bytes => simp only [readWithin, hkey, bind, Except.bind, hfield]

/-- A payload is read into its field. -/
theorem reads_payload
    {put : Record (field :: rest) → Record schema.fields}
    (hput : Record.ReadsThrough schema.name put) (htag : IsTag field.tag)
    {wireType : WireType} {payload : Bytes} {value value' : field.kind.Value}
    (hread : ∀ tail, field.kind.decodeOver value wireType (payload ++ tail) = .ok (value', tail))
    (record : Record rest) :
    Reads schema.readWithin 0 (put (value, record)) (encodeKey field.tag wireType ++ payload)
      (put (value', record)) := by
  have hkey := encodeKey_ne_nil field.tag wireType
  apply Reads.field (List.append_ne_nil_of_left_ne_nil hkey _)
  intro fuel tail _
  have hfield : Record.readField schema.name ⟨field.tag, wireType⟩ schema.fields
      (put (value, record)) (payload ++ tail) = .ok (put (value', record), tail) := by
    rw [hput _ List.mem_cons_self]
    simp only [Record.readField, hread, if_true]
    rfl
  have hdecode : decodeKey (encodeKey field.tag wireType ++ payload ++ tail) =
      .ok (⟨field.tag, wireType⟩, payload ++ tail) := by
    rw [List.append_assoc, decodeKey_encodeKey_append htag]
  exact readWithin_of_readField hdecode hfield fuel

/-- The bytes of a nested record are read by anything that reads it from its payload. -/
theorem reads_nested
    {put : Record (field :: rest) → Record schema.fields}
    (hput : Record.ReadsThrough schema.name put) (htag : IsTag field.tag)
    {payload : Bytes} {value value' : field.kind.Value}
    (hread : ∀ tail, field.kind.decodeOver value .lengthDelimited
      (Varint.encode payload.length ++ payload ++ tail) = .ok (value', tail))
    (record : Record rest) :
    Reads schema.readWithin 0 (put (value, record)) (encodeBytesField field.tag payload)
      (put (value', record)) := by
  unfold encodeBytesField
  rw [List.append_assoc]
  exact reads_payload hput htag hread record

/-- The entries of a listing are read behind the ones that are there. -/
theorem reads_entries
    {name : String} {tag : Nat} {layout : Layout} {role : Role}
    {put : Record (⟨name, tag, .repeated layout, role⟩ :: rest) → Record schema.fields}
    (hput : Record.ReadsThrough schema.name put) (htag : IsTag tag) (htagged : layout.IsTagged)
    (lower upper : List (Slots layout.slots))
    (hsize : (FieldKind.encode tag (.repeated layout) upper).length < 2 ^ 64)
    (record : Record rest) :
    Reads schema.readWithin 0 (put (lower, record)) (FieldKind.encode tag (.repeated layout) upper)
      (put (lower ++ upper, record)) := by
  induction upper generalizing lower with
  | nil =>
    rw [List.append_nil]
    exact .nil _
  | cons entry upper ih =>
    have hlength := length_le_encodeBytesField tag (Slots.encode layout.slots entry)
    simp only [FieldKind.encode, List.flatMap_cons, List.length_append] at hsize
    have hentry : ∀ tail, FieldKind.decodeOver (.repeated layout) lower .lengthDelimited
        (Varint.encode (Slots.encode layout.slots entry).length ++
          Slots.encode layout.slots entry ++ tail) = .ok (lower ++ [entry], tail) := by
      intro tail
      have hsmall : (Slots.encode layout.slots entry).length < 2 ^ 64 := by omega
      have hread :=
        Layout.decodeOver_encode_append htagged (Slots.initial layout.slots) hsmall tail
      rw [Slots.overlay_initial] at hread
      simp only [FieldKind.decodeOver, hread]
      rfl
    have hrest := ih (lower ++ [entry]) (by simp only [FieldKind.encode]; omega)
    rw [List.append_assoc, List.singleton_append] at hrest
    exact (reads_nested hput htag hentry record).append hrest

/-- What is written for a field is read over the value that is there. -/
theorem reads_field
    {put : Record (field :: rest) → Record schema.fields}
    (hput : Record.ReadsThrough schema.name put) (htag : IsTag field.tag)
    (htagged : field.kind.IsTagged) (lower : field.kind.Value) {upper : field.kind.Value}
    (hsize : (field.kind.encode field.tag upper).length < 2 ^ 64) (record : Record rest) :
    Reads schema.readWithin 0 (put (lower, record)) (field.kind.encode field.tag upper)
      (put (field.kind.overlay lower upper, record)) := by
  obtain ⟨name, tag, kind, role⟩ := field
  cases kind with
  | plain scalar =>
    simp only [FieldKind.encode, FieldKind.overlay, Scalar.overlay] at hsize ⊢
    by_cases hinitial : upper = scalar.initial
    · rw [if_pos hinitial, if_pos hinitial]
      exact .nil _
    · rw [if_neg hinitial, Scalar.encode_eq_append] at hsize ⊢
      rw [if_neg hinitial]
      rw [List.length_append] at hsize
      exact reads_payload hput htag
        (fun tail => scalar.decode_payload_append (by omega) tail) record
  | optional scalar =>
    cases upper with
    | none => exact .nil _
    | some upper =>
      simp only [FieldKind.encode, FieldKind.overlay, Scalar.encode_eq_append,
        List.length_append] at hsize ⊢
      have hsmall : (scalar.payload upper).length < 2 ^ 64 := by omega
      refine reads_payload hput htag (fun tail => ?_) record
      simp only [FieldKind.decodeOver, scalar.decode_payload_append hsmall]
      rfl
  | nested layout =>
    cases upper with
    | none =>
      cases lower <;> exact .nil _
    | some upper =>
      have hlength := length_le_encodeBytesField tag (Slots.encode layout.slots upper)
      simp only [FieldKind.encode] at hsize
      have hsmall : (Slots.encode layout.slots upper).length < 2 ^ 64 := by omega
      refine reads_nested hput htag (fun tail => ?_) record
      have hread (under : Slots layout.slots) :=
        Layout.decodeOver_encode_append htagged under hsmall tail
      cases lower with
      | none =>
        simp only [FieldKind.decodeOver, Option.getD_none, hread, Slots.overlay_initial]
        rfl
      | some lower =>
        simp only [FieldKind.decodeOver, Option.getD_some, hread]
        rfl
  | repeated layout => exact reads_entries hput htag htagged lower upper hsize record

/-- What is written for the last fields of a message is read over the values that are there. -/
theorem reads_encode
    {put : Record rest → Record schema.fields} (hput : Record.ReadsThrough schema.name put)
    (htagged : Field.AreTagged rest) (lower : Record rest) {upper : Record rest}
    (hsize : (Record.encode rest upper).length < 2 ^ 64) :
    Reads schema.readWithin 0 (put lower) (Record.encode rest upper)
      (put (Record.overlay rest lower upper)) := by
  induction rest with
  | nil => exact .nil _
  | cons field rest ih =>
    obtain ⟨value, lowers⟩ := lower
    obtain ⟨upper, uppers⟩ := upper
    rw [Field.areTagged_cons_iff] at htagged
    obtain ⟨htag, hnew, hkind, htagged⟩ := htagged
    simp only [Record.encode, List.length_append] at hsize
    exact (reads_field hput htag hkind value (by omega) lowers).append
      (ih (hput.tail hnew (field.kind.overlay value upper)) htagged lowers (by omega))

theorem decodeOver_of_reads
    {bytes : Bytes} {record record' : Record schema.fields}
    (hreads : Reads schema.readWithin 0 record bytes record') :
    schema.decodeOver record bytes = .ok record' := by
  obtain ⟨fuel, -, hread⟩ := hreads bytes.length [] le_rfl (by simp)
  rw [List.append_nil] at hread
  rw [decodeOver, hread]
  cases fuel <;> rfl

/-- The bytes of two messages hold the second one laid over the first, and the bytes of one message
hold that message. A message has fewer than `2 ^ 64` bytes. -/
theorem decode_encode_overlay
    (hschema : schema ∈ all) (a b : Record schema.fields)
    (ha : (schema.encode a).length < 2 ^ 64) (hb : (schema.encode b).length < 2 ^ 64) :
    schema.decode (schema.encode a ++ schema.encode b) =
        .ok (Record.overlay schema.fields a b) ∧
      schema.decode (schema.encode a) = .ok a := by
  have htagged := areTagged_of_mem_all schema hschema
  have hfirst : Reads schema.readWithin 0 (Record.initial schema.fields) (schema.encode a) a := by
    have := reads_encode Record.readsThrough_id htagged (Record.initial schema.fields) ha
    rwa [Record.overlay_initial] at this
  have hsecond : Reads schema.readWithin 0 a (schema.encode b)
      (Record.overlay schema.fields a b) := reads_encode Record.readsThrough_id htagged a hb
  exact ⟨decodeOver_of_reads (hfirst.append hsecond), decodeOver_of_reads hfirst⟩

/-- An update that asks for a database system without a name, from a moment before the epoch on. -/
def earlierUpdate : UpdateInfobaseRequest :=
  ⟨"c-1", "ib-1", none, some true, none, some ⟨-1, 5⟩, none, none, some 7, none, none, none, none,
    none, none, some "ru", some (-3600), none, none, none⟩

/-- An update whose optional fields are zero or empty. -/
def laterUpdate : UpdateInfobaseRequest :=
  ⟨"", "ib-2", none, some false, none, some ⟨3, 0⟩, some ⟨0, 0⟩, none, some 0, none, none, none,
    none, none, none, some "", none, some false, none, none⟩

def bothUpdates : UpdateInfobaseRequest :=
  ⟨"c-1", "ib-2", none, some false, none, some ⟨3, 5⟩, some ⟨0, 0⟩, none, some 0, none, none, none,
    none, none, none, some "", some (-3600), some false, none, none⟩

theorem decode_encode_overlay_updates :
    (Message.schema UpdateInfobaseRequest).decode
        (Message.encode earlierUpdate ++ Message.encode laterUpdate) =
      .ok (Message.toRecord bothUpdates) := by
  have hschema : Message.schema UpdateInfobaseRequest ∈ all := by simp [all, Rpc.all]
  have hearlier : (Message.encode earlierUpdate).length < 2 ^ 64 := by decide +kernel
  have hlater : (Message.encode laterUpdate).length < 2 ^ 64 := by decide +kernel
  exact (decode_encode_overlay hschema _ _ hearlier hlater).1

end Schema

end InfobaseGateway
