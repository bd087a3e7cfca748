import InfobaseGateway.Text.Encoding
import InfobaseGateway.Wire.Key
import Mathlib.Data.Nat.Notation
import Mathlib.Tactic.Ring

/-!
# Reading what was written

Numbers, keys, texts and payloads with a length are read back from the bytes that they were written
to, and what follows those bytes is left over. A number on the wire has at most 64 bits, so a length
has to be less than `2 ^ 64`.

Readers of records go through their bytes field by field, with fuel for the rest. `Reads` says that
a reader gets past some bytes, whatever follows them and whatever fuel is left: the fields of a
record can then be read one after the other without counting bytes.
-/

namespace InfobaseGateway

/-! ## Text -/

theorem textOfUtf8?_utf8Bytes (text : String) : textOfUtf8? (utf8Bytes text) = some text := by
  unfold textOfUtf8? utf8Bytes String.fromUTF8?
  rw [String.toUTF8_eq_toByteArray, Array.toArray_toList, dif_pos text.isValidUTF8]
  rfl

namespace Wire

/-! ## Numbers -/

namespace Varint

theorem toNat_toUInt8 {n : Nat} (h : n < 256) : n.toUInt8.toNat = n := by
  simp [Nat.mod_eq_of_lt h]

theorem encode_ne_nil (n : Nat) : encode n ≠ [] := by
  rw [encode]
  split
  · simp
  · simp

/-- The last byte that is allowed holds a single bit. -/
theorem decodeWithin_encode_append
    {groups n : Nat} (h : n < 2 * 128 ^ groups) (rest : Bytes) :
    decodeWithin (groups + 1) (encode n ++ rest) = .ok (n, rest) := by
  induction groups generalizing n with
  | zero =>
    have hsmall : n < 2 := by simpa using h
    have hbyte : n.toUInt8.toNat = n := toNat_toUInt8 (by omega)
    rw [encode, if_pos (by omega), List.singleton_append, decodeWithin, hbyte, if_pos (by omega),
      if_neg (by omega)]
  | succ groups ih =>
    rw [encode]
    by_cases hlast : n < 128
    · have hbyte : n.toUInt8.toNat = n := toNat_toUInt8 (by omega)
      rw [if_pos hlast, List.singleton_append, decodeWithin, hbyte, if_pos hlast,
        if_neg (by omega)]
    · have hbyte : (n % 128 + 128).toUInt8.toNat = n % 128 + 128 := toNat_toUInt8 (by omega)
      have hhigh : n / 128 < 2 * 128 ^ groups := by
        rw [Nat.div_lt_iff_lt_mul (by omega)]
        calc
          n < 2 * 128 ^ (groups + 1) := h
          _ = 2 * 128 ^ groups * 128 := by ring
      rw [if_neg hlast, List.cons_append, decodeWithin, hbyte, if_neg (by omega), ih hhigh]
      show Except.ok (n % 128 + 128 - 128 + 128 * (n / 128), rest) = Except.ok (n, rest)
      have hn : n % 128 + 128 - 128 + 128 * (n / 128) = n := by omega
      rw [hn]

theorem decode_encode_append {n : Nat} (h : n < 2 ^ 64) (rest : Bytes) :
    decode (encode n ++ rest) = .ok (n, rest) := by
  have hgroups : n < 2 * 128 ^ 9 := by omega
  exact decodeWithin_encode_append hgroups rest

end Varint

/-! ## Keys and payloads -/

/-- Tags of fields: a key with such a tag has 32 bits. -/
def IsTag (tag : Nat) : Prop :=
  0 < tag ∧ tag < 2 ^ 29

instance (tag : Nat) : Decidable (IsTag tag) :=
  inferInstanceAs (Decidable (0 < tag ∧ tag < 2 ^ 29))

theorem encodeKey_ne_nil (tag : Nat) (wireType : WireType) : encodeKey tag wireType ≠ [] :=
  Varint.encode_ne_nil _

theorem WireType.number_lt (wireType : WireType) : wireType.number < 8 := by
  cases wireType <;> decide

theorem WireType.ofNumber?_number (wireType : WireType) :
    ofNumber? wireType.number = some wireType := by
  cases wireType <;> rfl

theorem decodeKey_encodeKey_append
    {tag : Nat} (htag : IsTag tag) (wireType : WireType) (rest : Bytes) :
    decodeKey (encodeKey tag wireType ++ rest) = .ok (⟨tag, wireType⟩, rest) := by
  obtain ⟨hpos, hlt⟩ := htag
  have hnumber := wireType.number_lt
  have hsize : ¬UInt32.size ≤ 8 * tag + wireType.number := by
    simp only [UInt32.size]
    omega
  have hlow : (8 * tag + wireType.number) % 8 = wireType.number := by omega
  have hhigh : (8 * tag + wireType.number) / 8 = tag := by omega
  unfold decodeKey encodeKey
  rw [Varint.decode_encode_append (by omega)]
  simp only [bind, Except.bind, if_neg hsize, hlow, hhigh, wireType.ofNumber?_number,
    if_neg hpos.ne']

theorem decodeLength_encode_append
    {length : Nat} (h : length < 2 ^ 64) {rest : Bytes} (henough : length ≤ rest.length) :
    decodeLength (Varint.encode length ++ rest) = .ok (length, rest) := by
  unfold decodeLength
  rw [Varint.decode_encode_append h]
  simp only [bind, Except.bind, if_neg (Nat.not_lt.mpr henough)]

theorem decodeBytes_append {value : Bytes} (h : value.length < 2 ^ 64) (rest : Bytes) :
    decodeBytes (Varint.encode value.length ++ value ++ rest) = .ok (value, rest) := by
  have hlength : decodeLength (Varint.encode value.length ++ (value ++ rest)) =
      .ok (value.length, value ++ rest) := decodeLength_encode_append h (by simp)
  unfold decodeBytes
  rw [List.append_assoc, hlength]
  simp [bind, Except.bind, pure, Except.pure]

theorem length_le_encodeBytesField (tag : Nat) (value : Bytes) :
    value.length ≤ (encodeBytesField tag value).length := by
  unfold encodeBytesField
  rw [List.length_append]
  exact Nat.le_add_left _ _

/-! ## Readers with fuel -/

section Reads

variable {ρ β : Type} {read : Nat → ρ → Bytes → β} {left : Nat}

/-- A reader that goes on behind some bytes with another record. It is asked for as long as no fewer
than `left` bytes follow and there is fuel for every byte. -/
def Reads (read : Nat → ρ → Bytes → β) (left : Nat) (record : ρ) (bytes : Bytes) (record' : ρ) :
    Prop :=
  ∀ fuel tail, left ≤ tail.length → (bytes ++ tail).length ≤ fuel + left →
    ∃ fuel', tail.length ≤ fuel' + left ∧
      read fuel record (bytes ++ tail) = read fuel' record' tail

theorem Reads.nil (record : ρ) : Reads read left record [] record :=
  fun fuel _ _ hfuel => ⟨fuel, hfuel, rfl⟩

theorem Reads.append
    {first second : Bytes} {record between record' : ρ}
    (hfirst : Reads read left record first between)
    (hsecond : Reads read left between second record') :
    Reads read left record (first ++ second) record' := by
  intro fuel tail hleft hfuel
  rw [List.append_assoc] at hfuel ⊢
  have hmore : left ≤ (second ++ tail).length := by
    rw [List.length_append]
    omega
  obtain ⟨fuel₁, hfuel₁, hread₁⟩ := hfirst fuel (second ++ tail) hmore hfuel
  obtain ⟨fuel₂, hfuel₂, hread₂⟩ := hsecond fuel₁ tail hleft hfuel₁
  exact ⟨fuel₂, hfuel₂, hread₁.trans hread₂⟩

/-- A reader that takes one unit of fuel for a field gets past it. -/
theorem Reads.field
    {bytes : Bytes} (hbytes : bytes ≠ []) {record record' : ρ}
    (hstep : ∀ fuel tail, left ≤ tail.length →
      read (fuel + 1) record (bytes ++ tail) = read fuel record' tail) :
    Reads read left record bytes record' := by
  intro fuel tail hleft hfuel
  have hpos : 0 < bytes.length := List.length_pos_iff.mpr hbytes
  rw [List.length_append] at hfuel
  obtain ⟨fuel, rfl⟩ : ∃ n, fuel = n + 1 := ⟨fuel - 1, by omega⟩
  exact ⟨fuel, by omega, hstep fuel tail hleft⟩

end Reads

end Wire

end InfobaseGateway
