import InfobaseGateway.Text.Encoding

/-!
# Bytes of ASCII texts

A character below 128 takes one byte, which is its number. So a list of such characters has as many
bytes as characters, and can be cut behind any number of them.
-/

namespace InfobaseGateway.Text

/-- Letters and digits lie between the first digit and the last small letter. -/
theorem toNat_of_isAlphanum {c : Char} (hc : c.isAlphanum = true) :
    0x30 ≤ c.toNat ∧ c.toNat ≤ 0x7a := by
  change (decide ('A'.val ≤ c.val ∧ c.val ≤ 'Z'.val) ||
    decide ('a'.val ≤ c.val) && decide (c.val ≤ 'z'.val) || c.isDigit) = true at hc
  simp only [Bool.or_eq_true, Bool.and_eq_true, decide_eq_true_eq, UInt32.le_iff_toNat_le,
    Char.isDigit_iff_toNat] at hc
  change ((0x41 ≤ c.toNat ∧ c.toNat ≤ 0x5a) ∨ (0x61 ≤ c.toNat ∧ c.toNat ≤ 0x7a)) ∨
    (0x30 ≤ c.toNat ∧ c.toNat ≤ 0x39) at hc
  omega

theorem utf8Size_eq_one {c : Char} (hascii : c.toNat < 0x80) : c.utf8Size = 1 :=
  Char.utf8Size_eq_one_iff.mpr (UInt32.le_iff_toNat_le.mpr (Nat.le_of_lt_succ hascii))

theorem utf8ByteSize_eq_byteSize (text : String) :
    text.utf8ByteSize = byteSize text.toList := by
  have hlist (chars : List Char) : (String.ofList chars).utf8ByteSize = byteSize chars := by
    induction chars with
    | nil => rfl
    | cons c chars ih =>
      rw [String.ofList_cons, String.utf8ByteSize_append, String.utf8ByteSize_singleton, ih,
        byteSize]
  rw [← hlist, String.ofList_toList]

theorem byteSize_eq_length {chars : List Char} (hascii : ∀ c ∈ chars, c.toNat < 0x80) :
    byteSize chars = chars.length := by
  induction chars with
  | nil => rfl
  | cons c chars ih =>
    obtain ⟨hc, hchars⟩ := List.forall_mem_cons.mp hascii
    rw [byteSize, utf8Size_eq_one hc, ih hchars, List.length_cons, Nat.add_comm]

theorem takeBytes_append {start : List Char} (hascii : ∀ c ∈ start, c.toNat < 0x80)
    (rest : List Char) : takeBytes start.length (start ++ rest) = start := by
  induction start with
  | nil =>
    cases rest with
    | nil => rfl
    | cons c rest => exact if_neg (Nat.not_le.mpr c.utf8Size_pos)
  | cons c start ih =>
    obtain ⟨hc, hstart⟩ := List.forall_mem_cons.mp hascii
    simp [takeBytes, utf8Size_eq_one hc, ih hstart]

theorem dropBytes_append {start : List Char} (hascii : ∀ c ∈ start, c.toNat < 0x80)
    (rest : List Char) : dropBytes start.length (start ++ rest) = rest := by
  induction start with
  | nil =>
    cases rest with
    | nil => rfl
    | cons c rest => rfl
  | cons c start ih =>
    obtain ⟨hc, hstart⟩ := List.forall_mem_cons.mp hascii
    simp [dropBytes, utf8Size_eq_one hc, ih hstart]

/-- The bytes of an ASCII text are the numbers of its characters. -/
theorem utf8Bytes_of_ascii {text : String} (hascii : ∀ c ∈ text.toList, c.toNat < 0x80) :
    utf8Bytes text = text.toList.map Char.toUInt8 := by
  have hencode : ∀ chars : List Char, (∀ c ∈ chars, c.toNat < 0x80) →
      chars.utf8Encode = (chars.map Char.toUInt8).toByteArray := by
    intro chars hascii
    induction chars with
    | nil => rfl
    | cons c chars ih =>
      obtain ⟨hc, hchars⟩ := List.forall_mem_cons.mp hascii
      rw [List.utf8Encode_cons, List.utf8Encode_singleton,
        String.utf8EncodeChar_eq_singleton (utf8Size_eq_one hc), ih hchars,
        ← List.toByteArray_append]
      rfl
  rw [utf8Bytes, String.toUTF8_eq_toByteArray, ← String.utf8Encode_toList,
    hencode text.toList hascii, List.data_toByteArray]

end InfobaseGateway.Text
