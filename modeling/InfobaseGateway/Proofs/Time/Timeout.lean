import InfobaseGateway.Proofs.Text.Ascii
import InfobaseGateway.Time.Timeout
import Mathlib.Algebra.Order.Group.Nat
import Mathlib.Data.List.Basic

/-!
# The grammar of timeouts

A timeout text is made of one to eight decimal digits and the letter of a unit, and of nothing else.
Exactly these texts are read as a length of time, which is the number that the digits write times
the unit. No text breaks the reading down: the letter is cut off a text of ASCII, and eight digits
of hours are a number of seconds that a word holds by far.

The proof reads a text from its end. Every text that is not empty is a last character behind some
others, and both the grammar and the reader speak of these two parts.
-/

namespace InfobaseGateway

/-! ## The grammar -/

namespace TimeUnit

def letter : TimeUnit → Char
  | hour => 'H'
  | minute => 'M'
  | second => 'S'
  | milli => 'm'
  | micro => 'u'
  | nano => 'n'

/-- The nanoseconds of a unit. -/
def nanos : TimeUnit → Nat
  | hour => 3600 * 1000000000
  | minute => 60 * 1000000000
  | second => 1000000000
  | milli => 1000000
  | micro => 1000
  | nano => 1

end TimeUnit

/-- The number that a list of decimal digits writes. -/
abbrev decimalNumber (digits : List Char) : Nat :=
  Nat.ofDigitChars 10 digits 0

/-- A text is a timeout of some digits and a unit. -/
structure IsTimeout (text : String) (digits : List Char) (unit : TimeUnit) : Prop where
  written : text.toList = digits ++ [unit.letter]
  some_digit : 1 ≤ digits.length
  few_digits : digits.length ≤ 8
  decimal : ∀ c ∈ digits, c.isDigit = true

/-! ## Lengths of time -/

namespace Duration

theorem totalNanos_ofSeconds (seconds : UInt64) :
    (ofSeconds seconds).totalNanos = seconds.toNat * 1000000000 := by
  simp [ofSeconds, totalNanos, Nat.mul_comm]

/-- Nothing is lost of an amount of fractions that are whole nanoseconds. -/
theorem totalNanos_ofFractions
    {perSecond : UInt64} {nanos : Nat} (hwhole : perSecond.toNat * nanos = 1000000000)
    (amount : UInt64) : (ofFractions perSecond amount).totalNanos = amount.toNat * nanos := by
  have hpos : 0 < perSecond.toNat := by
    refine Nat.pos_of_ne_zero fun hzero => ?_
    simp [hzero] at hwhole
  have hdiv : 1000000000 / perSecond.toNat = nanos := by
    rw [← hwhole, Nat.mul_div_cancel_left nanos hpos]
  have hnanos : 0 < nanos := by
    refine Nat.pos_of_ne_zero fun hzero => ?_
    simp [hzero] at hwhole
  have hrest : amount.toNat % perSecond.toNat * nanos < 1000000000 := by
    rw [← hwhole]
    exact Nat.mul_lt_mul_of_pos_right (Nat.mod_lt amount.toNat hpos) hnanos
  calc
    (ofFractions perSecond amount).totalNanos
      = 1000000000 * (amount.toNat / perSecond.toNat)
          + amount.toNat % perSecond.toNat * nanos % 1000000000 := by
        simp [ofFractions, totalNanos, hdiv]
    _ = perSecond.toNat * nanos * (amount.toNat / perSecond.toNat)
          + amount.toNat % perSecond.toNat * nanos := by
        rw [Nat.mod_eq_of_lt hrest, hwhole]
    _ = (perSecond.toNat * (amount.toNat / perSecond.toNat) + amount.toNat % perSecond.toNat)
          * nanos := by
        rw [Nat.add_mul, Nat.mul_right_comm]
    _ = amount.toNat * nanos := by
        rw [Nat.div_add_mod]

end Duration

namespace Timeout

/-! ## The parts of a timeout -/

/-- A text can be cut behind characters of one byte each. -/
theorem cut_append {start : List Char} (hascii : ∀ c ∈ start, c.toNat < 0x80)
    (rest : List Char) : cut start.length (start ++ rest) = .ok (start, rest) := by
  simp only [cut, Text.takeBytes_append hascii, Text.dropBytes_append hascii,
    Text.byteSize_eq_length hascii, if_true]

/-- As long as a word holds the number that digits write, they are read as that number. -/
theorem foldlM_pushDigit?
    {digits : List Char} (hdecimal : ∀ c ∈ digits, c.isDigit = true) (value : UInt64)
    (hfits : Nat.ofDigitChars 10 digits value.toNat < UInt64.size) :
    digits.foldlM pushDigit? value = some (.ofNat (Nat.ofDigitChars 10 digits value.toNat)) := by
  induction digits generalizing value with
  | nil => simp
  | cons c digits ih =>
    obtain ⟨hc, hdigits⟩ := List.forall_mem_cons.mp hdecimal
    rw [Nat.ofDigitChars_cons] at hfits ⊢
    have hle (n : Nat) : n ≤ Nat.ofDigitChars 10 digits n := by
      rw [Nat.ofDigitChars_eq_ofDigitChars_zero]
      exact Nat.le_add_right_of_le (Nat.le_mul_of_pos_left n (Nat.pow_pos (by decide)))
    have hnext := Nat.lt_of_le_of_lt (hle _) hfits
    have hpush : pushDigit? value c =
        some (.ofNat (10 * value.toNat + (c.toNat - '0'.toNat))) := by
      rw [pushDigit?, if_pos ⟨hc, hnext⟩]
    have htoNat : (UInt64.ofNat (10 * value.toNat + (c.toNat - '0'.toNat))).toNat =
        10 * value.toNat + (c.toNat - '0'.toNat) := UInt64.toNat_ofNat_of_lt' hnext
    have hrest := ih hdigits (.ofNat (10 * value.toNat + (c.toNat - '0'.toNat)))
    rw [htoNat] at hrest
    rw [List.foldlM_cons, hpush]
    exact hrest hfits

/-- So many digits write less than so many zeros behind a one. -/
theorem ofDigitChars_lt {digits : List Char} (hdecimal : ∀ c ∈ digits, c.isDigit = true) :
    Nat.ofDigitChars 10 digits 0 < 10 ^ digits.length := by
  induction digits with
  | nil => simp
  | cons c digits ih =>
    obtain ⟨hc, hdigits⟩ := List.forall_mem_cons.mp hdecimal
    have hdigit : 10 * 0 + (c.toNat - '0'.toNat) ≤ 9 := by
      have hle := (Char.isDigit_iff_toNat.mp hc).2
      have hnine : '9'.toNat = 57 := rfl
      have hzero : '0'.toNat = 48 := rfl
      omega
    have hfirst := Nat.mul_le_mul_left (10 ^ digits.length) hdigit
    have hrest := ih hdigits
    rw [Nat.ofDigitChars_cons, Nat.ofDigitChars_eq_ofDigitChars_zero, List.length_cons,
      Nat.pow_succ]
    omega

theorem readWord?_of_decimal
    {digits : List Char} (hdecimal : ∀ c ∈ digits, c.isDigit = true) (hsome : 1 ≤ digits.length)
    (hfits : decimalNumber digits < UInt64.size) :
    readWord? digits = some (.ofNat (decimalNumber digits)) := by
  have hplus : digits.head? ≠ some '+' := by
    intro hplus
    exact absurd (hdecimal '+' (List.mem_of_head? hplus)) (by decide)
  have hne : digits ≠ [] := List.ne_nil_of_length_pos hsome
  have hread := foldlM_pushDigit? hdecimal 0 hfits
  simpa [readWord?, hplus, hne] using hread

theorem unit?_eq_some_iff (letter : List Char) (unit : TimeUnit) :
    unit? letter = some unit ↔ letter = [unit.letter] := by
  constructor
  · intro h
    unfold unit? at h
    split at h
    all_goals cases h
    all_goals rfl
  · rintro rfl
    cases unit
    all_goals rfl

/-- Sixty times as much fits a word as long as the amount is far from its limit. -/
theorem times_sixty (amount : UInt64) (hfew : amount.toNat < 10 ^ 12) :
    times amount 60 = .ok (amount * 60) ∧ (amount * 60).toNat = amount.toNat * 60 := by
  have hfits : amount.toNat * (60 : UInt64).toNat < UInt64.size := by
    have hsixty : (60 : UInt64).toNat = 60 := rfl
    have hsize : UInt64.size = 18446744073709551616 := rfl
    rw [hsixty, hsize]
    omega
  refine ⟨if_pos hfits, ?_⟩
  rw [UInt64.toNat_mul]
  exact Nat.mod_eq_of_lt hfits

/-- Amounts of up to eight digits outgrow no word in any unit. -/
theorem exists_duration_eq_ok {amount : UInt64} (hfew : amount.toNat < 10 ^ 8) (unit : TimeUnit) :
    ∃ time, duration amount unit = .ok time ∧ time.totalNanos = amount.toNat * unit.nanos := by
  obtain ⟨hminutes, hminutesNat⟩ := times_sixty amount (by omega)
  cases unit with
  | hour =>
    obtain ⟨hseconds, hsecondsNat⟩ := times_sixty (amount * 60) (by omega)
    refine ⟨.ofSeconds (amount * 60 * 60), ?_, ?_⟩
    · simp [duration, hminutes, hseconds, bind, Except.bind, pure, Except.pure]
    · rw [Duration.totalNanos_ofSeconds, TimeUnit.nanos]
      omega
  | minute =>
    refine ⟨.ofSeconds (amount * 60), ?_, ?_⟩
    · simp [duration, hminutes, bind, Except.bind, pure, Except.pure]
    · rw [Duration.totalNanos_ofSeconds, TimeUnit.nanos]
      omega
  | second => exact ⟨.ofSeconds amount, rfl, Duration.totalNanos_ofSeconds amount⟩
  | milli => exact ⟨_, rfl, Duration.totalNanos_ofFractions rfl amount⟩
  | micro => exact ⟨_, rfl, Duration.totalNanos_ofFractions rfl amount⟩
  | nano => exact ⟨_, rfl, Duration.totalNanos_ofFractions rfl amount⟩

/-- One to eight digits and the letter of a unit give the number of the digits times the unit. -/
theorem exists_ofParts_eq_ok
    {digits : List Char} (hsome : 1 ≤ digits.length) (hfew : digits.length ≤ 8)
    (hdecimal : ∀ c ∈ digits, c.isDigit = true) (unit : TimeUnit) :
    ∃ time, ofParts digits [unit.letter] = .ok (some time) ∧
      time.totalNanos = decimalNumber digits * unit.nanos := by
  have hbound : decimalNumber digits < 10 ^ 8 :=
    Nat.lt_of_lt_of_le (ofDigitChars_lt hdecimal) (Nat.pow_le_pow_right (by decide) hfew)
  have hfits : decimalNumber digits < UInt64.size := Nat.lt_trans hbound (by decide)
  have hamount : (UInt64.ofNat (decimalNumber digits)).toNat = decimalNumber digits :=
    UInt64.toNat_ofNat_of_lt' hfits
  have hword := readWord?_of_decimal hdecimal hsome hfits
  have hunit := (unit?_eq_some_iff [unit.letter] unit).mpr rfl
  obtain ⟨time, htime, htotal⟩ := exists_duration_eq_ok (by rwa [hamount]) unit
  refine ⟨time, ?_, by rw [htotal, hamount]⟩
  rw [ofParts, if_pos (List.all_eq_true.mpr hdecimal), hword, hunit]
  dsimp only
  rw [htime]
  rfl

/-- Other parts give nothing, and do not break the reading down. -/
theorem ofParts_eq_none
    {digits : List Char} {last : Char}
    (hother : (∀ c ∈ digits, c.isDigit = true) → ∀ unit : TimeUnit, last ≠ unit.letter) :
    ofParts digits [last] = .ok none := by
  unfold ofParts
  split
  · next hall =>
    have hunit : unit? [last] = none := by
      refine Option.eq_none_iff_forall_ne_some.mpr fun unit hunit => ?_
      have hletter := (unit?_eq_some_iff [last] unit).mp hunit
      exact hother (List.all_eq_true.mp hall) unit (List.head_eq_of_cons_eq hletter)
    rw [hunit]
    cases readWord? digits with
    | none => rfl
    | some amount => rfl
  · rfl

/-! ## The reader -/

/-- The reader takes a last character off two to nine characters of ASCII. -/
theorem parse_of_toList {text : String} {start : List Char} {last : Char}
    (htext : text.toList = start ++ [last]) (hascii : ∀ c ∈ start ++ [last], c.toNat < 0x80)
    (hsome : 1 ≤ start.length) (hfew : start.length ≤ 8) :
    parse text = ofParts start [last] := by
  have hsize : text.utf8ByteSize = start.length + 1 := by
    rw [Text.utf8ByteSize_eq_byteSize, htext, Text.byteSize_eq_length hascii]
    simp
  have hstart : ∀ c ∈ start, c.toNat < 0x80 := fun c hc => hascii c (List.mem_append_left _ hc)
  have hcut := cut_append hstart [last]
  have hall : text.toList.all (·.toNat < 0x80) = true := by
    rw [htext]
    exact List.all_eq_true.mpr fun c hc => decide_eq_true (hascii c hc)
  rw [parse, if_pos ⟨hall, by omega, by omega⟩, hsize, Nat.add_sub_cancel, htext, hcut]
  rfl

/-- A text that is not made of two to nine characters of ASCII is read as none. -/
theorem parse_eq_none {text : String}
    (hother : ∀ start last, text.toList = start ++ [last] → 1 ≤ start.length →
      start.length ≤ 8 → ¬∀ c ∈ start ++ [last], c.toNat < 0x80) :
    parse text = .ok none := by
  refine if_neg ?_
  rintro ⟨hall, hlong, hshort⟩
  have hascii : ∀ c ∈ text.toList, c.toNat < 0x80 := by
    intro c hc
    exact of_decide_eq_true (List.all_eq_true.mp hall c hc)
  have hsize : text.utf8ByteSize = text.toList.length := by
    rw [Text.utf8ByteSize_eq_byteSize, Text.byteSize_eq_length hascii]
  rcases List.eq_nil_or_concat text.toList with hnil | ⟨start, last, htext⟩
  · rw [hsize, hnil] at hlong
    cases hlong
  · rw [List.concat_eq_append] at htext
    have hlength : text.toList.length = start.length + 1 := by simp [htext]
    refine hother start last htext (by omega) (by omega) ?_
    rw [← htext]
    exact hascii

end Timeout

namespace IsTimeout

variable {text : String} {digits digits' : List Char} {unit unit' : TimeUnit}

theorem ascii (h : IsTimeout text digits unit) :
    ∀ c ∈ digits ++ [unit.letter], c.toNat < 0x80 := by
  intro c hc
  rcases List.mem_append.mp hc with hdigit | hletter
  · exact Nat.lt_of_le_of_lt (Char.isDigit_iff_toNat.mp (h.decimal c hdigit)).2 (by decide)
  · rw [List.mem_singleton.mp hletter]
    cases unit
    all_goals decide

/-- A text can be read in one way at most. -/
theorem unique (h : IsTimeout text digits unit) (h' : IsTimeout text digits' unit') :
    digits = digits' ∧ unit = unit' := by
  obtain ⟨hdigits, hletters⟩ := List.append_inj' (h.written.symm.trans h'.written) rfl
  have hunit := (Timeout.unit?_eq_some_iff [unit.letter] unit).mpr rfl
  have hunit' := (Timeout.unit?_eq_some_iff [unit.letter] unit').mpr hletters
  exact ⟨hdigits, Option.some.inj (hunit.symm.trans hunit')⟩

end IsTimeout

namespace Timeout

/-- A timeout is read as its number times its unit. -/
theorem exists_parse_eq_ok
    {text : String} {digits : List Char} {unit : TimeUnit} (h : IsTimeout text digits unit) :
    ∃ time, parse text = .ok (some time) ∧
      time.totalNanos = decimalNumber digits * unit.nanos := by
  rw [parse_of_toList h.written h.ascii h.some_digit h.few_digits]
  exact exists_ofParts_eq_ok h.some_digit h.few_digits h.decimal unit

/-- Every other text is read as none. -/
theorem parse_eq_ok_none
    {text : String} (hother : ∀ digits unit, ¬IsTimeout text digits unit) :
    parse text = .ok none := by
  by_cases hform : ∃ start last, text.toList = start ++ [last] ∧ 1 ≤ start.length ∧
      start.length ≤ 8 ∧ ∀ c ∈ start ++ [last], c.toNat < 0x80
  · obtain ⟨start, last, htext, hsome, hfew, hascii⟩ := hform
    rw [parse_of_toList htext hascii hsome hfew]
    refine ofParts_eq_none fun hdecimal unit hletter => ?_
    rw [hletter] at htext
    exact hother start unit ⟨htext, hsome, hfew, hdecimal⟩
  · refine parse_eq_none fun start last htext hsome hfew hascii => ?_
    exact hform ⟨start, last, htext, hsome, hfew, hascii⟩

/-- What becomes of a text that is read as a timeout. -/
structure ReadByGrammar (text : String) : Prop where
  /-- No text breaks the reading down. -/
  sound : ∃ result, parse text = .ok result
  /-- A text gives some time exactly if it is a timeout. -/
  given_iff : (∃ time, parse text = .ok (some time)) ↔ ∃ digits unit, IsTimeout text digits unit
  /-- The time is the number that the digits write times the unit. -/
  counted : ∀ digits unit, IsTimeout text digits unit → ∀ time, parse text = .ok (some time) →
    time.totalNanos = decimalNumber digits * unit.nanos

theorem readByGrammar (text : String) : ReadByGrammar text := by
  by_cases hgrammar : ∃ digits unit, IsTimeout text digits unit
  · obtain ⟨digits, unit, htimeout⟩ := hgrammar
    obtain ⟨time, hparse, htotal⟩ := exists_parse_eq_ok htimeout
    constructor
    case sound => exact ⟨some time, hparse⟩
    case given_iff => exact ⟨fun _ => ⟨digits, unit, htimeout⟩, fun _ => ⟨time, hparse⟩⟩
    case counted =>
      intro digits' unit' htimeout' time' hparse'
      obtain ⟨rfl, rfl⟩ := htimeout.unique htimeout'
      cases hparse.symm.trans hparse'
      exact htotal
  · have hnone : parse text = .ok none := by
      refine parse_eq_ok_none fun digits unit htimeout => ?_
      exact hgrammar ⟨digits, unit, htimeout⟩
    constructor
    case sound => exact ⟨none, hnone⟩
    case given_iff =>
      refine ⟨?_, fun h => absurd h hgrammar⟩
      rintro ⟨time, htime⟩
      cases hnone.symm.trans htime
    case counted =>
      intro digits unit htimeout
      exact absurd ⟨digits, unit, htimeout⟩ hgrammar

/-- A sign is not a digit, although a number may be read behind one. -/
example : readWord? "+5".toList = some 5 ∧ parse "+5S" = .ok none := by
  decide

end Timeout

end InfobaseGateway
