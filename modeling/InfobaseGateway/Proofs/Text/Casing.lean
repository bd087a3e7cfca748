import InfobaseGateway.Text.Blank
import InfobaseGateway.Text.Lowercase

/-!
# Letters of either case

A letter of ASCII is a capital or a small one, and other characters have one case only. White space
has none, so trimming and changing the case of a text do not get in each other's way.
-/

namespace InfobaseGateway.Text

theorem toLower_eq_self_of_not_capital {c : Char} (hc : ¬(0x41 ≤ c.toNat ∧ c.toNat ≤ 0x5a)) :
    c.toLower = c :=
  dif_neg hc

/-- The two cases of a letter of ASCII have one lower-case form. -/
theorem lower_toLower (c : Char) : lower c.toLower = lower c := by
  have hcapitals :
      ∀ n ∈ List.range' 0x41 26, lower (Char.ofNat n).toLower = lower (Char.ofNat n) := by
    decide +kernel
  by_cases hc : 0x41 ≤ c.toNat ∧ c.toNat ≤ 0x5a
  · have hcapital := hcapitals c.toNat (List.mem_range'_1.mpr (by omega))
    rwa [Char.ofNat_toNat] at hcapital
  · rw [toLower_eq_self_of_not_capital hc]

theorem isWhite_toLower {c : Char} (hwhite : isWhite c = true) : isWhite c.toLower = true := by
  have hranges : ∀ range ∈ whiteSpace, range.2 < 0x41 ∨ 0x5a < range.1 := by decide
  obtain ⟨range, hrange, hmem⟩ := List.any_eq_true.mp hwhite
  simp only [Bool.and_eq_true, decide_eq_true_eq] at hmem
  have hc : ¬(0x41 ≤ c.toNat ∧ c.toNat ≤ 0x5a) := by
    rcases hranges range hrange with hbelow | hbeyond
    · omega
    · omega
  rwa [toLower_eq_self_of_not_capital hc]

theorem dropWhile_isWhite_eq_self {text : List Char} (hwhite : ∀ c ∈ text, isWhite c = false) :
    text.dropWhile isWhite = text := by
  cases text with
  | nil => rfl
  | cons c text => rw [List.dropWhile_cons, hwhite c List.mem_cons_self, if_neg Bool.false_ne_true]

theorem trim_eq_self {text : String} (hwhite : ∀ c ∈ text.toList, isWhite c = false) :
    trim text = text := by
  have hreverse : ∀ c ∈ text.toList.reverse, isWhite c = false :=
    fun c hc => hwhite c (List.mem_reverse.mp hc)
  rw [trim, dropWhile_isWhite_eq_self hwhite, dropWhile_isWhite_eq_self hreverse,
    List.reverse_reverse, String.ofList_toList]

/-- A text is trimmed already if there is no white space in it, in letters of either case. -/
theorem trim_eq_self_of_toLower
    {text : String} (hwhite : ∀ c ∈ text.toList.map Char.toLower, isWhite c = false) :
    trim text = text := by
  apply trim_eq_self
  intro c hc
  rw [Bool.eq_false_iff]
  intro hspace
  have hlower := hwhite c.toLower (List.mem_map_of_mem hc)
  rw [isWhite_toLower hspace] at hlower
  cases hlower

end InfobaseGateway.Text
