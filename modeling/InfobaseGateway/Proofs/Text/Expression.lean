import InfobaseGateway.Text.Expression
import Mathlib.Data.List.Basic

/-!
# What regular expressions match

A text matches if it falls into some characters before a stretch, a stretch that matches, and a rest.
Anchors at both ends leave nothing before the stretch and nothing behind it. A class between them has
to hold for every character of the text, a line feed at its end included.
-/

namespace InfobaseGateway.Text.Expression

variable {text rest left : List Char} {expression : Expression}

theorem mem_rests_start :
    left ∈ start.rests text rest ↔ left = rest ∧ rest.length = text.length := by
  simp [rests, and_comm]

theorem mem_rests_stop : left ∈ stop.rests text rest ↔ left = rest ∧ rest = [] := by
  simp [rests, and_comm]

theorem mem_rests_andThen {first second : Expression} :
    left ∈ (andThen first second).rests text rest ↔
      ∃ middle ∈ first.rests text rest, left ∈ second.rests text middle :=
  List.mem_flatMap

/-- A class takes one or more of its characters off the text. -/
theorem mem_rests_repeated {accepts : Char → Bool} :
    left ∈ (repeated accepts).rests text rest ↔
      ∃ taken, rest = taken ++ left ∧ taken ≠ [] ∧ ∀ c ∈ taken, accepts c = true := by
  rw [rests]
  induction rest with
  | nil =>
    constructor
    · nofun
    · rintro ⟨taken, hrest, hne, -⟩
      exact absurd (List.append_eq_nil_iff.mp hrest.symm).1 hne
  | cons c rest ih =>
    by_cases haccepts : accepts c = true
    · rw [restsOfRepeated, if_pos haccepts, List.mem_cons, ih]
      constructor
      · rintro (rfl | ⟨taken, rfl, -, hall⟩)
        · exact ⟨[c], rfl, List.cons_ne_nil c [], by simpa using haccepts⟩
        · exact ⟨c :: taken, rfl, List.cons_ne_nil c taken,
            List.forall_mem_cons.mpr ⟨haccepts, hall⟩⟩
      · rintro ⟨taken, hrest, hne, hall⟩
        obtain ⟨first, others, rfl⟩ := List.exists_cons_of_ne_nil hne
        obtain ⟨rfl, hothers⟩ := List.cons_eq_cons.mp hrest
        rcases others with - | ⟨second, others⟩
        · exact .inl hothers.symm
        · exact .inr ⟨second :: others, hothers, List.cons_ne_nil second others,
            (List.forall_mem_cons.mp hall).2⟩
    · rw [restsOfRepeated, if_neg haccepts]
      constructor
      · nofun
      · rintro ⟨taken, hrest, hne, hall⟩
        obtain ⟨first, others, rfl⟩ := List.exists_cons_of_ne_nil hne
        obtain ⟨rfl, -⟩ := List.cons_eq_cons.mp hrest
        exact absurd (hall c List.mem_cons_self) haccepts

theorem matchesFrom_iff :
    expression.matchesFrom text rest = true ↔
      ∃ before later, rest = before ++ later ∧ ∃ left, left ∈ expression.rests text later := by
  have hhere (later : List Char) :
      (!(expression.rests text later).isEmpty) = true ↔
        ∃ left, left ∈ expression.rests text later := by
    rw [Bool.not_eq_true', List.isEmpty_eq_false_iff_exists_mem]
  induction rest with
  | nil =>
    rw [matchesFrom, hhere]
    constructor
    · exact fun h => ⟨[], [], rfl, h⟩
    · rintro ⟨before, later, hnil, h⟩
      obtain ⟨rfl, rfl⟩ := List.append_eq_nil_iff.mp hnil.symm
      exact h
  | cons c rest ih =>
    rw [matchesFrom, Bool.or_eq_true, hhere]
    refine (or_congr_right ih).trans ?_
    constructor
    · rintro (h | ⟨before, later, rfl, h⟩)
      · exact ⟨[], c :: rest, rfl, h⟩
      · exact ⟨c :: before, later, rfl, h⟩
    · rintro ⟨before, later, hrest, h⟩
      cases before with
      | nil =>
        cases hrest
        exact .inl h
      | cons first before =>
        exact .inr ⟨before, later, (List.cons_eq_cons.mp hrest).2, h⟩

/-- A class between two anchors matches exactly the texts that are made of it and not empty. -/
theorem isMatch_anchored_iff {accepts : Char → Bool} (text : String) :
    (andThen (andThen start (repeated accepts)) stop).isMatch text = true ↔
      text ≠ "" ∧ ∀ c ∈ text.toList, accepts c = true := by
  rw [isMatch, matchesFrom_iff]
  constructor
  · rintro ⟨before, later, htext, left, hleft⟩
    obtain ⟨middle, hmiddle, hstop⟩ := mem_rests_andThen.mp hleft
    obtain ⟨first, hfirst, hrepeated⟩ := mem_rests_andThen.mp hmiddle
    obtain ⟨rfl, hlength⟩ := mem_rests_start.mp hfirst
    obtain ⟨taken, htaken, hne, hall⟩ := mem_rests_repeated.mp hrepeated
    obtain ⟨-, rfl⟩ := mem_rests_stop.mp hstop
    have hbefore : before = [] := by
      rw [htext, List.length_append] at hlength
      exact List.length_eq_zero_iff.mp (by omega)
    rw [hbefore, List.nil_append, htaken, List.append_nil] at htext
    rw [htext]
    refine ⟨?_, hall⟩
    rintro rfl
    exact hne htext.symm
  · rintro ⟨hne, hall⟩
    have hchars : text.toList ≠ [] := fun h => hne (String.toList_eq_nil_iff.mp h)
    refine ⟨[], text.toList, rfl, [], mem_rests_andThen.mpr ⟨[], ?_, mem_rests_stop.mpr ⟨rfl, rfl⟩⟩⟩
    refine mem_rests_andThen.mpr ⟨text.toList, mem_rests_start.mpr ⟨rfl, rfl⟩, ?_⟩
    exact mem_rests_repeated.mpr ⟨text.toList, (List.append_nil _).symm, hchars, hall⟩

end InfobaseGateway.Text.Expression
