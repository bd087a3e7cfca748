import InfobaseGateway.Proofs.Classification.Taken
import InfobaseGateway.Proofs.Text.Casing
import Mathlib.Data.List.Find
import Mathlib.Data.List.Infix
import Mathlib.Data.List.Nodup

/-!
# Text around an endpoint text

The first rule with a phrase in a text decides about it, so a text that stands inside a longer one
can only move up in the order of the rules. Lower-casing does not cut up at the ends of the inner
text: a capital sigma looks at what stands around it. But no phrase has a sigma in it, and apart
from the shape of sigmas every character is lower-cased by itself.
-/

namespace InfobaseGateway

namespace Text

/-! ## Lower case apart from the shape of sigmas -/

/-- A character with the final small sigma written as the ordinary one. -/
def innerSigma (c : Char) : Char :=
  if c = 'ς' then 'σ' else c

/-- The lower-case form of a text with ordinary sigmas only. -/
def lowercaseInner (text : List Char) : List Char :=
  text.flatMap fun c => (lower c).map innerSigma

theorem lowercaseInner_append (first second : List Char) :
    lowercaseInner (first ++ second) = lowercaseInner first ++ lowercaseInner second :=
  List.flatMap_append

theorem innerSigma_lowerSigma (before after : List Char) :
    innerSigma (lowerSigma before after) = 'σ' := by
  unfold lowerSigma
  split
  · rfl
  · rfl

/-- What stands around a text changes the shape of its sigmas only. -/
theorem map_innerSigma_lowercaseAfter (before text : List Char) :
    (lowercaseAfter before text).map innerSigma = lowercaseInner text := by
  have hcapital : (lower 'Σ').map innerSigma = ['σ'] := by decide +kernel
  induction text generalizing before with
  | nil => rfl
  | cons c text ih =>
    have hfirst :
        (if c = 'Σ' then [lowerSigma before text] else lower c).map innerSigma =
          (lower c).map innerSigma := by
      by_cases hc : c = 'Σ'
      · rw [if_pos hc, hc, hcapital, List.map_singleton, innerSigma_lowerSigma]
      · rw [if_neg hc]
    rw [lowercaseAfter, List.map_append, hfirst, ih (c :: before)]
    rfl

theorem innerSigma_eq_iff_of_isSmall {c small : Char} (hsmall : isSmall small = true) :
    innerSigma c = small ↔ c = small := by
  have hinner : small ≠ 'σ' := by
    rintro rfl
    cases hsmall
  have hfinal : small ≠ 'ς' := by
    rintro rfl
    cases hsmall
  by_cases hc : c = 'ς'
  · rw [innerSigma, if_pos hc, hc]
    exact iff_of_false hinner.symm hfinal.symm
  · rw [innerSigma, if_neg hc]

theorem map_innerSigma_eq_iff_of_isSmall
    {text small : List Char} (hsmall : small.all isSmall = true) :
    text.map innerSigma = small ↔ text = small := by
  induction small generalizing text with
  | nil => exact List.map_eq_nil_iff
  | cons first small ih =>
    rw [List.all_cons, Bool.and_eq_true] at hsmall
    cases text with
    | nil => simp
    | cons c text =>
      rw [List.map_cons, List.cons_eq_cons, List.cons_eq_cons, ih hsmall.2,
        innerSigma_eq_iff_of_isSmall hsmall.1]

/-- The shape of sigmas does not matter for the occurrence of small characters. -/
theorem occursIn_map_innerSigma
    {part : List Char} (hsmall : part.all isSmall = true) (text : List Char) :
    occursIn part (text.map innerSigma) = occursIn part text := by
  rw [Bool.eq_iff_iff, occursIn_iff_infix, occursIn_iff_infix]
  constructor
  · rintro ⟨front, back, htext⟩
    obtain ⟨left, second, rfl, hleft, -⟩ := List.map_eq_append_iff.mp htext.symm
    obtain ⟨first, middle, rfl, -, hmiddle⟩ := List.map_eq_append_iff.mp hleft
    rw [(map_innerSigma_eq_iff_of_isSmall hsmall).mp hmiddle]
    exact List.infix_append first part second
  · intro hinside
    rw [← (map_innerSigma_eq_iff_of_isSmall hsmall).mpr rfl]
    exact hinside.map innerSigma

/-- The case of the letters of ASCII does not matter for the lower-case form. -/
theorem lowercaseInner_map_toLower (text : List Char) :
    lowercaseInner (text.map Char.toLower) = lowercaseInner text := by
  induction text with
  | nil => rfl
  | cons c text ih =>
    rw [List.map_cons, lowercaseInner, List.flatMap_cons, lower_toLower]
    exact congrArg _ ih

end Text

/-! ## The order of the categories -/

/-- The place of a code in the order of the categories. -/
def ErrorCode.precedence (code : ErrorCode) : Nat :=
  categories.idxOf code

theorem idxOf_code_find?
    {rules : List ClassificationRule} {other : ErrorCode}
    (hdistinct : (rules.map (·.code) ++ [other]).Nodup) (holds : ClassificationRule → Bool) :
    (rules.map (·.code) ++ [other]).idxOf (((rules.find? holds).map (·.code)).getD other) =
      rules.findIdx holds := by
  induction rules with
  | nil => simp
  | cons rule rules ih =>
    rw [List.map_cons, List.cons_append, List.nodup_cons] at hdistinct
    rw [List.find?_cons, List.findIdx_cons]
    cases hholds : holds rule with
    | true => simp
    | false =>
      -- the code that is looked for stands behind this rule, so it is not the code of this one
      have hmem :
          ((rules.find? holds).map (·.code)).getD other ∈ rules.map (·.code) ++ [other] := by
        cases hfind : rules.find? holds with
        | none => exact List.mem_append_right _ List.mem_cons_self
        | some found =>
          exact List.mem_append_left _ (List.mem_map_of_mem (List.mem_of_find?_eq_some hfind))
      have hcode : rule.code ≠ ((rules.find? holds).map (·.code)).getD other :=
        fun hsame => hdistinct.1 (hsame ▸ hmem)
      simp only [List.map_cons, List.cons_append, List.idxOf_cons, beq_eq_false_iff_ne.mpr hcode,
        ih hdistinct.2]

theorem categoryOf_eq_getD (text : String) :
    categoryOf text = ((matchingRule? text).map (·.code)).getD .internal := by
  unfold categoryOf
  cases matchingRule? text with
  | none => rfl
  | some rule => rfl

/-- The category of a text comes as early as the first rule that matches it. -/
theorem precedence_categoryOf (text : String) :
    (categoryOf text).precedence =
      classificationRules.findIdx fun rule => rule.matchesText (Text.lowercase text) := by
  have hdistinct : ErrorCode.categories.Nodup := by decide
  rw [categoryOf_eq_getD, ErrorCode.precedence, matchingRule?]
  exact idxOf_code_find? hdistinct _

/-- No category comes after that of the texts that no rule knows. -/
theorem precedence_categoryOf_lt {text : String} (hknown : categoryOf text ≠ .internal) :
    (categoryOf text).precedence < ErrorCode.internal.precedence := by
  have hcategories :
      ∀ code ∈ ErrorCode.categories, code ≠ .internal →
        code.precedence < ErrorCode.internal.precedence := by decide
  exact hcategories _ (categoryOf_mem_categories text) hknown

/-- A rule looks at the characters of a text one by one. -/
theorem ClassificationRule.matchesText_lowercase
    {rule : ClassificationRule} (hrule : rule ∈ classificationRules) (text : String) :
    rule.matchesText (Text.lowercase text) =
      rule.matchesText (Text.lowercaseInner text.toList) := by
  have hsmall :
      ∀ rule ∈ classificationRules, ∀ phrase ∈ rule.phrases,
        phrase.toList.all Text.isSmall = true := by decide
  rw [← Text.map_innerSigma_lowercaseAfter [] text.toList, Bool.eq_iff_iff, matchesText,
    matchesText, List.any_eq_true, List.any_eq_true]
  refine exists_congr fun phrase => and_congr_right fun hphrase => ?_
  rw [Text.occursIn_map_innerSigma (hsmall rule hrule phrase hphrase)]
  rfl

theorem ClassificationRule.matchesText_of_infix
    {rule : ClassificationRule} {inner outer : List Char} (hinside : inner <:+: outer)
    (hmatches : rule.matchesText inner = true) :
    rule.matchesText outer = true := by
  obtain ⟨phrase, hphrase, hoccurs⟩ := List.any_eq_true.mp hmatches
  rw [Text.occursIn_iff_infix] at hoccurs
  refine List.any_eq_true.mpr ⟨phrase, hphrase, ?_⟩
  rw [Text.occursIn_iff_infix]
  exact hoccurs.trans hinside

/-- The rules that match a text match every text around it. -/
theorem ClassificationRule.matchesText_wrapped
    {rule : ClassificationRule} (hrule : rule ∈ classificationRules) {text : String}
    (hmatches : rule.matchesText (Text.lowercase text) = true) (front back : String) :
    rule.matchesText (Text.lowercase (front ++ text ++ back)) = true := by
  rw [matchesText_lowercase hrule] at hmatches ⊢
  refine matchesText_of_infix ?_ hmatches
  rw [String.toList_append, String.toList_append, Text.lowercaseInner_append,
    Text.lowercaseInner_append]
  exact List.infix_append _ _ _

theorem precedence_categoryOf_wrapped (front text back : String) :
    (categoryOf (front ++ text ++ back)).precedence ≤ (categoryOf text).precedence := by
  rw [precedence_categoryOf, precedence_categoryOf]
  apply List.findIdx_le_findIdx
  intro rule hrule hmatches
  exact rule.matchesText_wrapped hrule hmatches front back

/-- The case of the letters of ASCII does not matter for the rules. -/
theorem matchingRule?_eq_of_toLower_eq
    {text other : String}
    (hletters : other.toList.map Char.toLower = text.toList.map Char.toLower) :
    matchingRule? other = matchingRule? text := by
  have hinner :
      Text.lowercaseInner other.toList = Text.lowercaseInner text.toList := by
    rw [← Text.lowercaseInner_map_toLower, hletters, Text.lowercaseInner_map_toLower]
  unfold matchingRule?
  apply List.find?_congr
  intro rule hrule
  rw [rule.matchesText_lowercase hrule, rule.matchesText_lowercase hrule, hinner]

namespace EndpointError

/-- What becomes of a text when it is classified, and when other text stands around it. -/
structure KeepsCategory (text : String) : Prop where
  wrapped : ∀ front back : String,
    (categoryOf (front ++ text ++ back)).precedence ≤ (categoryOf text).precedence
  /-- What some rule knows is still known inside another text. -/
  stays_known : categoryOf text ≠ .internal →
    ∀ front back : String, categoryOf (front ++ text ++ back) ≠ .internal
  recased : ∀ other : String,
    other.toList.map Char.toLower = text.toList.map Char.toLower →
      categoryOf other = categoryOf text
  code : (ofText text).code = categoryOf text
  detail : (ofText text).detail = text

/-- No text that is put around an error text takes it out of its category, other than to a category
that comes before. The case of its letters does not matter, and its words are kept. -/
theorem keepsCategory (text : String) : KeepsCategory text := by
  constructor
  · intro front back
    exact precedence_categoryOf_wrapped front text back
  · intro hknown front back hunknown
    have hlater := precedence_categoryOf_wrapped front text back
    rw [hunknown] at hlater
    exact (precedence_categoryOf_lt hknown).not_ge hlater
  · intro other hletters
    rw [categoryOf, categoryOf, matchingRule?_eq_of_toLower_eq hletters]
  · exact code_ofText text
  · exact detail_ofText text

end EndpointError

end InfobaseGateway
