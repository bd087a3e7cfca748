import InfobaseGateway.Classification
import InfobaseGateway.Proofs.Store.Answers

/-!
# How rejections are classified

The service rejects requests in free text that quotes ids of the caller, and the gateway reads the
text back. The texts end in a phrase of the first rule, so whatever an id holds, in any script and
any case, it cannot lead the classification astray: the rule that decides comes before all others.
-/

namespace InfobaseGateway

/-! ## Lower case and occurrence -/

namespace Text

/-- Lower-casing goes from left to right: what stands at the end is lower-cased after the rest. -/
theorem exists_lowercaseAfter_append (before first second : List Char) :
    ∃ front,
      lowercaseAfter before (first ++ second) =
        front ++ lowercaseAfter (first.reverse ++ before) second := by
  induction first generalizing before with
  | nil => exact ⟨[], rfl⟩
  | cons c first ih =>
    obtain ⟨front, hfront⟩ := ih (c :: before)
    refine ⟨(if c = 'Σ' then [lowerSigma before (first ++ second)] else lower c) ++ front, ?_⟩
    rw [List.cons_append, lowercaseAfter, hfront, List.append_assoc, List.reverse_cons,
      List.append_assoc]
    rfl

/-- Only a capital sigma looks at what stands around it. -/
theorem lowercaseAfter_eq_flatMap
    (before : List Char) {text : List Char} (hsigma : 'Σ' ∉ text) :
    lowercaseAfter before text = text.flatMap lower := by
  induction text generalizing before with
  | nil => rfl
  | cons c text ih =>
    have hc : c ≠ 'Σ' := by
      rintro rfl
      exact hsigma List.mem_cons_self
    have hrest : 'Σ' ∉ text := fun h => hsigma (List.mem_cons_of_mem c h)
    rw [lowercaseAfter, if_neg hc, ih (c :: before) hrest, List.flatMap_cons]

theorem occursIn_append
    {part text : List Char} (hoccurs : occursIn part text = true) (front : List Char) :
    occursIn part (front ++ text) = true := by
  induction front with
  | nil => exact hoccurs
  | cons c front ih => simp [occursIn, ih]

/-- A character of ASCII that is no capital. -/
def isSmall (c : Char) : Bool :=
  c.toNat < 0x41 || (0x5a < c.toNat && c.toNat < 0x80)

/-- The capitals of ASCII are the first run of the table; all others lie beyond ASCII. -/
theorem lower_of_isSmall {c : Char} (hsmall : isSmall c = true) : lower c = [c] := by
  have htable :
      ∀ run ∈ capitals, (run.1 = 0x41 ∧ run.2.1 = 0x5a) ∨ 0x80 ≤ run.1 := by decide +kernel
  have hrange : c.toNat < 0x41 ∨ (0x5a < c.toNat ∧ c.toNat < 0x80) := by
    simpa [isSmall] using hsmall
  have hnone : smallOf? c = none := by
    rw [smallOf?, Option.map_eq_none_iff, List.find?_eq_none]
    rintro ⟨first, last, step, distance⟩ hrun
    simp only [Bool.and_eq_true, decide_eq_true_eq, beq_iff_eq, not_and]
    rintro ⟨hlower, hupper⟩
    rcases htable _ hrun with ⟨hfirst, hlast⟩ | hbeyond
    · simp only at hfirst hlast
      omega
    · simp only at hbeyond
      omega
  have hdotted : c.toNat ≠ 0x130 := by omega
  rw [lower, if_neg hdotted, hnone]
  rfl

theorem lowercaseAfter_of_isSmall
    (before : List Char) {text : List Char} (hsmall : text.all isSmall = true) :
    lowercaseAfter before text = text := by
  have hsigma : 'Σ' ∉ text := by
    intro hmem
    have hno := List.all_eq_true.mp hsmall 'Σ' hmem
    simp [isSmall] at hno
  rw [lowercaseAfter_eq_flatMap before hsigma]
  induction text with
  | nil => rfl
  | cons c text ih =>
    rw [List.all_cons, Bool.and_eq_true] at hsmall
    rw [List.flatMap_cons, lower_of_isSmall hsmall.1,
      ih hsmall.2 fun hmem => hsigma (List.mem_cons_of_mem c hmem)]
    rfl

/-- A text of small characters is its own lower-case form. -/
theorem lowercase_of_isSmall {text : String} (hsmall : text.toList.all isSmall = true) :
    lowercase text = text.toList :=
  lowercaseAfter_of_isSmall [] hsmall

/-- What occurs in a small ending occurs in the lower-case form of the whole text. -/
theorem occursIn_lowercase_append
    {phrase : List Char} {ending : String} (hsmall : ending.toList.all isSmall = true)
    (hoccurs : occursIn phrase ending.toList = true) (front : String) :
    occursIn phrase (lowercase (front ++ ending)) = true := by
  obtain ⟨head, hhead⟩ := exists_lowercaseAfter_append [] front.toList ending.toList
  rw [lowercase, String.toList_append, hhead, lowercaseAfter_of_isSmall _ hsmall]
  exact occursIn_append hoccurs head

end Text

/-! ## Texts of the service -/

/-- A text with a phrase of the first rule is classified as not found. -/
theorem categoryOf_eq_notFound
    {text phrase : String} (hphrase : phrase ∈ ["not found", "does not exist"])
    (hoccurs : Text.occursIn phrase.toList (Text.lowercase text) = true) :
    categoryOf text = .notFound := by
  have hfirst :
      ClassificationRule.matchesText
        ⟨.notFound, ["not found", "does not exist"], "resource not found"⟩
        (Text.lowercase text) = true :=
    List.any_eq_true.mpr ⟨phrase, hphrase, hoccurs⟩
  simp only [categoryOf, matchingRule?, classificationRules, List.find?, hfirst]

theorem categoryOf_append_not_found (front : String) :
    categoryOf (front ++ " not found") = .notFound := by
  have hphrase : "not found" ∈ ["not found", "does not exist"] := by decide
  refine categoryOf_eq_notFound hphrase (Text.occursIn_lowercase_append ?_ ?_ front)
  · decide
  · decide

theorem categoryOf_append_does_not_exist (front : String) :
    categoryOf (front ++ " does not exist") = .notFound := by
  have hphrase : "does not exist" ∈ ["not found", "does not exist"] := by decide
  refine categoryOf_eq_notFound hphrase (Text.occursIn_lowercase_append ?_ ?_ front)
  · decide
  · decide

namespace Rejection

/-- Whatever ids they quote, the rejections of missing things are classified as not found. -/
theorem categoryOf_message_of_isMissing
    {rejection : Rejection} (hmissing : rejection.IsMissing) :
    categoryOf rejection.message = .notFound := by
  cases rejection with
  | unknownCluster id => exact categoryOf_append_not_found ("cluster " ++ id)
  | unknownInfobase uuid => exact categoryOf_append_does_not_exist _
  | unknownSession uuid => exact categoryOf_append_not_found ("session " ++ uuid)
  | wrongCredentials scope | nameMissing | nameTaken name => exact hmissing.elim

/-- The text of wrong credentials names the scope by one of three words and quotes nothing. -/
theorem categoryOf_message_wrongCredentials (scope : AuthScope) :
    categoryOf (wrongCredentials scope).message = .unauthenticated := by
  have hname : scope.name ∈ ["agent", "cluster", "infobase"] := by
    cases scope with
    | _ => simp [AuthScope.name]
  have hsmall :
      ∀ name ∈ ["agent", "cluster", "infobase"],
        (name ++ " authentication failed: wrong user name or password").toList.all
          Text.isSmall = true := by decide +kernel
  have hrule :
      ∀ name ∈ ["agent", "cluster", "infobase"],
        (classificationRules.find? fun rule =>
          rule.matchesText
            (name ++ " authentication failed: wrong user name or password").toList).map
          (·.code) = some .unauthenticated := by decide +kernel
  obtain ⟨rule, hfind, hcode⟩ := Option.map_eq_some_iff.mp (hrule scope.name hname)
  have hmatching : matchingRule? (wrongCredentials scope).message = some rule := by
    rw [← hfind, matchingRule?, message, Text.lowercase_of_isSmall (hsmall scope.name hname)]
  rw [categoryOf, hmatching]
  exact hcode

end Rejection

/-- The codes that a text can have: those of the rules, and that of a text that no rule knows. -/
def ErrorCode.categories : List ErrorCode :=
  classificationRules.map (·.code) ++ [.internal]

theorem categoryOf_mem_categories (text : String) : categoryOf text ∈ ErrorCode.categories := by
  unfold categoryOf ErrorCode.categories
  cases hrule : matchingRule? text with
  | none => exact List.mem_append_right _ List.mem_cons_self
  | some rule =>
    have hmem : rule ∈ classificationRules := List.mem_of_find?_eq_some hrule
    exact List.mem_append_left _ (List.mem_map_of_mem hmem)

theorem EndpointError.code_ofText (text : String) : (ofText text).code = categoryOf text := by
  unfold ofText categoryOf
  cases matchingRule? text with
  | none => rfl
  | some rule => rfl

theorem EndpointError.detail_ofText (text : String) : (ofText text).detail = text := by
  unfold ofText
  cases matchingRule? text with
  | none => rfl
  | some rule => rfl

end InfobaseGateway
