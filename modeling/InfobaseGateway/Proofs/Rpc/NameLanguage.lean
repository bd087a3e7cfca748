import InfobaseGateway.Proofs.Request.Convertible
import InfobaseGateway.Proofs.Rpc.Dialogue

/-!
# The language of names

A name is made of 1 to 64 characters, each of them a letter or a number of any script, an underscore
or a hyphen. Exactly these texts pass the check of a name. A text that fails it comes to its failure
by its length first, which counts characters and not bytes: none at all, then more than 64. Only
after that a character may be wrong.

A creation looks at the numbers of its message and at its cluster before it looks at the name, so
it may be refused for those. With a name that fails the check it is refused in any case, as a
mistake of the caller and before any contact is made.
-/

namespace InfobaseGateway

/-! ## Names -/

/-- A letter or a number of any script, an underscore or a hyphen. -/
def IsNameLetter (c : Char) : Prop :=
  Text.letters.contains c = true ∨ Text.numbers.contains c = true ∨ c = '_' ∨ c = '-'

theorem isNameChar_iff (c : Char) : isNameChar c = true ↔ IsNameLetter c := by
  simp only [isNameChar, IsNameLetter, Bool.or_eq_true, decide_eq_true_eq]
  constructor
  · rintro (((hunderscore | hhyphen) | hletter) | hnumber)
    · exact .inr (.inr (.inl hunderscore))
    · exact .inr (.inr (.inr hhyphen))
    · exact .inl hletter
    · exact .inr (.inl hnumber)
  · rintro (hletter | hnumber | hunderscore | hhyphen)
    · exact .inl (.inr hletter)
    · exact .inr hnumber
    · exact .inl (.inl (.inl hunderscore))
    · exact .inl (.inl (.inr hhyphen))

/-- How the check of a name ends, and what it says about the name. -/
inductive NameVerdict (name : String) : Except ValidationError Unit → Prop
  | empty (hempty : name.length = 0) : NameVerdict name (.error (.missing "name"))
  | long (hlong : 64 < name.length) : NameVerdict name (.error (.nameTooLong name.length))
  | foreign (hsome : 1 ≤ name.length) (hfew : name.length ≤ 64)
      (hforeign : ∃ c ∈ name.toList, ¬IsNameLetter c) : NameVerdict name (.error .nameAlphabet)
  | accepted (hsome : 1 ≤ name.length) (hfew : name.length ≤ 64)
      (hletters : ∀ c ∈ name.toList, IsNameLetter c) : NameVerdict name (.ok ())

theorem nameVerdict_checkName (name : String) : NameVerdict name (checkName name) := by
  have hempty : name = "" ↔ name.length = 0 := String.length_eq_zero_iff.symm
  unfold checkName
  split
  · next hname => exact .empty (hempty.mp hname)
  · next hname =>
    have hsome : 1 ≤ name.length := Nat.pos_of_ne_zero fun hzero => hname (hempty.mpr hzero)
    split
    · next hlong => exact .long hlong
    · next hshort =>
      have hfew : name.length ≤ 64 := Nat.not_lt.mp hshort
      split
      · next hmatch =>
        refine .accepted hsome hfew fun c hc => (isNameChar_iff c).mp ?_
        exact ((namePattern_isMatch_iff name).mp hmatch).2 c hc
      · next hmatch =>
        refine .foreign hsome hfew ?_
        by_contra hletters
        refine hmatch ((namePattern_isMatch_iff name).mpr ⟨hname, fun c hc => ?_⟩)
        by_contra hchar
        exact hletters ⟨c, hc, fun hletter => hchar ((isNameChar_iff c).mpr hletter)⟩

/-- A name has one verdict only. -/
theorem NameVerdict.unique {name : String} {result result' : Except ValidationError Unit}
    (h : NameVerdict name result) (h' : NameVerdict name result') : result = result' := by
  cases h with
  | empty hempty =>
    cases h' with
    | empty => rfl
    | long | foreign | accepted => omega
  | long hlong =>
    cases h' with
    | long => rfl
    | empty | foreign | accepted => omega
  | foreign hsome hfew hforeign =>
    cases h' with
    | foreign => rfl
    | empty | long => omega
    | accepted _ _ hletters =>
      obtain ⟨c, hc, hnot⟩ := hforeign
      exact absurd (hletters c hc) hnot
  | accepted hsome hfew hletters =>
    cases h' with
    | accepted => rfl
    | empty | long => omega
    | foreign _ _ hforeign =>
      obtain ⟨c, hc, hnot⟩ := hforeign
      exact absurd (hletters c hc) hnot

theorem checkName_eq_iff (name : String) (result : Except ValidationError Unit) :
    checkName name = result ↔ NameVerdict name result := by
  constructor
  · rintro rfl
    exact nameVerdict_checkName name
  · exact (nameVerdict_checkName name).unique

/-! ## Creations -/

namespace CreateInfobase

variable {request : CreateInfobase} {error : ValidationError}

/-- A creation whose name fails is refused, for its name unless it names no cluster either. -/
theorem exists_validate_eq_error (hname : checkName request.name = .error error) :
    ∃ refusal, request.validate = .error refusal ∧
      (Filled request.clusterId → refusal = error) := by
  unfold validate
  cases hcluster : requireText "cluster_id" request.clusterId with
  | error missing =>
    refine ⟨missing, rfl, fun hfilled => ?_⟩
    rw [(requireText_eq_ok_iff "cluster_id" request.clusterId ()).mpr hfilled] at hcluster
    cases hcluster
  | ok u =>
    refine ⟨error, ?_, fun _ => rfl⟩
    rw [hname]
    rfl

theorem exists_outcome_perform (hname : checkName request.name = .error error) :
    ∃ refusal, request.perform.outcome = .done (.error (.validation refusal)) ∧
      (Filled request.clusterId → refusal = error) := by
  obtain ⟨refusal, hvalidate, hrefusal⟩ := exists_validate_eq_error hname
  refine ⟨refusal, ?_, hrefusal⟩
  rw [perform, outcome_ensure_bind, hvalidate]

/-- A message hands its name and its cluster on to the request. -/
theorem ofMessage_keeps {message : CreateInfobaseRequest}
    (hconverts : ofMessage message = .ok request) :
    request.name = message.name ∧ request.clusterId = message.clusterId := by
  unfold ofMessage at hconverts
  obtain ⟨dbms, -, hconverts⟩ := (except_bind_eq_ok_iff _ _ _).mp hconverts
  obtain ⟨level, -, hconverts⟩ := (except_bind_eq_ok_iff _ _ _).mp hconverts
  cases hconverts
  exact ⟨rfl, rfl⟩

end CreateInfobase

/-- How a call ends that creates nothing: it is refused as a mistake of the caller, and makes no
contact. -/
structure RefusesCreation {σ : Type} (S : Surroundings σ) (s : σ) (message : CreateInfobaseRequest)
    (text : String) : Prop where
  outcome : ((Rpc.createInfobase.serve message).run S s).outcome =
    some (.error ⟨.invalidArgument, text⟩)
  silent : dialogueOf ((Rpc.createInfobase.serve message).run S s).steps = []

/-- A call whose name fails is refused, for its name if the message converts and names a cluster. -/
theorem exists_refusesCreation
    {message : CreateInfobaseRequest} {error : ValidationError}
    (hname : checkName message.name = .error error) {σ : Type} (S : Surroundings σ) (s : σ) :
    ∃ text, RefusesCreation S s message text ∧
      (Rpc.createInfobase.Converts message → Filled message.clusterId → text = error.message) := by
  have hplan : Rpc.createInfobase.plan message =
      (CreateInfobase.ofMessage message).map fun request =>
        ⟨.create request, fun outcome =>
          ⟨outcome.infobaseId, outcome.name.getD "", outcome.message, outcome.success⟩⟩ := rfl
  cases hconverts : CreateInfobase.ofMessage message with
  | error conversion =>
    rw [hconverts] at hplan
    obtain ⟨hsilent, houtcome⟩ := Rpc.run_serve_of_plan_eq_error hplan S s
    refine ⟨conversion.message, ⟨houtcome, hsilent⟩, fun hall => ?_⟩
    obtain ⟨plan, hplan'⟩ := (Rpc.exists_plan_eq_ok_iff .createInfobase message).mpr hall
    cases hplan.symm.trans hplan'
  | ok request =>
    rw [hconverts] at hplan
    obtain ⟨hnameOf, hclusterOf⟩ := CreateInfobase.ofMessage_keeps hconverts
    obtain ⟨refusal, hperform, hrefusal⟩ :=
      CreateInfobase.exists_outcome_perform (hnameOf.symm ▸ hname)
    obtain ⟨hsilent, houtcome⟩ := Rpc.run_serve_of_plan_eq_ok hplan S s
    have htask : (GatewayTask.create request).perform.outcome =
        .done (.error (.validation refusal)) := hperform
    refine ⟨refusal.message, ⟨?_, ?_⟩, fun _ hfilled => ?_⟩
    · rw [houtcome, htask]
      rfl
    · rw [hsilent, htask]
      rfl
    · rw [hrefusal (hclusterOf.symm ▸ hfilled)]

/-! ## The language -/

/-- What becomes of a text that is given as a name. -/
structure CheckedByLanguage (name : String) : Prop where
  /-- It passes exactly if it has 1 to 64 characters that may stand in a name. -/
  accepted_iff : checkName name = .ok () ↔
    1 ≤ name.length ∧ name.length ≤ 64 ∧ ∀ c ∈ name.toList, IsNameLetter c
  /-- It is missing exactly if it is empty, -/
  empty_iff : checkName name = .error (.missing "name") ↔ name.length = 0
  /-- it is too long, of its number of characters, exactly if these are more than 64, -/
  long_iff : ∀ n, checkName name = .error (.nameTooLong n) ↔ 64 < name.length ∧ n = name.length
  /-- and its characters are wrong exactly if one of them is and the length is not. -/
  foreign_iff : checkName name = .error .nameAlphabet ↔
    1 ≤ name.length ∧ name.length ≤ 64 ∧ ∃ c ∈ name.toList, ¬IsNameLetter c
  /-- These are all the failures that there are. -/
  failure : ∀ error, checkName name = .error error →
    error = .missing "name" ∨ error = .nameTooLong name.length ∨ error = .nameAlphabet
  /-- A creation with a name that fails ends at once, -/
  ends : ∀ error, checkName name = .error error →
    ∀ request : CreateInfobase, request.name = name →
      ∃ refusal, request.perform.outcome = .done (.error (.validation refusal)) ∧
        (Filled request.clusterId → refusal = error)
  /-- and so does its call, which tells the failure if nothing else is wrong before it. -/
  refused : ∀ error, checkName name = .error error →
    ∀ message : CreateInfobaseRequest, message.name = name →
      ∀ {σ : Type} (S : Surroundings σ) (s : σ), ∃ text, RefusesCreation S s message text ∧
        (Rpc.createInfobase.Converts message → Filled message.clusterId → text = error.message)

theorem checkedByLanguage (name : String) : CheckedByLanguage name := by
  constructor
  case accepted_iff =>
    rw [checkName_eq_iff]
    constructor
    · intro hverdict
      cases hverdict with
      | accepted hsome hfew hletters => exact ⟨hsome, hfew, hletters⟩
    · rintro ⟨hsome, hfew, hletters⟩
      exact .accepted hsome hfew hletters
  case empty_iff =>
    rw [checkName_eq_iff]
    constructor
    · intro hverdict
      cases hverdict with
      | empty hempty => exact hempty
    · exact .empty
  case long_iff =>
    intro n
    rw [checkName_eq_iff]
    constructor
    · intro hverdict
      cases hverdict with
      | long hlong => exact ⟨hlong, rfl⟩
    · rintro ⟨hlong, rfl⟩
      exact .long hlong
  case foreign_iff =>
    rw [checkName_eq_iff]
    constructor
    · intro hverdict
      cases hverdict with
      | foreign hsome hfew hforeign => exact ⟨hsome, hfew, hforeign⟩
    · rintro ⟨hsome, hfew, hforeign⟩
      exact .foreign hsome hfew hforeign
  case failure =>
    intro error hname
    cases (checkName_eq_iff name _).mp hname with
    | empty => exact .inl rfl
    | long => exact .inr (.inl rfl)
    | foreign => exact .inr (.inr rfl)
  case ends =>
    rintro error hname request rfl
    exact CreateInfobase.exists_outcome_perform hname
  case refused =>
    rintro error hname message rfl σ S s
    exact exists_refusesCreation hname S s

end InfobaseGateway
