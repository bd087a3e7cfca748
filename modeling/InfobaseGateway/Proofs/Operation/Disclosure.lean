import InfobaseGateway.Proofs.Operation.Audit
import InfobaseGateway.Proofs.Operation.Withdrawal

/-!
# What a failure tells

A caller learns from a status why an operation failed. It reads "cancelled" if the operation found
its caller gone, and "unimplemented" if it was asked to touch a database; no text of an endpoint
reads like either. Any other failure of provider or endpoint ends the operation with the category of
its text, but for one: a creation takes a lookup that finds nothing for an answer.

Of the text itself a caller learns its category and no more, unless it has none. So two texts of one
category cannot be told apart by the status or by the envelopes.
-/

namespace InfobaseGateway

/-! ## Texts of one category -/

/-- The rules tell their categories apart, so a category has one message. -/
theorem status_ofText_eq_of_category_eq
    {text text' : String} (hcategory : categoryOf text' = categoryOf text)
    (hknown : categoryOf text ≠ .internal) :
    (GatewayError.endpoint (.ofText text')).status =
      (GatewayError.endpoint (.ofText text)).status := by
  have hmessages : ∀ rule ∈ classificationRules, ∀ rule' ∈ classificationRules,
      rule'.code = rule.code → rule'.message = rule.message := by decide
  have hknown' : categoryOf text' ≠ .internal := hcategory ▸ hknown
  unfold categoryOf at hcategory hknown hknown'
  unfold EndpointError.ofText
  cases hrule : matchingRule? text with
  | none =>
    rw [hrule] at hknown
    exact absurd rfl hknown
  | some rule =>
    cases hrule' : matchingRule? text' with
    | none =>
      rw [hrule'] at hknown'
      exact absurd rfl hknown'
    | some rule' =>
      simp only [hrule, hrule'] at hcategory
      have hmessage := hmessages rule (List.mem_of_find?_eq_some hrule) rule'
        (List.mem_of_find?_eq_some hrule') hcategory
      show (⟨rule'.code.status, rule'.message⟩ : Status) = ⟨rule.code.status, rule.message⟩
      rw [hcategory, hmessage]

/-- A text without a category is told as it is. -/
theorem status_ofText_of_unknown {text : String} (hunknown : categoryOf text = .internal) :
    (GatewayError.endpoint (.ofText text)).status = ⟨.internal, "RAS error: " ++ text⟩ := by
  have hrules : ∀ rule ∈ classificationRules, rule.code ≠ .internal := by decide
  unfold categoryOf at hunknown
  unfold EndpointError.ofText
  cases hrule : matchingRule? text with
  | none => rfl
  | some rule =>
    rw [hrule] at hunknown
    exact absurd hunknown (hrules rule (List.mem_of_find?_eq_some hrule))

/-- No rule takes the text of an endpoint for an operation that is not supported. -/
theorem categoryOf_ne_unimplemented (text : String) : categoryOf text ≠ .unimplemented := by
  have hcategories : ∀ code ∈ ErrorCode.categories, code ≠ .unimplemented := by decide
  exact hcategories _ (categoryOf_mem_categories text)

/-- Two texts that a caller cannot tell apart. They are the same, or they share a category. -/
def Synonyms (text text' : String) : Prop :=
  text' = text ∨ categoryOf text' = categoryOf text ∧ categoryOf text ≠ .internal

theorem Synonyms.category_eq {text text' : String} (h : Synonyms text text') :
    categoryOf text' = categoryOf text := by
  rcases h with rfl | ⟨hcategory, -⟩
  · rfl
  · exact hcategory

theorem Synonyms.status_eq {text text' : String} (h : Synonyms text text') :
    (GatewayError.endpoint (.ofText text')).status =
      (GatewayError.endpoint (.ofText text)).status := by
  rcases h with rfl | ⟨hcategory, hknown⟩
  · rfl
  · exact status_ofText_eq_of_category_eq hcategory hknown

/-- The same reply, but for the words of a failure. -/
inductive SameButText {α : Type} : Except String α → Except String α → Prop
  | replied (value : α) : SameButText (.ok value) (.ok value)
  | failed {text text' : String} (hsynonyms : Synonyms text text') :
      SameButText (.error text) (.error text')

/-- The same surroundings, but for the words in which provider and endpoint fail. What they log
meanwhile may differ. -/
structure Surroundings.Reworded {σ : Type} (S S' : Surroundings σ) : Prop where
  cancelled : ∀ s, S'.cancelled s = S.cancelled s
  clock : ∀ s, S'.clock s = S.clock s
  acquire_reply : ∀ s, Option.Rel SameButText (S.acquire s).1.reply (S'.acquire s).1.reply
  acquire_final : ∀ s, (S'.acquire s).2 = (S.acquire s).2
  send_reply : ∀ request s,
    Option.Rel SameButText (S.send request s).1.reply (S'.send request s).1.reply
  send_final : ∀ request s, (S'.send request s).2 = (S.send request s).2

/-! ## Programs that tell why they fail -/

/-- The text of a contact that failed. -/
def Step.failureText? : Step → Option String
  | .acquire _ (some (.error text)) | .send _ _ (some (.error text)) => some text
  | _ => none

/-- An operation that failed as a text says. -/
def FailsAs {α : Type} (text : String) (result : Except GatewayError α) : Prop :=
  result = .error (.endpoint (.ofText text))

namespace Operation

variable {α : Type}

/-- A program that ends as cancelled when it finds its caller gone, and with the failure of a
contact when one fails. Its other failures never read "cancelled", and they read "unimplemented"
only if it is asked for something unsupported. A lookup may go on when nothing was found, always in
the same way. -/
inductive Tells (unsupported : Prop) : Operation (Except GatewayError α) → Prop
  | succeeded (value : α) : Tells unsupported (.done (.ok value))
  | refused {error : GatewayError} (hcode : error.code ≠ .cancelled)
      (hmode : error.code = .unimplemented → unsupported) : Tells unsupported (.done (.error error))
  | note (n : Note) {next : Operation (Except GatewayError α)} (hnext : Tells unsupported next) :
      Tells unsupported (.note n next)
  | clock {next : Instant → Operation (Except GatewayError α)}
      (hnext : ∀ now, Tells unsupported (next now)) : Tells unsupported (.clock next)
  | checkpoint {next : Bool → Operation (Except GatewayError α)}
      (hwithdrawn : (next true).Ends IsCancellation) (hnext : Tells unsupported (next false)) :
      Tells unsupported (.checkpoint next)
  | acquire {abandoned : List Event} {next : Except String Unit → Operation (Except GatewayError α)}
      (hfailed : ∀ text, (next (.error text)).Ends (FailsAs text))
      (hnext : Tells unsupported (next (.ok ()))) : Tells unsupported (.acquire abandoned next)
  | send {request : EndpointRequest} {abandoned : List Event}
      {next : Except String EndpointResponse → Operation (Except GatewayError α)}
      (hfailed : ∀ text, (next (.error text)).Ends (FailsAs text))
      (hnext : ∀ response, Tells unsupported (next (.ok response))) :
      Tells unsupported (.send request abandoned next)
  | lookup {request : EndpointRequest} {abandoned : List Event}
      {next : Except String EndpointResponse → Operation (Except GatewayError α)}
      {rest : Operation (Except GatewayError α)}
      (hfailed : ∀ text, categoryOf text ≠ .notFound → (next (.error text)).Ends (FailsAs text))
      (hmissing : ∀ text, categoryOf text = .notFound → next (.error text) = rest)
      (hrest : Tells unsupported rest)
      (hnext : ∀ response, Tells unsupported (next (.ok response))) :
      Tells unsupported (.send request abandoned next)

theorem quiet_tells (unsupported : Prop) :
    Quiet (Tells unsupported : Operation (Except GatewayError α) → Prop) :=
  ⟨.note, .clock⟩

end Operation

/-! ## What a run tells -/

section Runs

variable {σ α : Type} {unsupported : Prop}

/-- Why a dialogue ended as it did. -/
structure Explains (unsupported : Prop) (dialogue : List Step)
    (outcome : Option (Except GatewayError α)) : Prop where
  cancelled : ∀ error, outcome = some (.error error) → error.code = .cancelled →
    .checkpoint true ∈ dialogue
  unimplemented : ∀ error, outcome = some (.error error) → error.code = .unimplemented →
    unsupported
  /-- Only a text that nothing was found may be passed over. -/
  failed : ∀ step ∈ dialogue, ∀ text, step.failureText? = some text →
    categoryOf text ≠ .notFound → outcome = some (.error (.endpoint (.ofText text)))

namespace Explains

/-- The text of a contact that failed is the reason if the operation ends as it says. -/
theorem of_failed
    {step : Step} {text : String} {p : Operation (Except GatewayError α)}
    (hstep : step.failureText? = some text) (hfails : p.Ends (FailsAs text))
    (S : Surroundings σ) (s : σ) :
    Explains unsupported (step :: dialogueOf (p.run S s).steps) (p.run S s).outcome := by
  have hcode : (GatewayError.endpoint (.ofText text)).code = categoryOf text :=
    EndpointError.code_ofText text
  obtain ⟨hdialogue, result, houtcome, rfl⟩ := hfails.run S s
  rw [hdialogue, houtcome]
  constructor
  · rintro _ ⟨⟩ hcancelled
    exact absurd (hcode.symm.trans hcancelled) (categoryOf_ne_cancelled text)
  · rintro _ ⟨⟩ hunimplemented
    exact absurd (hcode.symm.trans hunimplemented) (categoryOf_ne_unimplemented text)
  · intro step' hmem told htold hknown
    rw [List.mem_singleton.mp hmem, hstep] at htold
    rw [Option.some.inj htold]

/-- A contact that may be passed over changes nothing. -/
theorem cons
    {dialogue : List Step} {outcome : Option (Except GatewayError α)}
    (h : Explains unsupported dialogue outcome) {step : Step}
    (hstep : ∀ text, step.failureText? = some text → categoryOf text = .notFound) :
    Explains unsupported (step :: dialogue) outcome where
  cancelled error houtcome hcode := List.mem_cons_of_mem _ (h.cancelled error houtcome hcode)
  unimplemented := h.unimplemented
  failed := by
    intro step' hmem text htext hfound
    rcases List.mem_cons.mp hmem with rfl | hlater
    · exact absurd (hstep text htext) hfound
    · exact h.failed step' hlater text htext hfound

theorem abandoned : Explains unsupported [] (none : Option (Except GatewayError α)) :=
  ⟨nofun, nofun, List.forall_mem_nil _⟩

theorem succeeded (value : α) : Explains unsupported [] (some (.ok value)) :=
  ⟨nofun, nofun, List.forall_mem_nil _⟩

theorem refused
    {error : GatewayError} (hcode : error.code ≠ .cancelled)
    (hmode : error.code = .unimplemented → unsupported) :
    Explains unsupported [] (some (.error error : Except GatewayError α)) where
  cancelled := by
    rintro _ ⟨⟩ hcancelled
    exact absurd hcancelled hcode
  unimplemented := by
    rintro _ ⟨⟩ hunimplemented
    exact hmode hunimplemented
  failed := List.forall_mem_nil _

/-- A look that finds the caller gone is the reason for a cancellation. -/
theorem of_withdrawn
    {p : Operation (Except GatewayError α)} (hwithdrawn : p.Ends IsCancellation)
    (S : Surroundings σ) (s : σ) :
    Explains unsupported (.checkpoint true :: dialogueOf (p.run S s).steps)
      (p.run S s).outcome := by
  obtain ⟨hdialogue, result, houtcome, error, rfl, hcode⟩ := hwithdrawn.run S s
  rw [hdialogue, houtcome]
  constructor
  · intro _ _ _
    exact List.mem_cons_self
  · rintro _ ⟨⟩ hunimplemented
    rw [hcode] at hunimplemented
    cases hunimplemented
  · intro step hmem text htext
    rw [List.mem_singleton.mp hmem] at htext
    cases htext

end Explains

/-- Two runs that neither the caller nor the endpoint can tell apart. -/
structure Run.Resembles (run run' : Run σ (Except GatewayError α)) : Prop where
  outcome : run'.outcome.map (Except.mapError GatewayError.status) =
    run.outcome.map (Except.mapError GatewayError.status)
  sent : sentOf (dialogueOf run'.steps) = sentOf (dialogueOf run.steps)

namespace Operation

variable {p : Operation (Except GatewayError α)}

/-- What a program tells is the reason why its run ended, in all surroundings. -/
theorem Tells.explains (h : p.Tells unsupported) (S : Surroundings σ) (s : σ) :
    Explains unsupported (dialogueOf (p.run S s).steps) (p.run S s).outcome := by
  have hquiet {step : Step} (hnone : step.failureText? = none) (text : String)
      (htext : step.failureText? = some text) : categoryOf text = .notFound := by
    rw [hnone] at htext
    cases htext
  induction h generalizing s with
  | succeeded value => exact .succeeded value
  | refused hcode hmode => exact .refused hcode hmode
  | note n hnext ih => exact ih s
  | clock hnext ih => exact ih _ _
  | checkpoint hwithdrawn hnext ih =>
    rw [dialogueOf_run_checkpoint]
    simp only [run, Run.after_outcome]
    cases S.cancelled s with
    | true => exact .of_withdrawn hwithdrawn S s
    | false => exact (ih s).cons (hquiet rfl)
  | acquire hfailed hnext ih =>
    rw [dialogueOf_run_acquire, outcome_run_acquire]
    cases (S.acquire s).1.reply with
    | none => exact Explains.abandoned.cons (hquiet rfl)
    | some reply =>
      cases reply with
      | ok => exact (ih _).cons (hquiet rfl)
      | error text => exact .of_failed rfl (hfailed text) S _
  | send hfailed hnext ih =>
    rw [dialogueOf_run_send, outcome_run_send]
    cases (S.send _ s).1.reply with
    | none => exact Explains.abandoned.cons (hquiet rfl)
    | some reply =>
      cases reply with
      | ok response => exact (ih response _).cons (hquiet rfl)
      | error text => exact .of_failed rfl (hfailed text) S _
  | lookup hfailed hmissing hrest hnext ihRest ih =>
    rw [dialogueOf_run_send, outcome_run_send]
    cases (S.send _ s).1.reply with
    | none => exact Explains.abandoned.cons (hquiet rfl)
    | some reply =>
      cases reply with
      | ok response => exact (ih response _).cons (hquiet rfl)
      | error text =>
        by_cases hnotFound : categoryOf text = .notFound
        · simp only [hmissing text hnotFound]
          refine (ihRest _).cons fun told htold => ?_
          rwa [← Option.some.inj htold]
        · exact .of_failed rfl (hfailed text hnotFound) S _

/-! ### In other words -/

variable {S S' : Surroundings σ}

/-- A program that only ends takes nothing from its surroundings but the time. -/
theorem Ends.outcome_run_eq
    {P : α → Prop} {p : Operation α} (h : p.Ends P) (hclock : ∀ s, S'.clock s = S.clock s) (s : σ) :
    (p.run S' s).outcome = (p.run S s).outcome := by
  induction h generalizing s with
  | done hresult => rfl
  | note n hnext ih => exact ih s
  | clock hnext ih =>
    simp only [Operation.run, hclock s, Run.after_outcome]
    exact ih _ _

theorem resembles_of_ends
    {P : Except GatewayError α → Prop} (h : p.Ends P) (hreworded : S.Reworded S') (s : σ) :
    (p.run S s).Resembles (p.run S' s) where
  outcome := by rw [h.outcome_run_eq hreworded.clock]
  sent := by rw [(h.run S s).1, (h.run S' s).1]

/-- Programs that fail as synonymous texts say. -/
theorem resembles_of_failsAs
    {p' : Operation (Except GatewayError α)} {text text' : String} (h : p.Ends (FailsAs text))
    (h' : p'.Ends (FailsAs text')) (hsynonyms : Synonyms text text') (s : σ) :
    (p.run S s).Resembles (p'.run S' s) := by
  obtain ⟨hdialogue, result, houtcome, rfl⟩ := h.run S s
  obtain ⟨hdialogue', result', houtcome', rfl⟩ := h'.run S' s
  constructor
  · rw [houtcome, houtcome']
    exact congrArg (some ∘ Except.error) hsynonyms.status_eq
  · rw [hdialogue, hdialogue']

theorem resembles_acquire
    (hreworded : S.Reworded S') {next : Except String Unit → Operation (Except GatewayError α)}
    (hnext : ∀ {reply reply'}, SameButText reply reply' →
      ∀ s, ((next reply).run S s).Resembles ((next reply').run S' s))
    (abandoned : List Event) (s : σ) :
    ((acquire abandoned next).run S s).Resembles ((acquire abandoned next).run S' s) := by
  have hreply := hreworded.acquire_reply s
  have hfinal := hreworded.acquire_final s
  generalize hleft : (S.acquire s).1.reply = reply at hreply
  generalize hright : (S'.acquire s).1.reply = reply' at hreply
  cases hreply with
  | none =>
    constructor
    · rw [outcome_run_acquire, outcome_run_acquire, hleft, hright]
    · rw [dialogueOf_run_acquire, dialogueOf_run_acquire, hleft, hright, hreworded.cancelled]
  | some hsame =>
    have hrest := hnext hsame (S.acquire s).2
    constructor
    · rw [outcome_run_acquire, outcome_run_acquire, hleft, hright, hfinal]
      exact hrest.outcome
    · rw [dialogueOf_run_acquire, dialogueOf_run_acquire, hleft, hright, hfinal]
      exact hrest.sent

theorem resembles_send
    (hreworded : S.Reworded S') {request : EndpointRequest}
    {next : Except String EndpointResponse → Operation (Except GatewayError α)}
    (hnext : ∀ {reply reply'}, SameButText reply reply' →
      ∀ s, ((next reply).run S s).Resembles ((next reply').run S' s))
    (abandoned : List Event) (s : σ) :
    ((send request abandoned next).run S s).Resembles ((send request abandoned next).run S' s) := by
  have hreply := hreworded.send_reply request s
  have hfinal := hreworded.send_final request s
  generalize hleft : (S.send request s).1.reply = reply at hreply
  generalize hright : (S'.send request s).1.reply = reply' at hreply
  cases hreply with
  | none =>
    constructor
    · rw [outcome_run_send, outcome_run_send, hleft, hright]
    · rw [dialogueOf_run_send, dialogueOf_run_send, hleft, hright, hreworded.cancelled]
  | some hsame =>
    have hrest := hnext hsame (S.send request s).2
    constructor
    · rw [outcome_run_send, outcome_run_send, hleft, hright, hfinal]
      exact hrest.outcome
    · rw [dialogueOf_run_send, dialogueOf_run_send, hleft, hright, hfinal]
      exact congrArg (request :: ·) hrest.sent

/-- A program that tells why it fails ends alike and sends the same, in whatever words its
surroundings fail. -/
theorem Tells.resembles
    (h : p.Tells unsupported) (hreworded : S.Reworded S') (s : σ) :
    (p.run S s).Resembles (p.run S' s) := by
  induction h generalizing s with
  | succeeded value => exact ⟨rfl, rfl⟩
  | refused hcode hmode => exact ⟨rfl, rfl⟩
  | note n hnext ih => exact ⟨(ih s).outcome, (ih s).sent⟩
  | clock hnext ih =>
    have hclock := hreworded.clock s
    simp only [run, hclock]
    have hrest := ih (S.clock s).1 (S.clock s).2
    exact ⟨hrest.outcome, hrest.sent⟩
  | checkpoint hwithdrawn hnext ih =>
    have hcancelled := hreworded.cancelled s
    simp only [run, hcancelled]
    cases S.cancelled s with
    | true =>
      have hrest := resembles_of_ends hwithdrawn hreworded s
      exact ⟨hrest.outcome, hrest.sent⟩
    | false => exact ⟨(ih s).outcome, (ih s).sent⟩
  | acquire hfailed hnext ih =>
    refine resembles_acquire hreworded (fun hsame s => ?_) _ s
    cases hsame with
    | replied => exact ih s
    | failed hsynonyms => exact resembles_of_failsAs (hfailed _) (hfailed _) hsynonyms s
  | send hfailed hnext ih =>
    refine resembles_send hreworded (fun hsame s => ?_) _ s
    cases hsame with
    | replied response => exact ih response s
    | failed hsynonyms => exact resembles_of_failsAs (hfailed _) (hfailed _) hsynonyms s
  | lookup hfailed hmissing hrest hnext ihRest ih =>
    refine resembles_send hreworded (fun hsame s => ?_) _ s
    cases hsame with
    | replied response => exact ih response s
    | @failed text text' hsynonyms =>
      have hcategory := hsynonyms.category_eq
      by_cases hnotFound : categoryOf text = .notFound
      · rw [hmissing text hnotFound, hmissing text' (hcategory.trans hnotFound)]
        exact ihRest s
      · have hother : categoryOf text' ≠ .notFound := by rwa [hcategory]
        exact resembles_of_failsAs (hfailed text hnotFound) (hfailed text' hother) hsynonyms s

end Operation

end Runs

/-! ## Every procedure tells why it fails -/

section Procedure

variable {α : Type} {unsupported : Prop}

/-- A failure whose code is told for itself alone. -/
def GatewayError.IsPlain (error : GatewayError) : Prop :=
  error.code ≠ .cancelled ∧ error.code ≠ .unimplemented

theorem Closing.tells
    {closing : Closing α} (hplain : ∀ error, closing.result = .error error → error.IsPlain) :
    closing.program.Tells unsupported := by
  refine closing.ends.of_quiet (Operation.quiet_tells unsupported) ?_
  rintro result rfl
  cases hresult : closing.result with
  | ok value => exact .succeeded value
  | error error =>
    obtain ⟨hcode, hmode⟩ := hplain error hresult
    exact .refused hcode fun h => absurd h hmode

theorem isPlain_missingInfobaseId : GatewayError.missingInfobaseId.IsPlain :=
  ⟨nofun, nofun⟩

/-- An operation that ends after an answer either succeeds or fails plainly. -/
theorem isPlain_of_receive
    {request : EndpointRequest} {response : EndpointResponse} {error : GatewayError}
    (hreceive : Dispatch.receive request (.ok response) = .error error) : error.IsPlain := by
  rw [Dispatch.eq_unexpectedResponse_of_receive_ok hreceive]
  exact ⟨nofun, nofun⟩

namespace Procedure

variable {procedure : Procedure α} {excused : Prop}

theorem isPlain_of_answer
    (hconcludes : procedure.Concludes excused) {response : EndpointResponse} {error : GatewayError}
    (hfails : (procedure.closing (.ok response)).result = .error error) : error.IsPlain := by
  rw [closing] at hfails
  cases hreceive : Dispatch.receive procedure.envelope (.ok response) with
  | error failure =>
    rw [hreceive] at hfails
    cases hfails
    exact isPlain_of_receive hreceive
  | ok content =>
    rw [hreceive] at hfails
    rcases hconcludes.answered content with ⟨value, hok⟩ | ⟨-, hmissing⟩
    · cases hok.symm.trans hfails
    · cases hmissing.symm.trans hfails
      exact isPlain_missingInfobaseId

theorem tells_asking (hconcludes : procedure.Concludes excused) :
    procedure.asking.Tells unsupported := by
  refine .checkpoint (procedure.ends_withdrawn _) (.send (fun text => ?_) fun response => ?_)
  · exact (procedure.closing (.error text)).ends
  · exact Closing.tells fun error => isPlain_of_answer hconcludes

/-- A procedure whose search finds nothing goes on, always in the same way. -/
theorem tells_program (hconcludes : procedure.Concludes excused) :
    procedure.program.Tells unsupported := by
  refine .checkpoint (procedure.ends_withdrawn _) (.acquire (fun text => ?_) ?_)
  · exact (procedure.setback (.unequipped text)).ends
  dsimp only
  rw [searching]
  cases hsearch : procedure.search? with
  | none => exact tells_asking hconcludes
  | some search =>
    refine .lookup ?_ ?_ (tells_asking hconcludes) fun response => ?_
    · intro text hother
      simp only [Search.onwards, search.closing?_error, if_neg hother]
      exact (search.failure _).ends
    · intro text hnotFound
      rw [Search.onwards, search.closing?_error, if_pos hnotFound]
    · rw [Search.onwards]
      cases hclosing : search.closing? (.ok response) with
      | none => exact tells_asking hconcludes
      | some closing =>
        refine Closing.tells fun error hfails => ?_
        rcases Search.closing?_cases hclosing with
          ⟨content, -, hfound⟩ | ⟨failure, hreceive, -, rfl⟩
        · obtain ⟨value, hok⟩ := hconcludes.found search hsearch content closing hfound
          cases hok.symm.trans hfails
        · cases hfails
          exact isPlain_of_receive hreceive

end Procedure

end Procedure

/-! ## Every task tells why it fails -/

/-- A removal that asks for more than its cluster to forget the infobase. -/
def DropInfobase.TouchesDatabase (request : DropInfobase) : Prop :=
  ∃ mode, request.dropMode = some mode ∧ mode ≠ .unregisterOnly

namespace GatewayTask

/-- The tasks that touch a database: removals in certain modes. -/
def TouchesDatabase : GatewayTask → Prop
  | drop request => request.TouchesDatabase
  | _ => False

/-- What is not supported is a removal in a mode that is given. -/
theorem touchesDatabase_of_unsupported
    {task : GatewayTask} {now : Instant} (hvalid : task.Valid now)
    (hunsupported : task.Unsupported) : task.TouchesDatabase := by
  cases task with
  | drop request =>
    obtain ⟨mode, hmode⟩ := Option.ne_none_iff_exists'.mp hvalid.mode
    exact ⟨mode, hmode, fun hsame => hunsupported (hsame ▸ hmode)⟩
  | _ => exact hunsupported.elim

theorem tells_perform (task : GatewayTask) :
    task.perform.outcome.Tells task.TouchesDatabase := by
  rw [outcome_perform]
  refine task.prepares.followedBy_quiet (Operation.quiet_tells _) (fun now error hverdict => ?_) ?_
  · have hadmits := task.admits_admission now
    rw [hverdict] at hadmits
    cases hadmits with
    | invalid hinvalid error => exact .refused nofun nofun
    | unsupported hvalid hunsupported mode =>
      exact .refused nofun fun _ => touchesDatabase_of_unsupported hvalid hunsupported
  · exact Procedure.tells_program task.concludes

end GatewayTask

end InfobaseGateway
