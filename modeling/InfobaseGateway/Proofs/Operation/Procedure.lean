import InfobaseGateway.Proofs.Classification
import InfobaseGateway.Proofs.Operation.Prospect

/-!
# The procedure of an operation

Once the request of an operation has passed its checks, all operations of the gateway proceed alike.
An operation looks whether its caller withdrew, acquires an endpoint, looks again, sends its
envelope, and ends with what it makes of the reply. Where it is set back it ends at once. A search
may come before the second look, and then the operation ends there if the search has a result.

A procedure is what one operation has of its own in this: its envelope, its search, the records that
it leaves, and what it makes of the content of a reply. The order of the steps and the failures
are the same in all of them, so what is proved about the program of a procedure holds for every
operation that has one.
-/

namespace InfobaseGateway

/-! ## How an operation ends -/

/-- The two places where an operation looks for its caller. -/
inductive Look
  | beforeEndpoint
  | beforeEnvelope

/-- The failure of an operation that found its caller gone. -/
def Look.error : Look → GatewayError
  | beforeEndpoint => .cancelled
  | beforeEnvelope => .cancelledBeforeSend

@[simp]
theorem Look.code_error (look : Look) : look.error.code = .cancelled := by
  cases look with
  | _ => rfl

/-- What keeps an operation from an answer to its envelope. -/
inductive Setback
  | withdrawn (look : Look)
  | unequipped (text : String)
  | unanswered (error : GatewayError)

def Setback.error : Setback → GatewayError
  | withdrawn look => look.error
  | unequipped text => .endpoint (.ofText text)
  | unanswered error => error

/-- The last records of an operation. One that tells the time comes at the end. -/
structure Records where
  events : List Event := []
  stamped? : Option (Instant → Event) := none

/-- All of the records have a property. -/
structure Records.All (P : Event → Prop) (records : Records) : Prop where
  events : ∀ event ∈ records.events, P event
  stamped : ∀ record, records.stamped? = some record → ∀ now, P (record now)

namespace Records

variable {P : Event → Prop}

theorem all_events {events : List Event} (hevents : ∀ event ∈ events, P event) :
    All P { events := events } :=
  ⟨hevents, nofun⟩

theorem all_nil : All P {} :=
  all_events (List.forall_mem_nil P)

theorem all_singleton {event : Event} (hevent : P event) : All P { events := [event] } :=
  all_events (List.forall_mem_singleton.mpr hevent)

end Records

/-- The end of an operation: its last records and its result. -/
structure Closing (α : Type) where
  records : Records
  result : Except GatewayError α

def Closing.program {α : Type} (closing : Closing α) : Operation (Except GatewayError α) :=
  (Operation.log closing.records.events).bind fun _ =>
    match closing.records.stamped? with
    | none => .done closing.result
    | some record => .clock fun now => .note (.event (record now)) (.done closing.result)

theorem Closing.ends {α : Type} (closing : Closing α) :
    closing.program.Ends (· = closing.result) := by
  refine (Operation.quiet_ends _).log_bind _ ?_
  cases closing.records.stamped? with
  | none => exact .done rfl
  | some record => exact .clock fun now => .note _ (.done rfl)

/-! ## Procedures -/

/-- A request that an operation makes before its second look. The operation ends with what the
search finds. -/
structure Search (α : Type) where
  envelope : EndpointRequest
  failureEvents : GatewayError → List Event
  finding? : envelope.expects.Content → Option (Closing α)

/-- What an operation has of its own once its request has passed its checks. -/
structure Procedure (α : Type) where
  search? : Option (Search α) := none
  envelope : EndpointRequest
  setbackRecords : Setback → Records
  conclude : envelope.expects.Content → Closing α
  /-- The events that the operation leaves if it is abandoned while it waits. -/
  abandoned : List Event := []

/-- The end of an operation whose search fails. -/
def Search.failure {α : Type} (search : Search α) (error : GatewayError) : Closing α :=
  ⟨{ events := search.failureEvents error }, .error error⟩

/-- How an operation ends after the reply to its search, unless it goes on. It goes on after a
failure that says that something was not found. -/
def Search.closing? {α : Type} (search : Search α) (reply : Except String EndpointResponse) :
    Option (Closing α) :=
  match Dispatch.receive search.envelope reply with
  | .ok content => search.finding? content
  | .error error =>
    if error.code = .notFound then none else some (search.failure error)

/-- What an operation does after the reply to its search. -/
def Search.onwards {α : Type} (search : Search α) (next : Operation (Except GatewayError α))
    (reply : Except String EndpointResponse) : Operation (Except GatewayError α) :=
  match search.closing? reply with
  | some closing => closing.program
  | none => next

namespace Procedure

variable {α : Type} (procedure : Procedure α)

/-- The end of an operation that is set back. -/
def setback (setback : Setback) : Closing α :=
  ⟨procedure.setbackRecords setback, .error setback.error⟩

/-- The end of an operation after the reply to its envelope. -/
def closing (reply : Except String EndpointResponse) : Closing α :=
  match Dispatch.receive procedure.envelope reply with
  | .ok content => procedure.conclude content
  | .error error => procedure.setback (.unanswered error)

/-- What an operation tells its caller after the reply to its envelope. -/
def conclusion (reply : Except String EndpointResponse) : Except GatewayError α :=
  (procedure.closing reply).result

/-! ### The program of a procedure, step by step -/

def looking (look : Look) (next : Operation (Except GatewayError α)) :
    Operation (Except GatewayError α) :=
  .checkpoint fun
    | true => (procedure.setback (.withdrawn look)).program
    | false => next

def acquiring (next : Operation (Except GatewayError α)) : Operation (Except GatewayError α) :=
  .acquire procedure.abandoned fun
    | .ok () => next
    | .error text => (procedure.setback (.unequipped text)).program

def searching (next : Operation (Except GatewayError α)) : Operation (Except GatewayError α) :=
  match procedure.search? with
  | none => next
  | some search => .send search.envelope procedure.abandoned (search.onwards next)

/-- The second look and the envelope. -/
def asking : Operation (Except GatewayError α) :=
  procedure.looking .beforeEnvelope <|
    .send procedure.envelope procedure.abandoned fun reply => (procedure.closing reply).program

def program : Operation (Except GatewayError α) :=
  procedure.looking .beforeEndpoint <| procedure.acquiring <| procedure.searching procedure.asking

end Procedure

/-! ## What comes of a reply -/

/-- A response of another kind than the expected one is a failure of its own. -/
theorem Dispatch.receive_of_other_kind
    {request : EndpointRequest} {response : EndpointResponse}
    (hkind : ¬response.kind = request.expects) :
    receive request (.ok response) =
      .error (.unexpectedResponse request.name request.expects response.kind) := by
  unfold receive
  cases hcontent : response.content? request.expects with
  | none => simp only [hcontent]
  | some content =>
    exact absurd ((response.exists_content?_eq_some_iff _).mp ⟨content, hcontent⟩) hkind

/-- A response fails in this way only. -/
theorem Dispatch.eq_unexpectedResponse_of_receive_ok
    {request : EndpointRequest} {response : EndpointResponse} {error : GatewayError}
    (hreceive : receive request (.ok response) = .error error) :
    error = .unexpectedResponse request.name request.expects response.kind := by
  have hother : ¬response.kind = request.expects := by
    intro hkind
    obtain ⟨content, hcontent⟩ := (response.exists_content?_eq_some_iff _).mpr hkind
    simp [receive, hcontent] at hreceive
  rw [receive_of_other_kind hother] at hreceive
  exact (Except.error.inj hreceive).symm

/-- A search passes over exactly the texts that say that something was not found. -/
theorem Search.closing?_error {α : Type} (search : Search α) (text : String) :
    search.closing? (.error text) =
      if categoryOf text = .notFound then none
      else some (search.failure (.endpoint (.ofText text))) := by
  have hcode : (GatewayError.endpoint (.ofText text)).code = categoryOf text :=
    EndpointError.code_ofText text
  rw [closing?]
  simp only [Dispatch.receive, hcode]

/-- A search ends its operation with what it finds, or with a failure that it does not pass
over. -/
theorem Search.closing?_cases {α : Type}
    {search : Search α} {reply : Except String EndpointResponse} {closing : Closing α}
    (hclosing : search.closing? reply = some closing) :
    (∃ content, Dispatch.receive search.envelope reply = .ok content ∧
        search.finding? content = some closing) ∨
      ∃ error, Dispatch.receive search.envelope reply = .error error ∧ error.code ≠ .notFound ∧
        closing = search.failure error := by
  rw [closing?] at hclosing
  cases hreceive : Dispatch.receive search.envelope reply with
  | ok content =>
    rw [hreceive] at hclosing
    exact .inl ⟨content, rfl, hclosing⟩
  | error error =>
    simp only [hreceive] at hclosing
    by_cases hcode : error.code = .notFound
    · rw [if_pos hcode] at hclosing
      cases hclosing
    · rw [if_neg hcode] at hclosing
      exact .inr ⟨error, rfl, hcode, (Option.some.inj hclosing).symm⟩

/-- An answer leads to a success. Only where that is excused, the id of an infobase may be
missing. -/
structure Procedure.Concludes {α : Type} (procedure : Procedure α) (excused : Prop) : Prop where
  found : ∀ search, procedure.search? = some search → ∀ content closing,
    search.finding? content = some closing → ∃ value, closing.result = .ok value
  answered : ∀ content, (∃ value, (procedure.conclude content).result = .ok value) ∨
    excused ∧ (procedure.conclude content).result = .error .missingInfobaseId

/-! ## Round trips -/

/-- The procedure of an operation that is one round trip: it records a success, and a failure as its
caller wants it. -/
def Procedure.roundTrip {α : Type}
    (operation : String) (envelope : EndpointRequest) (failureEvents : GatewayError → List Event)
    (events : List Event) (word : envelope.expects.Content → α) : Procedure α where
  envelope := envelope
  setbackRecords
    | .withdrawn _ => {}
    | .unequipped text => { events := [Dispatch.acquireFailure operation (.ofText text)] }
    | .unanswered error => { events := failureEvents error }
  conclude content := ⟨{ events := events }, .ok (word content)⟩

theorem Procedure.concludes_roundTrip {α : Type}
    (operation : String) (envelope : EndpointRequest) (failureEvents : GatewayError → List Event)
    (events : List Event) (word : envelope.expects.Content → α) (excused : Prop) :
    (Procedure.roundTrip operation envelope failureEvents events word).Concludes excused where
  found _ hsearch := nomatch hsearch
  answered content := .inl ⟨word content, rfl⟩

theorem Dispatch.exchange_eq_roundTrip {α : Type}
    (operation : String) (envelope : EndpointRequest) (failureEvents : GatewayError → List Event)
    (events : List Event) (word : envelope.expects.Content → α) :
    (do
      let content ← exchange operation envelope failureEvents
      Attempt.log events
      return word content : GatewayAttempt α) =
      .ofOutcome
        (Procedure.roundTrip operation envelope failureEvents events word).program := by
  show Attempt.outcome _ = Procedure.program _
  simp only [exchange_bind, outcome_checkpoint_bind, outcome_acquire_bind, outcome_send_bind,
    Attempt.outcome_log_bind, Procedure.program, Procedure.looking, Procedure.acquiring,
    Procedure.searching, Procedure.asking]
  congr 1
  funext cancelled
  cases cancelled with
  | true => rfl
  | false =>
    simp only [Bool.false_eq_true, if_false]
    congr 1
    funext reply
    cases reply with
    | error text => rfl
    | ok =>
      dsimp only
      congr 1
      funext cancelled
      cases cancelled with
      | true => rfl
      | false =>
        simp only [Bool.false_eq_true, if_false]
        congr 1
        funext reply
        simp only [Procedure.closing, Procedure.roundTrip]
        cases receive envelope reply with
        | ok content => rfl
        | error error => rfl

end InfobaseGateway
