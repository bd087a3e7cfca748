import InfobaseGateway.Proofs.Service.Exchange
import InfobaseGateway.Proofs.Store.Agreement

/-!
# Operations as the service sees them

To a caller who stays, an operation of the gateway is what it asks the service and what it makes of
the replies: an inquiry. Of all that an operation reads besides, only the time that a lock reads
first has a say in it. An inquiry about one cluster is answered alike by all services that agree on
that cluster, and it changes nothing else.
-/

namespace InfobaseGateway

/-! ## Inquiries -/

/-- A result, or a request and what follows the reply to it. -/
inductive Inquiry (α : Type)
  | told (result : α)
  | asks (request : EndpointRequest) (next : Except String EndpointResponse → Inquiry α)

namespace Inquiry

variable {α β : Type}

/-- The result of an inquiry at a service, and the service after it. -/
def eval (uuids : Nat → String) : Inquiry α → Service → α × Service
  | told result, service => (result, service)
  | asks request next, service =>
    (next (service.reply uuids request)).eval uuids (service.answer uuids request).2

def map (f : α → β) : Inquiry α → Inquiry β
  | told result => told (f result)
  | asks request next => asks request fun reply => (next reply).map f

theorem eval_map (uuids : Nat → String) (f : α → β) (inquiry : Inquiry α) (service : Service) :
    (inquiry.map f).eval uuids service =
      (f (inquiry.eval uuids service).1, (inquiry.eval uuids service).2) := by
  induction inquiry generalizing service with
  | told result => rfl
  | asks request next ih => exact ih _ _

/-- An inquiry of one request, whose answer is worded for the caller. -/
def exchange (request : EndpointRequest) (word : request.expects.Content → β) :
    Inquiry (Except GatewayError β) :=
  asks request fun reply => told ((Dispatch.receive request reply).map word)

end Inquiry

/-! ## The inquiries of the tasks -/

namespace Procedure

variable {α : Type}

/-- What an operation asks with its envelope. -/
def question (procedure : Procedure α) : Inquiry (Except GatewayError α) :=
  .asks procedure.envelope fun reply => .told (procedure.conclusion reply)

/-- The inquiry of an operation after the reply to its search. -/
def afterSearch (procedure : Procedure α) (search : Search α)
    (reply : Except String EndpointResponse) : Inquiry (Except GatewayError α) :=
  match search.closing? reply with
  | some closing => .told closing.result
  | none => procedure.question

def inquiry (procedure : Procedure α) : Inquiry (Except GatewayError α) :=
  match procedure.search? with
  | none => procedure.question
  | some search => .asks search.envelope (procedure.afterSearch search)

theorem inquiry_roundTrip
    (operation : String) (envelope : EndpointRequest) (failureEvents : GatewayError → List Event)
    (events : List Event) (word : envelope.expects.Content → α) :
    (roundTrip operation envelope failureEvents events word).inquiry = .exchange envelope word := by
  simp only [inquiry, question, roundTrip, Inquiry.exchange]
  congr 1
  funext reply
  rw [conclusion, closing]
  cases Dispatch.receive envelope reply with
  | _ => rfl

end Procedure

/-- What a task asks and what it tells its caller, if `now` is the first time that it reads. -/
def GatewayTask.inquiry (now : Instant) (task : GatewayTask) :
    Inquiry (Except GatewayError task.Result) :=
  match task.admission now with
  | .ok () => task.procedure.inquiry
  | .error error => .told (.error error)

/-! ## What programs amount to -/

/-- To a caller who stays, the program ends and leaves the service as the inquiry does. -/
structure Operation.Amounts {α : Type} (uuids : Nat → String) (clock : Nat → Instant)
    (s : Situation) (p : Operation α) (inquiry : Inquiry α) : Prop where
  told : (p.eval uuids (.steadfast clock) s).1 = (inquiry.eval uuids s.service).1
  service : (p.eval uuids (.steadfast clock) s).2.service = (inquiry.eval uuids s.service).2

section Amounts

variable {α β : Type} {uuids : Nat → String} {clock : Nat → Instant} {s : Situation}

theorem Operation.Ends.amounts
    {p : Operation α} {result : α} (h : p.Ends fun told => told = result) :
    p.Amounts uuids clock s (.told result) :=
  ⟨(h.eval uuids (.steadfast clock) s).1, (h.eval uuids (.steadfast clock) s).2⟩

theorem Operation.Comes.amounts
    {p : Operation α} {failure : α → Prop} {request : EndpointRequest}
    {onwards : Except String EndpointResponse → Operation α → Prop}
    (h : p.Comes failure request onwards) {next : Except String EndpointResponse → Inquiry α}
    (hrest : ∀ reply rest t, onwards reply rest → rest.Amounts uuids clock t (next reply)) :
    p.Amounts uuids clock s (.asks request next) := by
  obtain ⟨rest, moment, honwards, heval, -⟩ := h.steadfast uuids clock s
  have hamounts := hrest _ rest ⟨(s.service.answer uuids request).2, moment⟩ honwards
  constructor
  · rw [heval, hamounts.told]
    rfl
  · rw [heval, hamounts.service]
    rfl

namespace Procedure

variable {procedure : Procedure α} {rest : Operation (Except GatewayError α)}

theorem Pending.amounts (h : procedure.Pending id rest) :
    rest.Amounts uuids clock s procedure.question :=
  Operation.Comes.amounts h fun _ _ _ hends => hends.amounts

theorem LookedUp.amounts
    {search : Search α} {reply : Except String EndpointResponse}
    (h : procedure.LookedUp id search reply rest) :
    rest.Amounts uuids clock s (procedure.afterSearch search reply) := by
  unfold LookedUp at h
  unfold afterSearch
  cases hclosing : search.closing? reply with
  | some closing =>
    rw [hclosing] at h
    exact h.amounts
  | none =>
    rw [hclosing] at h
    exact Pending.amounts h

theorem amounts_program (procedure : Procedure α) :
    procedure.program.Amounts uuids clock s procedure.inquiry := by
  unfold inquiry
  cases hsearch : procedure.search? with
  | none => exact (pending_program hsearch).amounts
  | some search =>
    exact Operation.Comes.amounts (looking_program hsearch) fun _ _ _ hlooked => hlooked.amounts

end Procedure

/-- To a caller who stays, every task amounts to its inquiry. -/
theorem GatewayTask.amounts_perform (task : GatewayTask) :
    task.perform.outcome.Amounts uuids clock s (task.inquiry (clock s.moment)) := by
  obtain ⟨moments, heval⟩ :=
    task.prepares.eval_followedBy task.procedure.program uuids (.steadfast clock) s
  have hclock : (Course.steadfast clock).clock s.moment = clock s.moment := rfl
  rw [hclock] at heval
  rw [outcome_perform, inquiry]
  cases hverdict : task.admission (clock s.moment) with
  | error error =>
    rw [hverdict] at heval
    exact ⟨congrArg Prod.fst heval, congrArg (fun ended => ended.2.service) heval⟩
  | ok u =>
    rw [hverdict] at heval
    have hprogram : task.procedure.program.Amounts uuids clock (s.later moments)
        task.procedure.inquiry :=
      task.procedure.amounts_program
    exact ⟨(congrArg Prod.fst heval).trans hprogram.told,
      (congrArg (fun ended => ended.2.service) heval).trans hprogram.service⟩

end Amounts

/-! ## Inquiries about one cluster -/

namespace Inquiry

variable {α β : Type} {clusterId? : Option String} {creating : Prop}

/-- The inquiry is about a cluster, or about none. It asks for a new infobase only if it is
`creating`, and then that is the last that it asks. -/
def About (clusterId? : Option String) (creating : Prop) : Inquiry α → Prop
  | told _ => True
  | asks request next =>
    request.clusterId? = clusterId? ∧ (∀ reply, (next reply).About clusterId? creating) ∧
      (request.IsCreation → creating ∧ ∀ reply, ∃ result, next reply = told result)

theorem About.map
    (f : α → β) {inquiry : Inquiry α} (h : inquiry.About clusterId? creating) :
    (inquiry.map f).About clusterId? creating := by
  induction inquiry with
  | told result => trivial
  | asks request next ih =>
    obtain ⟨hcluster, hnext, hlast⟩ := h
    refine ⟨hcluster, fun reply => ih reply (hnext reply), fun hcreation => ?_⟩
    obtain ⟨hcreating, htold⟩ := hlast hcreation
    refine ⟨hcreating, fun reply => ?_⟩
    obtain ⟨result, hresult⟩ := htold reply
    exact ⟨f result, congrArg (Inquiry.map f) hresult⟩

theorem About.mono
    {creating' : Prop} {inquiry : Inquiry α} (h : inquiry.About clusterId? creating)
    (hcreating : creating → creating') : inquiry.About clusterId? creating' := by
  induction inquiry with
  | told result => trivial
  | asks request next ih =>
    obtain ⟨hcluster, hnext, hlast⟩ := h
    exact ⟨hcluster, fun reply => ih reply (hnext reply),
      fun hcreation => ⟨hcreating (hlast hcreation).1, (hlast hcreation).2⟩⟩

end Inquiry

namespace Procedure

variable {α : Type} {procedure : Procedure α} {clusterId? : Option String} {creating : Prop}

theorem about_question
    (hcluster : procedure.envelope.clusterId? = clusterId?)
    (hcreating : procedure.envelope.IsCreation → creating) :
    procedure.question.About clusterId? creating :=
  ⟨hcluster, fun _ => trivial, fun hcreation => ⟨hcreating hcreation, fun _ => ⟨_, rfl⟩⟩⟩

theorem about_inquiry
    (hcluster : procedure.envelope.clusterId? = clusterId?)
    (hcreating : procedure.envelope.IsCreation → creating)
    (hsearch : ∀ search, procedure.search? = some search →
      search.envelope.clusterId? = clusterId? ∧ ¬search.envelope.IsCreation) :
    procedure.inquiry.About clusterId? creating := by
  unfold inquiry
  cases hfound : procedure.search? with
  | none => exact about_question hcluster hcreating
  | some search =>
    obtain ⟨hsame, hother⟩ := hsearch search hfound
    refine ⟨hsame, fun reply => ?_, fun hcreation => absurd hcreation hother⟩
    unfold afterSearch
    cases search.closing? reply with
    | some closing => trivial
    | none => exact about_question hcluster hcreating

end Procedure

/-- A task asks about its own cluster, and only a creation asks for a new infobase. -/
theorem GatewayTask.about_inquiry (task : GatewayTask) (now : Instant) :
    (task.inquiry now).About task.clusterId? task.IsCreation := by
  unfold inquiry
  cases task.admission now with
  | error error => trivial
  | ok u =>
    apply Procedure.about_inquiry
    · rw [envelope_procedure]
      exact (ids_of_mem_envelopes task.envelope_mem_envelopes).1
    · rw [envelope_procedure]
      exact task.isCreation_envelope_iff.mp
    · cases task with
      | create request =>
        rintro search ⟨⟩
        exact ⟨rfl, id⟩
      | _ => rintro search ⟨⟩

/-- Only a lock asks something that depends on the time. -/
theorem GatewayTask.inquiry_of_not_lock
    {task : GatewayTask} (hother : ∀ request, task ≠ .lock request) (now now' : Instant) :
    task.inquiry now = task.inquiry now' := by
  cases task with
  | lock request => exact absurd rfl (hother request)
  | _ => rfl

/-! ## One request -/

namespace Service

variable {uuids uuids' : Nat → String} {service other : Service} {request : EndpointRequest}

/-- Only a new infobase uses up a uuid. -/
theorem issued_answer
    (hother : ¬request.IsCreation) : (service.answer uuids request).2.issued = service.issued := by
  have husesNone : usesUuid request = false := by
    cases request with
    | createInfobase info => exact absurd trivial hother
    | _ => rfl
  rcases service.answer_cases uuids request with
    ⟨response, store, -, hanswer⟩ | ⟨rejection, -, hanswer⟩
  · rw [hanswer, afterAnswer, husesNone]
    rfl
  · rw [hanswer]

/-- Services that agree on what a request can see give it the same reply, if they give the same
uuid to a new infobase. -/
theorem answer_agree
    (hagree : service.store.AgreesOn other.store request.clusterId?)
    (huuid : request.IsCreation → uuids service.issued = uuids' other.issued) :
    service.reply uuids request = other.reply uuids' request ∧
      (service.answer uuids request).2.store.AgreesOn (other.answer uuids' request).2.store
        request.clusterId? := by
  have hsame :
      other.store.handle (uuids' other.issued) request =
        other.store.handle (uuids service.issued) request := by
    by_cases hcreation : request.IsCreation
    · rw [huuid hcreation]
    · cases request with
      | createInfobase info => exact absurd trivial hcreation
      | _ => rfl
  rcases hagree.handle (uuids service.issued) with
    ⟨rejection, hservice, hother⟩ | ⟨response, after, after', hservice, hother, hafter⟩
  · have hanswer := answer_of_handle_eq_error hservice
    have hanswer' := answer_of_handle_eq_error (hsame.trans hother)
    rw [reply, reply, hanswer, hanswer']
    exact ⟨rfl, hagree⟩
  · have hanswer := answer_of_handle_eq_ok hservice
    have hanswer' := answer_of_handle_eq_ok (hsame.trans hother)
    rw [reply, reply, hanswer, hanswer']
    exact ⟨rfl, hafter⟩

/-- A request changes its cluster at most. -/
theorem changesInside_answer (uuids : Nat → String) (service : Service)
    (request : EndpointRequest) :
    Store.ChangesInside request.clusterId? service.store
      (service.answer uuids request).2.store := by
  rcases service.answer_cases uuids request with
    ⟨response, store, hhandle, hanswer⟩ | ⟨rejection, -, hanswer⟩
  · rw [hanswer]
    exact Store.changesInside_of_handle_eq_ok hhandle
  · rw [hanswer]
    exact .refl _ _

end Service

/-! ## Whole inquiries -/

namespace Inquiry.About

variable {α : Type} {clusterId? : Option String} {creating : Prop} {inquiry : Inquiry α}

/-- An inquiry ends alike at services that agree on its cluster, and they agree afterwards. The
induction is on the inquiry; a new infobase is the last that is asked for, so its uuid is the next
one of the supply. -/
theorem eval_agree
    (h : inquiry.About clusterId? creating) {uuids uuids' : Nat → String} {service other : Service}
    (hagree : service.store.AgreesOn other.store clusterId?)
    (huuid : creating → uuids service.issued = uuids' other.issued) :
    (inquiry.eval uuids service).1 = (inquiry.eval uuids' other).1 ∧
      (inquiry.eval uuids service).2.store.AgreesOn (inquiry.eval uuids' other).2.store
        clusterId? := by
  induction inquiry generalizing service other with
  | told result => exact ⟨rfl, hagree⟩
  | asks request next ih =>
    obtain ⟨rfl, hnext, hlast⟩ := h
    obtain ⟨hreply, hafter⟩ :=
      Service.answer_agree hagree fun hcreation => huuid (hlast hcreation).1
    simp only [eval]
    rw [← hreply]
    by_cases hcreation : request.IsCreation
    · obtain ⟨result, hresult⟩ := (hlast hcreation).2 (service.reply uuids request)
      rw [hresult]
      exact ⟨rfl, hafter⟩
    · refine ih _ (hnext _) hafter ?_
      rw [Service.issued_answer hcreation, Service.issued_answer hcreation]
      exact huuid

/-- An inquiry changes its cluster at most. -/
theorem changesInside
    (h : inquiry.About clusterId? creating) (uuids : Nat → String) (service : Service) :
    Store.ChangesInside clusterId? service.store (inquiry.eval uuids service).2.store := by
  induction inquiry generalizing service with
  | told result => exact .refl _ _
  | asks request next ih =>
    obtain ⟨rfl, hnext, -⟩ := h
    exact (service.changesInside_answer uuids request).trans (ih _ (hnext _) _)

end Inquiry.About

end InfobaseGateway
