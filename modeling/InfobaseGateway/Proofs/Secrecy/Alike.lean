import InfobaseGateway.Proofs.Operation.Laws
import InfobaseGateway.Proofs.Secrecy.Store

/-!
# Programs that keep passwords to themselves

Two programs are alike if they take the same steps and leave the same notes, where their envelopes
may differ in passwords. After replies that are the same but for their passwords they go on alike.
The answer to a check of credentials is the one reply that may depend on a password, so a program
that sends one has to end with success exactly if it is accepted.

Runs of programs that are alike cannot be told apart, as long as both succeed or both fail.
-/

namespace InfobaseGateway

/-! ## Success and failure -/

section Outcomes

variable {ε ε' α β : Type}

def Succeeds (result : Except ε α) : Prop :=
  ∃ value, result = .ok value

theorem not_succeeds_error (error : ε) : ¬Succeeds (.error error : Except ε α) := by
  rintro ⟨value, hvalue⟩
  cases hvalue

namespace Operation

/-- However a program ends, its result has the property. -/
def Always (good : α → Prop) : Operation α → Prop
  | done result => good result
  | note _ next => next.Always good
  | checkpoint next => ∀ cancelled, (next cancelled).Always good
  | clock next => ∀ now, (next now).Always good
  | acquire _ next => ∀ reply, (next reply).Always good
  | send _ _ next => ∀ reply, (next reply).Always good

theorem Always.bind
    {p : Operation α} {good : α → Prop} (h : p.Always good)
    {f : α → Operation β} {good' : β → Prop}
    (hrest : ∀ a, good a → (f a).Always good') : (p.bind f).Always good' := by
  induction p with
  | done result => exact hrest result h
  | note n next ih => exact ih h
  | checkpoint next ih => exact fun cancelled => ih cancelled (h cancelled)
  | clock next ih => exact fun now => ih now (h now)
  | acquire abandoned next ih => exact fun reply => ih reply (h reply)
  | send request abandoned next ih => exact fun reply => ih reply (h reply)

theorem Always.eval
    {p : Operation α} {good : α → Prop} (h : p.Always good)
    (uuids : Nat → String) (course : Course) (s : Situation) :
    good (p.eval uuids course s).1 := by
  induction p generalizing s with
  | done result => exact h
  | note n next ih => exact ih h s
  | checkpoint next ih => exact ih _ (h _) s
  | clock next ih => exact ih _ (h _) _
  | acquire abandoned next ih => exact ih _ (h _) _
  | send request abandoned next ih => exact ih _ (h _) _

end Operation

/-- A program that goes on with an outcome and ends with success exactly if that was one. -/
structure Faithful (f : Except ε α → Operation (Except ε' β)) : Prop where
  success : ∀ value, (f (.ok value)).Always Succeeds
  failure : ∀ error, (f (.error error)).Always fun result => ¬Succeeds result

theorem Faithful.bind
    {ε'' γ : Type} {f : Except ε α → Operation (Except ε' β)} (hf : Faithful f)
    {g : Except ε' β → Operation (Except ε'' γ)} (hg : Faithful g) :
    Faithful fun outcome => (f outcome).bind g := by
  constructor
  · intro value
    refine (hf.success value).bind ?_
    rintro _ ⟨result, rfl⟩
    exact hg.success result
  · intro error
    refine (hf.failure error).bind ?_
    intro outcome hfails
    cases outcome with
    | ok result => exact absurd ⟨result, rfl⟩ hfails
    | error error => exact hg.failure error

end Outcomes

/-! ## Programs that are alike -/

/-- The reply to a check of credentials: it is accepted, or refused with a text. -/
def checkReply (verdict : Except String Unit) : Except String EndpointResponse :=
  verdict.map fun _ => .authenticated

/-- Two programs that cannot be told apart but for passwords in their envelopes. They may send
checks of credentials if they are `checking`. -/
inductive Operation.Alike {ε α : Type} (checking : Prop) :
    Operation (Except ε α) → Operation (Except ε α) → Prop
  | done (result : Except ε α) : Alike checking (.done result) (.done result)
  | note (n : Note) {p q : Operation (Except ε α)} (hrest : Alike checking p q) :
      Alike checking (.note n p) (.note n q)
  | checkpoint {p q : Bool → Operation (Except ε α)}
      (hrest : ∀ cancelled, Alike checking (p cancelled) (q cancelled)) :
      Alike checking (.checkpoint p) (.checkpoint q)
  | clock {p q : Instant → Operation (Except ε α)}
      (hrest : ∀ now, Alike checking (p now) (q now)) :
      Alike checking (.clock p) (.clock q)
  | acquire (abandoned : List Event) {p q : Except String Unit → Operation (Except ε α)}
      (hrest : ∀ reply, Alike checking (p reply) (q reply)) :
      Alike checking (.acquire abandoned p) (.acquire abandoned q)
  | send {request request' : EndpointRequest} (hsame : request.blotted = request'.blotted)
      (abandoned : List Event) {p q : Except String EndpointResponse → Operation (Except ε α)}
      (hrest : ∀ reply reply' : Except String EndpointResponse,
        reply.map EndpointResponse.blotted = reply'.map EndpointResponse.blotted →
          Alike checking (p reply) (q reply'))
      (hcheck : request.IsCheck →
        checking ∧ Faithful (fun verdict => p (checkReply verdict)) ∧
          Faithful fun verdict => q (checkReply verdict)) :
      Alike checking (.send request abandoned p) (.send request' abandoned q)

namespace Operation.Alike

variable {checking : Prop} {ε α : Type} {p q r : Operation (Except ε α)}

theorem isCheck_iff_of_blotted_eq
    {request request' : EndpointRequest} (hsame : request.blotted = request'.blotted) :
    request.IsCheck ↔ request'.IsCheck := by
  rw [← EndpointRequest.isCheck_blotted, hsame, EndpointRequest.isCheck_blotted]

protected theorem symm (h : p.Alike checking q) : q.Alike checking p := by
  induction h with
  | done result => exact .done result
  | note n hrest ih => exact .note n ih
  | checkpoint hrest ih => exact .checkpoint ih
  | clock hrest ih => exact .clock ih
  | acquire abandoned hrest ih => exact .acquire abandoned ih
  | send hsame abandoned hrest hcheck ih =>
    refine .send hsame.symm abandoned (fun reply reply' hreply => ih _ _ hreply.symm) ?_
    intro hcheck'
    obtain ⟨hchecking, hp, hq⟩ := hcheck ((isCheck_iff_of_blotted_eq hsame).mpr hcheck')
    exact ⟨hchecking, hq, hp⟩

protected theorem trans (hpq : p.Alike checking q) (hqr : q.Alike checking r) :
    p.Alike checking r := by
  induction hpq generalizing r with
  | done result => exact hqr
  | note n hrest ih =>
    cases hqr with
    | note n hrest' => exact .note n (ih hrest')
  | checkpoint hrest ih =>
    cases hqr with
    | checkpoint hrest' => exact .checkpoint fun cancelled => ih cancelled (hrest' cancelled)
  | clock hrest ih =>
    cases hqr with
    | clock hrest' => exact .clock fun now => ih now (hrest' now)
  | acquire abandoned hrest ih =>
    cases hqr with
    | acquire _ hrest' => exact .acquire abandoned fun reply => ih reply (hrest' reply)
  | send hsame abandoned hrest hcheck ih =>
    cases hqr with
    | send hsame' _ hrest' hcheck' =>
      refine .send (hsame.trans hsame') abandoned ?_ ?_
      · intro reply reply' hreply
        exact ih reply reply rfl (hrest' reply reply' hreply)
      · intro hfirst
        have hsecond := (isCheck_iff_of_blotted_eq hsame).mp hfirst
        exact ⟨(hcheck hfirst).1, (hcheck hfirst).2.1, (hcheck' hsecond).2.2⟩

/-- What follows two programs that are alike may look at their outcome, but has to hand it on. -/
protected theorem bind
    {ε' β : Type} (h : p.Alike checking q) {f g : Except ε α → Operation (Except ε' β)}
    (hrest : ∀ outcome, (f outcome).Alike checking (g outcome))
    (hf : Faithful f) (hg : Faithful g) : (p.bind f).Alike checking (q.bind g) := by
  induction h with
  | done result => exact hrest result
  | note n hrest ih => exact .note n ih
  | checkpoint hrest ih => exact .checkpoint ih
  | clock hrest ih => exact .clock ih
  | acquire abandoned hrest ih => exact .acquire abandoned ih
  | send hsame abandoned hrest hcheck ih =>
    refine .send hsame abandoned ih ?_
    intro hfirst
    obtain ⟨hchecking, hp, hq⟩ := hcheck hfirst
    exact ⟨hchecking, hp.bind hf, hq.bind hg⟩

end Operation.Alike

/-! ## Runs that are alike -/

namespace Situation

variable {s s' : Situation}

theorem moment_eq_of_blotted_eq (hs : s.blotted = s'.blotted) : s.moment = s'.moment := by
  have hmoment := congrArg Situation.moment hs
  exact hmoment

theorem service_blotted_eq (hs : s.blotted = s'.blotted) :
    s.service.blotted = s'.service.blotted := by
  have hservice := congrArg Situation.service hs
  exact hservice

theorem later_blotted_eq (hs : s.blotted = s'.blotted) (moments : Nat) :
    (s.later moments).blotted = (s'.later moments).blotted := by
  have hlater := congrArg (fun situation => situation.later moments) hs
  exact hlater

end Situation

/-- Two runs at a service that left the same notes and have the same outcome. The services after
them are the same but for the passwords that they store. -/
structure Run.Alike {α : Type} (run run' : Run Situation α) : Prop where
  notes : run.notes = run'.notes
  outcome : run.outcome = run'.outcome
  final : run.final.blotted = run'.final.blotted

theorem Run.Alike.events {α : Type} {run run' : Run Situation α} (h : run.Alike run') :
    run.events = run'.events := by
  unfold Run.events
  rw [h.notes]

def Run.Succeeded {σ ε α : Type} (run : Run σ (Except ε α)) : Prop :=
  ∃ value, run.outcome = some (.ok value)

namespace Operation

variable {uuids : Nat → String} {course : Course} {ε α : Type}

/-- The step of a request that the service answers. -/
theorem run_send_of_answer_ok
    {request : EndpointRequest} {s : Situation} {response : EndpointResponse} {service : Service}
    (hanswer : s.service.answer uuids request = (.ok response, service))
    (abandoned : List Event) (next : Except String EndpointResponse → Operation α) :
    (send request abandoned next).run (Service.during uuids course) s =
      ((next (.ok response)).run (Service.during uuids course) ⟨service, s.moment + 1⟩).after
        [.send request (course.withdrawn s.moment) (some (.ok response))] := by
  simp only [run, Service.during, Service.surroundings, hanswer, eventSteps, List.map_nil]

/-- The step of a request that the service rejects. -/
theorem run_send_of_answer_error
    {request : EndpointRequest} {s : Situation} {rejection : Rejection} {service : Service}
    (hanswer : s.service.answer uuids request = (.error rejection, service))
    (abandoned : List Event) (next : Except String EndpointResponse → Operation α) :
    (send request abandoned next).run (Service.during uuids course) s =
      ((next (.error rejection.message)).run (Service.during uuids course)
          ⟨service, s.moment + 1⟩).after
        [.send request (course.withdrawn s.moment) (some (.error rejection.message)),
          .note (.event (Service.rejectionEvent rejection))] := by
  simp only [run, Service.during, Service.surroundings, hanswer, eventSteps, List.map_cons,
    List.map_nil]

theorem Always.run_succeeded
    {p : Operation (Except ε α)} (h : p.Always Succeeds) (s : Situation) :
    (p.run (Service.during uuids course) s).Succeeded := by
  obtain ⟨value, hvalue⟩ := h.eval uuids course s
  refine ⟨value, ?_⟩
  rw [(p.run_during uuids course s).1, hvalue]

theorem Always.not_run_succeeded
    {p : Operation (Except ε α)} (h : p.Always fun result => ¬Succeeds result) (s : Situation) :
    ¬(p.run (Service.during uuids course) s).Succeeded := by
  rintro ⟨value, hvalue⟩
  rw [(p.run_during uuids course s).1] at hvalue
  exact h.eval uuids course s ⟨value, Option.some.inj hvalue⟩

/-- Programs that go on alike after answers that are the same but for their passwords. -/
theorem run_send_alike
    {checking : Prop} {request request' : EndpointRequest} (abandoned : List Event)
    {p q : Except String EndpointResponse → Operation (Except ε α)} {s s' : Situation}
    (hmoment : s.moment = s'.moment)
    (hanswers :
      Service.blotAnswer (s.service.answer uuids request) =
        Service.blotAnswer (s'.service.answer uuids request'))
    (hrest : ∀ (reply reply' : Except String EndpointResponse) (t t' : Situation),
      reply.map EndpointResponse.blotted = reply'.map EndpointResponse.blotted →
        t.blotted = t'.blotted →
        (checking → (((p reply).run (Service.during uuids course) t).Succeeded ↔
          ((q reply').run (Service.during uuids course) t').Succeeded)) →
        ((p reply).run (Service.during uuids course) t).Alike
          ((q reply').run (Service.during uuids course) t'))
    (haccepted : checking →
      (((send request abandoned p).run (Service.during uuids course) s).Succeeded ↔
        ((send request' abandoned q).run (Service.during uuids course) s').Succeeded)) :
    ((send request abandoned p).run (Service.during uuids course) s).Alike
      ((send request' abandoned q).run (Service.during uuids course) s') := by
  cases hfirst : s.service.answer uuids request with
  | mk reply service =>
    cases hsecond : s'.service.answer uuids request' with
    | mk reply' service' =>
      rw [hfirst, hsecond] at hanswers
      obtain ⟨hreplies, hservices⟩ := Prod.mk.inj hanswers
      have hs' :
          (⟨service, s.moment + 1⟩ : Situation).blotted =
            (⟨service', s'.moment + 1⟩ : Situation).blotted := by
        simp only [Situation.blotted, hservices, hmoment]
      cases reply with
      | ok response =>
        cases reply' with
        | error rejection => cases hreplies
        | ok response' =>
          have hreply :
              (.ok response : Except String EndpointResponse).map EndpointResponse.blotted =
                (Except.ok response').map EndpointResponse.blotted :=
            congrArg Except.ok (Except.ok.inj hreplies)
          rw [run_send_of_answer_ok hfirst, run_send_of_answer_ok hsecond] at haccepted ⊢
          have hruns := hrest _ _ _ _ hreply hs' haccepted
          exact ⟨hruns.notes, hruns.outcome, hruns.final⟩
      | error rejection =>
        cases reply' with
        | ok response' => cases hreplies
        | error rejection' =>
          cases hreplies
          rw [run_send_of_answer_error hfirst, run_send_of_answer_error hsecond] at haccepted ⊢
          have hruns := hrest (.error rejection.message) _ _ _ rfl hs' haccepted
          have hnotes :=
            congrArg (List.cons (.event (Service.rejectionEvent rejection))) hruns.notes
          exact ⟨hnotes, hruns.outcome, hruns.final⟩

/-- A program that hands the verdict on succeeds after one that accepts, and only then. -/
theorem not_succeeded_iff_of_faithful
    {p q : Except String EndpointResponse → Operation (Except ε α)}
    (hp : Faithful fun verdict => p (checkReply verdict))
    (hq : Faithful fun verdict => q (checkReply verdict)) (text : String) (s s' : Situation) :
    ¬(((p (.ok .authenticated)).run (Service.during uuids course) s).Succeeded ↔
      ((q (.error text)).run (Service.during uuids course) s').Succeeded) := by
  have haccepts : (p (checkReply (.ok ()))).Always Succeeds := hp.success ()
  have hrefuses : (q (checkReply (.error text))).Always fun result => ¬Succeeds result :=
    hq.failure text
  intro haccepted
  exact hrefuses.not_run_succeeded s' (haccepted.mp (haccepts.run_succeeded s))

/-- Programs that are alike have runs that are alike, provided that both succeed or both fail if
they check credentials. The induction is on the programs. -/
theorem Alike.run
    {checking : Prop} {p q : Operation (Except ε α)} (h : p.Alike checking q) {s s' : Situation}
    (hs : s.blotted = s'.blotted)
    (haccepted : checking →
      ((p.run (Service.during uuids course) s).Succeeded ↔
        (q.run (Service.during uuids course) s').Succeeded)) :
    (p.run (Service.during uuids course) s).Alike
      (q.run (Service.during uuids course) s') := by
  induction h generalizing s s' with
  | done result => exact ⟨rfl, rfl, hs⟩
  | note n hrest ih =>
    have hruns := ih hs haccepted
    exact ⟨congrArg (n :: ·) hruns.notes, hruns.outcome, hruns.final⟩
  | checkpoint hrest ih =>
    have hwithdrawn : course.withdrawn s'.moment = course.withdrawn s.moment := by
      rw [Situation.moment_eq_of_blotted_eq hs]
    simp only [Operation.run, Service.during, hwithdrawn] at haccepted ⊢
    have hruns := ih (course.withdrawn s.moment) hs haccepted
    exact ⟨hruns.notes, hruns.outcome, hruns.final⟩
  | clock hrest ih =>
    have hnow : course.clock s'.moment = course.clock s.moment := by
      rw [Situation.moment_eq_of_blotted_eq hs]
    simp only [Operation.run, Service.during, hnow] at haccepted ⊢
    have hruns := ih (course.clock s.moment) (Situation.later_blotted_eq hs 1) haccepted
    exact ⟨hruns.notes, hruns.outcome, hruns.final⟩
  | acquire abandoned hrest ih =>
    have hruns := ih (.ok ()) (Situation.later_blotted_eq hs 1) haccepted
    exact ⟨hruns.notes, hruns.outcome, hruns.final⟩
  | @send request request' hsame abandoned p q hrest hcheck ih =>
    have hmoment : s.moment = s'.moment := Situation.moment_eq_of_blotted_eq hs
    have hcompare := Service.compare_answer uuids (Situation.service_blotted_eq hs) hsame
    generalize hfirst : s.service.answer uuids request = answer at hcompare
    generalize hsecond : s'.service.answer uuids request' = answer' at hcompare
    cases hcompare with
    | alike hanswers =>
      rw [← hfirst, ← hsecond] at hanswers
      exact run_send_alike abandoned hmoment hanswers
        (fun reply reply' t t' hreply ht haccepted => ih reply reply' hreply ht haccepted)
        haccepted
    | onlyFirst hischeck rejection service service' =>
      obtain ⟨hchecking, hp, hq⟩ := hcheck hischeck
      have hboth := haccepted hchecking
      rw [run_send_of_answer_ok hfirst, run_send_of_answer_error hsecond] at hboth
      exact absurd hboth (not_succeeded_iff_of_faithful hp hq rejection.message _ _)
    | onlySecond hischeck rejection service service' =>
      obtain ⟨hchecking, hp, hq⟩ := hcheck hischeck
      have hboth := haccepted hchecking
      rw [run_send_of_answer_error hfirst, run_send_of_answer_ok hsecond] at hboth
      exact absurd hboth.symm (not_succeeded_iff_of_faithful hq hp rejection.message _ _)

end Operation

end InfobaseGateway
