import InfobaseGateway.Proofs.Service.Outlook
import InfobaseGateway.Proofs.Store.Change
import InfobaseGateway.Rpc.Handler

/-!
# Calls that overlap

The service in memory answers one request at a time, but the calls that it serves go on side by
side: between any two steps of one call, others may come in, take steps and end, and clusters and
sessions may be added from outside. The open calls are kept as programs, and one occurrence lets one
of them take one step. A call that never proceeds again is one that was abandoned, so every
abandonment is covered as well.
-/

namespace InfobaseGateway

/-! ## One step of a program -/

namespace Operation

variable {α : Type} (uuids : Nat → String)

/-- One step of a program at the service: what is left of the program, and the service after it. The
step is told whether the caller has withdrawn by now, and the time. -/
def step (withdrawn : Bool) (now : Instant) : Operation α → Service → Operation α × Service
  | done result, service => (done result, service)
  | note _ next, service => (next, service)
  | checkpoint next, service => (next withdrawn, service)
  | clock next, service => (next now, service)
  | acquire _ next, service => (next (.ok ()), service)
  | send request _ next, service =>
    let answered := service.answer uuids request
    (next (answered.1.mapError Rejection.message), answered.2)

variable {uuids} {withdrawn : Bool} {now : Instant} {p : Operation α} {service : Service}

theorem Ends.step {P : α → Prop} (h : p.Ends P) :
    (p.step uuids withdrawn now service).1.Ends P ∧
      (p.step uuids withdrawn now service).2 = service := by
  cases h with
  | done hresult => exact ⟨.done hresult, rfl⟩
  | note n hnext => exact ⟨hnext, rfl⟩
  | clock hnext => exact ⟨hnext now, rfl⟩

/-- A program that comes to a request comes closer to it, or goes on with the answer, as long as its
caller does not withdraw. -/
theorem Comes.step
    {failure : α → Prop} {request : EndpointRequest}
    {onwards : Except String EndpointResponse → Operation α → Prop}
    (h : p.Comes failure request onwards) :
    ((p.step uuids false now service).1.Comes failure request onwards ∧
        (p.step uuids false now service).2 = service) ∨
      (onwards (service.reply uuids request) (p.step uuids false now service).1 ∧
        (p.step uuids false now service).2 = (service.answer uuids request).2) := by
  cases h with
  | note n hnext => exact .inl ⟨hnext, rfl⟩
  | clock hnext => exact .inl ⟨hnext now, rfl⟩
  | checkpoint hwithdrawn hnext => exact .inl ⟨hnext, rfl⟩
  | acquire hfailed hnext => exact .inl ⟨hnext, rfl⟩
  | send hnext => exact .inr ⟨hnext _, rfl⟩

/-- If its caller may withdraw, the program may also end with a failure. -/
theorem Comes.step_cases
    {failure : α → Prop} {request : EndpointRequest}
    {onwards : Except String EndpointResponse → Operation α → Prop}
    (h : p.Comes failure request onwards) :
    (p.step uuids withdrawn now service).1.Comes failure request onwards ∨
      (p.step uuids withdrawn now service).1.Ends failure ∨
        onwards (service.reply uuids request) (p.step uuids withdrawn now service).1 ∧
          (p.step uuids withdrawn now service).2 = (service.answer uuids request).2 := by
  cases h with
  | note n hnext => exact .inl hnext
  | clock hnext => exact .inl (hnext now)
  | checkpoint hwithdrawn hnext =>
    cases withdrawn with
    | true => exact .inr (.inl hwithdrawn)
    | false => exact .inl hnext
  | acquire hfailed hnext => exact .inl hnext
  | send hnext => exact .inr (.inr ⟨hnext _, rfl⟩)

theorem SendsOnly.step {good : EndpointRequest → Prop} (h : p.SendsOnly good) :
    (p.step uuids withdrawn now service).1.SendsOnly good := by
  cases h with
  | done result => exact .done result
  | note n hnext => exact hnext
  | checkpoint hnext => exact hnext withdrawn
  | clock hnext => exact hnext now
  | acquire hnext => exact hnext (.ok ())
  | send hgood hnext => exact hnext _

/-- A step changes the service only by a request that is answered. -/
theorem SendsOnly.eq_or_answered {good : EndpointRequest → Prop} (h : p.SendsOnly good) :
    (p.step uuids withdrawn now service).2 = service ∨
      ∃ request response store, good request ∧
        service.store.handle (uuids service.issued) request = .ok (response, store) ∧
        (p.step uuids withdrawn now service).2 = service.afterAnswer request store := by
  cases h with
  | done result | note n hnext | checkpoint hnext | clock hnext | acquire hnext => exact .inl rfl
  | @send request abandoned next hgood hnext =>
    rcases Service.answer_cases uuids service request with
      ⟨response, store, hhandle, hanswer⟩ | ⟨rejection, hhandle, hanswer⟩
    · exact .inr ⟨request, response, store, hgood, hhandle, congrArg Prod.snd hanswer⟩
    · exact .inl (congrArg Prod.snd hanswer)

end Operation

/-! ## Open calls -/

/-- A call that came in, and what is left of it. -/
structure OpenCall where
  rpc : Rpc
  message : rpc.Request
  rest : Operation (Except Status rpc.Response)

namespace OpenCall

def start (rpc : Rpc) (message : rpc.Request) : OpenCall :=
  ⟨rpc, message, rpc.serve message⟩

/-- The call after its next step. -/
def next (uuids : Nat → String) (withdrawn : Bool) (now : Instant) (call : OpenCall)
    (service : Service) : OpenCall :=
  { call with rest := (call.rest.step uuids withdrawn now service).1 }

/-- The service after the next step of a call. -/
def serviceAfter (uuids : Nat → String) (withdrawn : Bool) (now : Instant) (call : OpenCall)
    (service : Service) : Service :=
  (call.rest.step uuids withdrawn now service).2

end OpenCall

/-- What can happen at a service: a call comes in, a call proceeds by one step, or something is
added from outside. -/
inductive Occurrence
  | arrives (rpc : Rpc) (message : rpc.Request)
  | proceeds (position : Nat) (withdrawn : Bool) (now : Instant)
  | addCluster (id : String)
  | addSession (clusterId sessionId : String)
  | addInfobaseSession (clusterId : String) (session : SessionEntry)
  | addClusterAdmin (clusterId : String) (account : Account)

/-- Whether an occurrence belongs to a call. -/
def Occurrence.isOfCall : Occurrence → Bool
  | arrives _ _ | proceeds _ _ _ => true
  | _ => false

/-- A service with all calls that came in. -/
structure Traffic where
  service : Service
  calls : List OpenCall

namespace Traffic

variable (uuids : Nat → String)

/-- The traffic with another store. -/
def withStore (traffic : Traffic) (store : Store) : Traffic :=
  { traffic with service := { traffic.service with store := store } }

def next (traffic : Traffic) : Occurrence → Traffic
  | .arrives rpc message => { traffic with calls := traffic.calls ++ [.start rpc message] }
  | .proceeds position withdrawn now =>
    match traffic.calls[position]? with
    | some call =>
      ⟨call.serviceAfter uuids withdrawn now traffic.service,
        traffic.calls.set position (call.next uuids withdrawn now traffic.service)⟩
    | none => traffic
  | .addCluster id => traffic.withStore (traffic.service.store.addCluster id)
  | .addSession clusterId sessionId =>
    traffic.withStore (traffic.service.store.addSession clusterId sessionId)
  | .addInfobaseSession clusterId session =>
    traffic.withStore (traffic.service.store.addInfobaseSession clusterId session)
  | .addClusterAdmin clusterId account =>
    traffic.withStore (traffic.service.store.addClusterAdmin clusterId account)

/-- A service before its first call. -/
def opening (service : Service) : Traffic :=
  ⟨service, []⟩

/-- The traffic after a history of occurrences. -/
def after (service : Service) (history : List Occurrence) : Traffic :=
  history.foldl (next uuids) (opening service)

variable {uuids}

theorem after_concat (service : Service) (history : List Occurrence) (occurrence : Occurrence) :
    after uuids service (history ++ [occurrence]) =
      (after uuids service history).next uuids occurrence := by
  simp [after]

section Undisturbed

variable (calls : List OpenCall) {rpc : Rpc} {message : rpc.Request}
  {p p' : Operation (Except Status rpc.Response)} {result : Except Status rpc.Response}
  {before between after : Service}

/-- The last call takes steps, and nothing else occurs, until it has its result. -/
def RunsTo (uuids : Nat → String) (message : rpc.Request)
    (p : Operation (Except Status rpc.Response)) (before : Service)
    (result : Except Status rpc.Response) (after : Service) : Prop :=
  ∃ history : List Occurrence,
    (∀ occurrence ∈ history, ∃ withdrawn now,
      occurrence = .proceeds calls.length withdrawn now) ∧
    history.foldl (next uuids) ⟨before, calls ++ [⟨rpc, message, p⟩]⟩ =
      ⟨after, calls ++ [⟨rpc, message, .done result⟩]⟩

theorem RunsTo.step
    (withdrawn : Bool) (now : Instant) (hstep : p.step uuids withdrawn now before = (p', between))
    (hrest : RunsTo calls uuids message p' between result after) :
    RunsTo calls uuids message p before result after := by
  obtain ⟨history, hown, hfold⟩ := hrest
  refine ⟨.proceeds calls.length withdrawn now :: history, ?_, ?_⟩
  · intro occurrence hmem
    rcases List.mem_cons.mp hmem with rfl | hlater
    · exact ⟨withdrawn, now, rfl⟩
    · exact hown occurrence hlater
  · rw [← hfold]
    simp [next, OpenCall.next, OpenCall.serviceAfter, hstep]

/-- A call that takes its steps undisturbed ends with what it evaluates to. So calls that are served
one after the other are a traffic. -/
theorem runsTo_eval
    (course : Course) (p : Operation (Except Status rpc.Response)) (s : Situation) :
    RunsTo calls uuids message p s.service (p.eval uuids course s).1
      (p.eval uuids course s).2.service := by
  have hidle : Instant := ⟨0, 0⟩
  induction p generalizing s with
  | done result => exact ⟨[], by simp, rfl⟩
  | note n rest ih => exact .step calls false hidle rfl (ih s)
  | checkpoint rest ih => exact .step calls (course.withdrawn s.moment) hidle rfl (ih _ s)
  | clock rest ih => exact .step calls false (course.clock s.moment) rfl (ih _ (s.later 1))
  | acquire abandoned rest ih => exact .step calls false hidle rfl (ih _ (s.later 1))
  | send request abandoned rest ih =>
    exact .step calls false hidle rfl (ih _ ⟨(s.service.answer uuids request).2, s.moment + 1⟩)

end Undisturbed

/-- What an occurrence does to the traffic, by cases. -/
inductive Moves (uuids : Nat → String) (traffic : Traffic) : Occurrence → Traffic → Prop
  | arrives (rpc : Rpc) (message : rpc.Request) :
      Moves uuids traffic (.arrives rpc message)
        ⟨traffic.service, traffic.calls ++ [.start rpc message]⟩
  | proceeds (front : List OpenCall) (call : OpenCall) (back : List OpenCall) (withdrawn : Bool)
      (now : Instant) (hcalls : traffic.calls = front ++ call :: back) :
      Moves uuids traffic (.proceeds front.length withdrawn now)
        ⟨call.serviceAfter uuids withdrawn now traffic.service,
          front ++ call.next uuids withdrawn now traffic.service :: back⟩
  | nobody (position : Nat) (withdrawn : Bool) (now : Instant) :
      Moves uuids traffic (.proceeds position withdrawn now) traffic
  | addCluster (id : String) :
      Moves uuids traffic (.addCluster id)
        (traffic.withStore (traffic.service.store.addCluster id))
  | addSession (clusterId sessionId : String) :
      Moves uuids traffic (.addSession clusterId sessionId)
        (traffic.withStore (traffic.service.store.addSession clusterId sessionId))
  | addInfobaseSession (clusterId : String) (session : SessionEntry) :
      Moves uuids traffic (.addInfobaseSession clusterId session)
        (traffic.withStore (traffic.service.store.addInfobaseSession clusterId session))
  | addClusterAdmin (clusterId : String) (account : Account) :
      Moves uuids traffic (.addClusterAdmin clusterId account)
        (traffic.withStore (traffic.service.store.addClusterAdmin clusterId account))

theorem moves_next (uuids : Nat → String) (traffic : Traffic) (occurrence : Occurrence) :
    traffic.Moves uuids occurrence (traffic.next uuids occurrence) := by
  cases occurrence with
  | arrives rpc message => exact .arrives rpc message
  | proceeds position withdrawn now =>
    simp only [next]
    cases hcall : traffic.calls[position]? with
    | none => exact .nobody position withdrawn now
    | some call =>
      obtain ⟨hposition, hget⟩ := List.getElem?_eq_some_iff.mp hcall
      obtain ⟨front, back, hsplit, hlength, hset⟩ :
          ∃ front back, traffic.calls = front ++ traffic.calls[position] :: back ∧
            front.length = position ∧
            traffic.calls.set position (call.next uuids withdrawn now traffic.service) =
              front ++ call.next uuids withdrawn now traffic.service :: back :=
        List.exists_of_set hposition
      rw [hget] at hsplit
      dsimp only
      rw [hset, ← hlength]
      exact .proceeds front call back withdrawn now hsplit
  | addCluster id => exact .addCluster id
  | addSession clusterId sessionId => exact .addSession clusterId sessionId
  | addInfobaseSession clusterId session => exact .addInfobaseSession clusterId session
  | addClusterAdmin clusterId account => exact .addClusterAdmin clusterId account

/-- Where a call comes from: it was there before, it has come in last, or it has taken a step. -/
theorem getElem?_next_cases
    {traffic : Traffic} {occurrence : Occurrence} {position : Nat} {call : OpenCall}
    (hget : (traffic.next uuids occurrence).calls[position]? = some call) :
    traffic.calls[position]? = some call ∨
      (∃ rpc message, occurrence = .arrives rpc message ∧ call = .start rpc message ∧
        position = traffic.calls.length) ∨
      ∃ old withdrawn now, occurrence = .proceeds position withdrawn now ∧
        traffic.calls[position]? = some old ∧
          call = old.next uuids withdrawn now traffic.service := by
  have hmoves := moves_next uuids traffic occurrence
  generalize traffic.next uuids occurrence = after at hmoves hget
  cases hmoves with
  | arrives rpc message =>
    by_cases hold : position < traffic.calls.length
    · rw [List.getElem?_append_left hold] at hget
      exact .inl hget
    · rw [List.getElem?_append_right (Nat.not_lt.mp hold)] at hget
      obtain ⟨hlast, hstart⟩ := List.getElem?_eq_some_iff.mp hget
      have hposition : position = traffic.calls.length := by
        rw [List.length_singleton] at hlast
        omega
      rw [List.getElem_singleton] at hstart
      exact .inr (.inl ⟨rpc, message, rfl, hstart.symm, hposition⟩)
  | proceeds front stepped back withdrawn now hsplit =>
    rw [hsplit]
    by_cases hsame : position = front.length
    · subst hsame
      have hstepped : call = stepped.next uuids withdrawn now traffic.service := by
        simpa using hget.symm
      exact .inr (.inr ⟨stepped, withdrawn, now, rfl, by simp, hstepped⟩)
    · refine .inl ?_
      rcases Nat.lt_or_gt_of_ne hsame with hbefore | hafter
      · rw [List.getElem?_append_left hbefore] at hget ⊢
        exact hget
      · obtain ⟨offset, rfl⟩ := Nat.exists_eq_add_of_lt hafter
        simpa [List.getElem?_append_right, Nat.add_assoc] using hget
  | nobody | addCluster | addSession | addInfobaseSession | addClusterAdmin => exact .inl hget

/-- What holds of every call, of calls that come in and after every step holds of all calls after an
occurrence. -/
theorem forall_calls_next
    {traffic : Traffic} {occurrence : Occurrence} {Q : OpenCall → Prop}
    (hcalls : ∀ call ∈ traffic.calls, Q call)
    (harrives : ∀ rpc message, occurrence = .arrives rpc message → Q (.start rpc message))
    (hnext : ∀ call withdrawn now, Q call → Q (call.next uuids withdrawn now traffic.service)) :
    ∀ call ∈ (traffic.next uuids occurrence).calls, Q call := by
  intro call hcall
  obtain ⟨position, hget⟩ := List.getElem?_of_mem hcall
  rcases getElem?_next_cases hget with
    hold | ⟨rpc, message, harrival, rfl, -⟩ | ⟨old, withdrawn, now, -, hold, rfl⟩
  · exact hcalls call (List.mem_of_getElem? hold)
  · exact harrives rpc message harrival
  · exact hnext old withdrawn now (hcalls old (List.mem_of_getElem? hold))

/-- What holds of a traffic and is kept by every occurrence holds after any history. -/
theorem foldl_of_next
    {P : Traffic → Prop} {traffic : Traffic} (htraffic : P traffic) {history : List Occurrence}
    (hnext : ∀ traffic, ∀ occurrence ∈ history, P traffic → P (traffic.next uuids occurrence)) :
    P (history.foldl (next uuids) traffic) := by
  induction history generalizing traffic with
  | nil => exact htraffic
  | cons occurrence history ih =>
    apply ih
    · exact hnext traffic occurrence List.mem_cons_self htraffic
    · intro traffic later hmem
      exact hnext traffic later (List.mem_cons_of_mem occurrence hmem)

/-- What holds at the beginning and is kept by every occurrence holds at all times. -/
theorem after_of_next
    {P : Traffic → Prop} {service : Service} (hopening : P (opening service))
    {history : List Occurrence}
    (hnext : ∀ traffic, ∀ occurrence ∈ history, P traffic → P (traffic.next uuids occurrence)) :
    P (after uuids service history) :=
  foldl_of_next hopening hnext

end Traffic

/-! ## What lasts -/

/-- A property of services that nothing ends: neither the answers to requests of a kind nor what is
added from outside. -/
structure Enduring (uuids : Nat → String) (good : EndpointRequest → Prop) (P : Service → Prop) :
    Prop where
  answered : ∀ {service : Service} {request : EndpointRequest} {response : EndpointResponse}
    {store : Store}, P service → good request →
      service.store.handle (uuids service.issued) request = .ok (response, store) →
        P (service.afterAnswer request store)
  addCluster : ∀ {service : Service} (id : String), P service →
    P { service with store := service.store.addCluster id }
  addInfobaseSession : ∀ {service : Service} (clusterId : String) (session : SessionEntry),
    P service → P { service with store := service.store.addInfobaseSession clusterId session }
  addClusterAdmin : ∀ {service : Service} (clusterId : String) (account : Account),
    P service → P { service with store := service.store.addClusterAdmin clusterId account }

namespace Enduring

variable {uuids : Nat → String} {good : EndpointRequest → Prop} {P : Service → Prop}

theorem serviceAfter
    (henduring : Enduring uuids good P) {service : Service} (hservice : P service)
    {call : OpenCall} (hsends : call.rest.SendsOnly good) (withdrawn : Bool) (now : Instant) :
    P (call.serviceAfter uuids withdrawn now service) := by
  rcases hsends.eq_or_answered with hsame | ⟨request, response, store, hgood, hhandle, hafter⟩
  · rw [OpenCall.serviceAfter, hsame]
    exact hservice
  · rw [OpenCall.serviceAfter, hafter]
    exact henduring.answered hservice hgood hhandle

/-- What endures outlives a program that runs undisturbed. -/
theorem eval
    (henduring : Enduring uuids good P) {α : Type} {p : Operation α} (hsends : p.SendsOnly good)
    (course : Course) {s : Situation} (hservice : P s.service) :
    P (p.eval uuids course s).2.service := by
  induction hsends generalizing s with
  | done result => exact hservice
  | note n hnext ih => exact ih hservice
  | checkpoint hnext ih => exact ih (course.withdrawn s.moment) hservice
  | clock hnext ih => exact ih (course.clock s.moment) hservice
  | acquire hnext ih => exact ih (.ok ()) hservice
  | @send request abandoned next hgood hnext ih =>
    apply ih
    rcases s.service.answer_cases uuids request with
      ⟨response, store, hhandle, hanswer⟩ | ⟨rejection, -, hanswer⟩
    · rw [hanswer]
      exact henduring.answered hservice hgood hhandle
    · rw [hanswer]
      exact hservice

/-- What endures outlives every occurrence, as long as all calls send requests of the kind. -/
theorem next
    (henduring : Enduring uuids good P) {traffic : Traffic} (occurrence : Occurrence)
    (hservice : P traffic.service)
    (hcalls : ∀ call ∈ traffic.calls, call.rest.SendsOnly good) :
    P (traffic.next uuids occurrence).service := by
  have hmoves := traffic.moves_next uuids occurrence
  generalize traffic.next uuids occurrence = after at hmoves ⊢
  cases hmoves with
  | arrives | nobody => exact hservice
  | proceeds front call back withdrawn now hsplit =>
    have hcall := hcalls call (by simp [hsplit])
    exact henduring.serviceAfter hservice hcall withdrawn now
  | addCluster id => exact henduring.addCluster id hservice
  | addSession clusterId sessionId =>
    exact henduring.addInfobaseSession clusterId (.unbound sessionId) hservice
  | addInfobaseSession clusterId session =>
    exact henduring.addInfobaseSession clusterId session hservice
  | addClusterAdmin clusterId account =>
    exact henduring.addClusterAdmin clusterId account hservice

/-- What endures outlives any history in which all calls send requests of the kind. -/
theorem foldl
    (henduring : Enduring uuids good P) {traffic : Traffic} (hservice : P traffic.service)
    (hcalls : ∀ call ∈ traffic.calls, call.rest.SendsOnly good) {history : List Occurrence}
    (harrives : ∀ rpc message, .arrives rpc message ∈ history →
      (rpc.serve message).SendsOnly good) :
    P (history.foldl (Traffic.next uuids) traffic).service := by
  refine And.left (Traffic.foldl_of_next
    (P := fun traffic => P traffic.service ∧ ∀ call ∈ traffic.calls, call.rest.SendsOnly good)
    ⟨hservice, hcalls⟩ ?_)
  rintro traffic occurrence hmem ⟨hnow, hsends⟩
  refine ⟨henduring.next occurrence hnow hsends, Traffic.forall_calls_next hsends ?_ ?_⟩
  · rintro rpc message rfl
    exact harrives rpc message hmem
  · intro call withdrawn now hcall
    exact hcall.step

theorem after
    (henduring : Enduring uuids good P) {service : Service} (hservice : P service)
    {history : List Occurrence}
    (harrives : ∀ rpc message, .arrives rpc message ∈ history →
      (rpc.serve message).SendsOnly good) :
    P (Traffic.after uuids service history).service := by
  have hnone : ∀ call ∈ (Traffic.opening service).calls, call.rest.SendsOnly good := by
    intro call hcall
    cases hcall
  exact henduring.foldl hservice hnone harrives

end Enduring

namespace Lasting

variable {uuids : Nat → String} {good : EndpointRequest → Prop} {P : Store → Prop}

/-- A property of the store that lasts is one of the service. -/
theorem enduring (hlasting : Lasting uuids good P) :
    Enduring uuids good fun service => P service.store where
  answered := hlasting.answered
  addCluster := hlasting.addCluster
  addInfobaseSession := hlasting.addInfobaseSession
  addClusterAdmin := hlasting.addClusterAdmin

/-- What lasts outlives a program that runs undisturbed. -/
theorem eval
    (hlasting : Lasting uuids good P) {α : Type} {p : Operation α} (hsends : p.SendsOnly good)
    (course : Course) {s : Situation} (hstore : P s.service.store) :
    P (p.eval uuids course s).2.service.store :=
  hlasting.enduring.eval hsends course hstore

/-- What lasts outlives every occurrence, as long as all calls send requests of the kind. -/
theorem next
    (hlasting : Lasting uuids good P) {traffic : Traffic} {occurrence : Occurrence}
    (hservice : P traffic.service.store)
    (hcalls : ∀ call ∈ traffic.calls, call.rest.SendsOnly good)
    (harrives : ∀ rpc message, occurrence = .arrives rpc message →
      (rpc.serve message).SendsOnly good) :
    P (traffic.next uuids occurrence).service.store ∧
      ∀ call ∈ (traffic.next uuids occurrence).calls, call.rest.SendsOnly good := by
  have hnext := hlasting.enduring.next occurrence hservice hcalls
  exact ⟨hnext, Traffic.forall_calls_next hcalls harrives fun call withdrawn now hcall =>
    hcall.step⟩

theorem after
    (hlasting : Lasting uuids good P) {service : Service} (hservice : P service.store)
    {history : List Occurrence}
    (harrives : ∀ rpc message, .arrives rpc message ∈ history →
      (rpc.serve message).SendsOnly good) :
    P (Traffic.after uuids service history).service.store :=
  hlasting.enduring.after hservice harrives

end Lasting

end InfobaseGateway
