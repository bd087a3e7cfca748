import InfobaseGateway.Proofs.Rpc.Contract
import InfobaseGateway.Proofs.Service.Traffic
import InfobaseGateway.Proofs.Store.Soundness

/-!
# The number of infobases and the answers of calls

Every change in the number of infobases of a cluster is told by the answer of the call that made it:
a creation that answers that it created one made one more, a removal that succeeds made one less,
and no other answer goes with a change. The lookup of a creation and its second request are two
steps that other calls may come between, so this is shown along the trees of the calls, and then
for every way in which their steps interleave.
-/

namespace InfobaseGateway

/-- By how much a call made the infobases of a cluster more, going by its answer. -/
def Rpc.change (clusterId : String) :
    (rpc : Rpc) → rpc.Request → Except Status rpc.Response → Int
  | .createInfobase, message, .ok response =>
    if message.clusterId = clusterId ∧ response.message = "Infobase created successfully" then 1
    else 0
  | .dropInfobase, message, .ok _ => if message.clusterId = clusterId then -1 else 0
  | _, _, _ => 0

/-- Only creations and removals tell of a change, and of one infobase. -/
theorem Rpc.change_cases
    (clusterId : String) (rpc : Rpc) (message : rpc.Request) (told : Except Status rpc.Response) :
    rpc.change clusterId message told = 0 ∨
      (rpc = .createInfobase ∧ rpc.change clusterId message told = 1) ∨
      (rpc = .dropInfobase ∧ rpc.change clusterId message told = -1) := by
  cases rpc with
  | createInfobase =>
    cases told with
    | error status => exact .inl rfl
    | ok response =>
      by_cases hcreated :
          message.clusterId = clusterId ∧ response.message = "Infobase created successfully"
      · exact .inr (.inl ⟨rfl, if_pos hcreated⟩)
      · exact .inl (if_neg hcreated)
  | dropInfobase =>
    cases told with
    | error status => exact .inl rfl
    | ok response =>
      by_cases hcluster : message.clusterId = clusterId
      · exact .inr (.inr ⟨rfl, if_pos hcluster⟩)
      · exact .inl (if_neg hcluster)
  | _ => exact .inl rfl

/-! ## Programs that tell what they changed -/

namespace Operation

variable {α : Type} {uuids : Nat → String} {clusterId : String} {told : α → Int}

/-- A program that has changed nothing in a cluster yet, and that tells truthfully by how much it
will have changed the number of its infobases. A request that changes the number is the last one. -/
inductive Honest (uuids : Nat → String) (clusterId : String) (told : α → Int) :
    Operation α → Prop
  | done {result : α} (hresult : told result = 0) : Honest uuids clusterId told (.done result)
  | note (n : Note) {next : Operation α} (hnext : Honest uuids clusterId told next) :
      Honest uuids clusterId told (.note n next)
  | checkpoint {next : Bool → Operation α}
      (hnext : ∀ withdrawn, Honest uuids clusterId told (next withdrawn)) :
      Honest uuids clusterId told (.checkpoint next)
  | clock {next : Instant → Operation α}
      (hnext : ∀ now, Honest uuids clusterId told (next now)) :
      Honest uuids clusterId told (.clock next)
  | acquire {abandoned : List Event} {next : Except String Unit → Operation α}
      (hnext : ∀ reply, Honest uuids clusterId told (next reply)) :
      Honest uuids clusterId told (.acquire abandoned next)
  | send {request : EndpointRequest} {abandoned : List Event}
      {next : Except String EndpointResponse → Operation α} (hkeeps : request.KeepsNames)
      (hrejected : ∀ text, Honest uuids clusterId told (next (.error text)))
      (hidle : request.change clusterId = 0 →
        ∀ response, Honest uuids clusterId told (next (.ok response)))
      (hchanges : request.change clusterId ≠ 0 → ∀ n store response store',
        Store.handle store (uuids n) request = .ok (response, store') →
          (next (.ok response)).Ends fun result => told result = request.change clusterId) :
      Honest uuids clusterId told (.send request abandoned next)

theorem Ends.honest {p : Operation α} (h : p.Ends fun result => told result = 0) :
    p.Honest uuids clusterId told := by
  induction h with
  | done hresult => exact .done hresult
  | note n hnext ih => exact .note n ih
  | clock hnext ih => exact .clock ih

/-- A program that comes to a request is honest if its failures are and what follows the request
is. -/
theorem Comes.honest
    {failure : α → Prop} {request : EndpointRequest}
    {onwards : Except String EndpointResponse → Operation α → Prop} {p : Operation α}
    (h : p.Comes failure request onwards) (hfailure : ∀ result, failure result → told result = 0)
    (hsend : ∀ abandoned next, (∀ reply, onwards reply (next reply)) →
      (Operation.send request abandoned next).Honest uuids clusterId told) :
    p.Honest uuids clusterId told := by
  induction h with
  | note n hnext ih => exact .note n ih
  | clock hnext ih => exact .clock ih
  | checkpoint hwithdrawn hnext ih =>
    refine .checkpoint fun withdrawn => ?_
    cases withdrawn with
    | true => exact (hwithdrawn.mono hfailure).honest
    | false => exact ih
  | acquire hfailed hnext ih =>
    refine .acquire fun reply => ?_
    cases reply with
    | error text => exact ((hfailed text).mono hfailure).honest
    | ok => exact ih
  | @send abandoned next hnext => exact hsend abandoned next hnext

/-- A program that sends nothing that counts has nothing to tell. -/
theorem SendsOnly.honest
    {p : Operation α}
    (h : p.SendsOnly fun request => request.KeepsNames ∧ request.change clusterId = 0)
    (htold : ∀ result, told result = 0) : p.Honest uuids clusterId told := by
  induction h with
  | done result => exact .done (htold result)
  | note n hnext ih => exact .note n ih
  | checkpoint hnext ih => exact .checkpoint ih
  | clock hnext ih => exact .clock ih
  | acquire hnext ih => exact .acquire ih
  | send hgood hnext ih =>
    exact .send hgood.1 (fun text => ih _) (fun _ response => ih _)
      fun hchanges => absurd hgood.2 hchanges

/-- An honest program is not bound to tell of a change. -/
theorem Honest.not_ends
    {p : Operation α} (h : p.Honest uuids clusterId told) {change : Int} (hchange : change ≠ 0) :
    ¬p.Ends fun result => told result = change := by
  intro hends
  induction hends with
  | done hresult =>
    cases h with
    | done hzero => exact hchange (hresult.symm.trans hzero)
  | note n hnext ih =>
    cases h with
    | note n hhonest => exact ih hhonest
  | clock hnext ih =>
    cases h with
    | clock hhonest => exact ih ⟨0, 0⟩ (hhonest ⟨0, 0⟩)

/-- A step of an honest program either changes nothing, or it is the change that the program is then
bound to tell of. -/
theorem Honest.step
    {p : Operation α} (h : p.Honest uuids clusterId told) (withdrawn : Bool) (now : Instant)
    (service : Service) :
    ((p.step uuids withdrawn now service).1.Honest uuids clusterId told ∧
        (p.step uuids withdrawn now service).2.store.infobaseCount clusterId =
          service.store.infobaseCount clusterId) ∨
      ∃ change, change ≠ 0 ∧
        (p.step uuids withdrawn now service).1.Ends (fun result => told result = change) ∧
        ((p.step uuids withdrawn now service).2.store.infobaseCount clusterId : Int) =
          service.store.infobaseCount clusterId + change := by
  cases h with
  | done hresult => exact .inl ⟨.done hresult, rfl⟩
  | note n hnext => exact .inl ⟨hnext, rfl⟩
  | checkpoint hnext => exact .inl ⟨hnext withdrawn, rfl⟩
  | clock hnext => exact .inl ⟨hnext now, rfl⟩
  | acquire hnext => exact .inl ⟨hnext (.ok ()), rfl⟩
  | @send request abandoned next hkeeps hrejected hidle hchanges =>
    simp only [Operation.step]
    rcases Service.answer_cases uuids service request with
      ⟨response, store, hhandle, hanswer⟩ | ⟨rejection, -, hanswer⟩
    · have hcount := Store.infobaseCount_of_effect
        (Store.effect_of_handle_eq_ok hkeeps hhandle) clusterId
      rw [hanswer]
      simp only [Except.mapError, Service.afterAnswer]
      by_cases hzero : request.change clusterId = 0
      · refine .inl ⟨hidle hzero response, ?_⟩
        omega
      · exact .inr ⟨_, hzero, hchanges hzero _ _ _ _ hhandle, hcount⟩
    · rw [hanswer]
      exact .inl ⟨hrejected rejection.message, rfl⟩

end Operation

/-! ## Every call is honest -/

section Calls

variable {uuids : Nat → String} {clusterId : String}

namespace CreateInfobase

variable {message : CreateInfobaseRequest} {request : CreateInfobase}

/-- A failure tells of no change. -/
theorem change_eq_zero_of_isFailure
    {told : Except Status CreateInfobaseResponse} (hfailure : IsFailure answer told) :
    Rpc.change clusterId .createInfobase message told = 0 := by
  obtain ⟨error, rfl⟩ := hfailure
  rfl

theorem honest_of_pending
    (huuids : ∀ n, uuids n ≠ "") (hid : request.clusterId = message.clusterId)
    {p : Operation (Except Status CreateInfobaseResponse)}
    (h : request.procedure.Pending answer p) :
    p.Honest uuids clusterId (Rpc.change clusterId .createInfobase message) := by
  have hcomes : p.Comes (IsFailure answer) (.createInfobase request.info) fun reply rest =>
      rest.Ends fun told => told = answer (request.procedure.conclusion reply) := h
  refine hcomes.honest (fun _ => change_eq_zero_of_isFailure) ?_
  intro abandoned next hnext
  refine .send trivial (fun text => ?_) (fun hzero response => ?_) ?_
  · refine ((hnext (.error text)).mono ?_).honest
    rintro told rfl
    rfl
  · have hother : message.clusterId ≠ clusterId := by
      intro hsame
      have hone : EndpointRequest.change clusterId (.createInfobase request.info) = 1 :=
        if_pos (hid.trans hsame)
      omega
    refine ((hnext (.ok response)).mono ?_).honest
    rintro told rfl
    cases request.procedure.conclusion (.ok response) with
    | error error => rfl
    | ok outcome => exact if_neg fun h => hother h.1
  · intro hchanges n store response store' hhandle
    have hsame : request.info.clusterId = clusterId := by
      by_contra hother
      exact hchanges (if_neg hother)
    obtain ⟨rfl, -⟩ := Store.created_of_handle_eq_ok hhandle
    refine (hnext _).mono ?_
    rintro told rfl
    have hconclusion :
        request.procedure.conclusion
            (.ok (.infobase { request.info with uuid := some (uuids n) })) =
          .ok (request.createdOutcome (uuids n)) :=
      if_neg (huuids n)
    rw [hconclusion, EndpointRequest.change, if_pos hsame]
    exact if_pos ⟨hid.symm.trans hsame, rfl⟩

theorem honest_of_looking
    (huuids : ∀ n, uuids n ≠ "") (hid : request.clusterId = message.clusterId)
    {p : Operation (Except Status CreateInfobaseResponse)}
    (h : request.procedure.Looking answer request.search p) :
    p.Honest uuids clusterId (Rpc.change clusterId .createInfobase message) := by
  refine Operation.Comes.honest h (fun _ => change_eq_zero_of_isFailure) ?_
  intro abandoned next hnext
  have hrest (reply : Except String EndpointResponse) :
      (next reply).Honest uuids clusterId (Rpc.change clusterId .createInfobase message) := by
    have hlooked := hnext reply
    unfold Procedure.LookedUp at hlooked
    cases hclosing : request.search.closing? reply with
    | none =>
      rw [hclosing] at hlooked
      exact honest_of_pending huuids hid hlooked
    | some closing =>
      rw [hclosing] at hlooked
      refine (hlooked.mono ?_).honest
      rintro told rfl
      rcases Search.closing?_cases hclosing with ⟨infobases, -, hfinding⟩ | ⟨error, -, -, rfl⟩
      · obtain ⟨existing, -, rfl⟩ := Option.map_eq_some_iff.mp hfinding
        exact if_neg fun h => absurd h.2 (by simp [foundOutcome])
      · rfl
  exact .send trivial (fun text => hrest _) (fun _ response => hrest _)
    fun hchanges => absurd rfl hchanges

theorem honest_serve (huuids : ∀ n, uuids n ≠ "") (message : CreateInfobaseRequest) :
    (Rpc.createInfobase.serve message).Honest uuids clusterId
      (Rpc.change clusterId .createInfobase message) := by
  rcases fails_or_looking_serve message with hends | ⟨request, hconverts, -, hlooking⟩
  · refine (hends.mono ?_).honest
    rintro told ⟨status, rfl⟩
    rfl
  · exact honest_of_looking huuids (ids_of_ofMessage hconverts).1 hlooking

end CreateInfobase

namespace DropInfobase

variable {message : DropInfobaseRequest} {request : DropInfobase}

theorem change_eq_zero_of_isFailure
    {told : Except Status DropInfobaseResponse} (hfailure : IsFailure answer told) :
    Rpc.change clusterId .dropInfobase message told = 0 := by
  obtain ⟨error, rfl⟩ := hfailure
  rfl

theorem honest_of_pending
    (hid : request.clusterId = message.clusterId)
    {p : Operation (Except Status DropInfobaseResponse)} (h : request.procedure.Pending answer p) :
    p.Honest uuids clusterId (Rpc.change clusterId .dropInfobase message) := by
  have hcomes : p.Comes (IsFailure answer) (.unregisterInfobase request.info) fun reply rest =>
      rest.Ends fun told => told = answer (request.procedure.conclusion reply) := h
  refine hcomes.honest (fun _ => change_eq_zero_of_isFailure) ?_
  intro abandoned next hnext
  refine .send trivial (fun text => ?_) (fun hzero response => ?_) ?_
  · refine ((hnext (.error text)).mono ?_).honest
    rintro told rfl
    rfl
  · have hother : message.clusterId ≠ clusterId := by
      intro hsame
      have hone : EndpointRequest.change clusterId (.unregisterInfobase request.info) = -1 :=
        if_pos (hid.trans hsame)
      omega
    refine ((hnext (.ok response)).mono ?_).honest
    rintro told rfl
    cases request.procedure.conclusion (.ok response) with
    | error error => rfl
    | ok outcome => exact if_neg hother
  · intro hchanges n store response store' hhandle
    have hsame : request.info.clusterId = clusterId := by
      by_contra hother
      exact hchanges (if_neg hother)
    have hexplains := store.explains_handle (uuids n) (.unregisterInfobase request.info)
    rw [hhandle] at hexplains
    obtain ⟨⟨content, hcontent⟩, -⟩ := hexplains
    refine (hnext _).mono ?_
    rintro told rfl
    have hconclusion : request.procedure.conclusion (.ok response) = .ok request.dropped := by
      simp only [Procedure.conclusion, Procedure.closing, procedure, Dispatch.receive, hcontent]
    rw [hconclusion, EndpointRequest.change, if_pos hsame]
    exact if_pos (hid.symm.trans hsame)

theorem honest_serve (message : DropInfobaseRequest) :
    (Rpc.dropInfobase.serve message).Honest uuids clusterId
      (Rpc.change clusterId .dropInfobase message) := by
  rcases fails_or_pending_serve message with hends | ⟨request, hconverts, hpending⟩
  · refine (hends.mono ?_).honest
    rintro told ⟨status, rfl⟩
    rfl
  · exact honest_of_pending (ids_of_ofMessage hconverts).1 hpending

end DropInfobase

namespace GatewayTask

/-- No task renames an infobase. -/
theorem keepsNames_of_mem_envelopes
    {task : GatewayTask} {request : EndpointRequest} (hmem : request ∈ task.envelopes) :
    request.KeepsNames := by
  cases task with
  | create create =>
    rcases List.mem_pair.mp hmem with rfl | rfl
    · trivial
    · trivial
  | update update | lock lock | unlock unlock =>
    rw [List.mem_singleton.mp hmem]
    exact rfl
  | _ =>
    rw [List.mem_singleton.mp hmem]
    trivial

/-- A task that creates or removes an infobase. -/
def Counts : GatewayTask → Prop
  | create _ | drop _ => True
  | _ => False

theorem change_eq_zero_of_not_counts
    {task : GatewayTask} (hcounts : ¬task.Counts) {request : EndpointRequest}
    (hmem : request ∈ task.envelopes) : request.change clusterId = 0 := by
  cases task with
  | create create | drop drop => exact absurd trivial hcounts
  | _ =>
    rw [List.mem_singleton.mp hmem]
    rfl

end GatewayTask

namespace Rpc

theorem sendsOnly_keepsNames (rpc : Rpc) (message : rpc.Request) :
    (rpc.serve message).SendsOnly EndpointRequest.KeepsNames :=
  sendsOnly_serve fun _ _ _ hmem => GatewayTask.keepsNames_of_mem_envelopes hmem

/-- Every other method has a task that neither creates nor removes an infobase. -/
theorem not_counts_of_plan_eq_ok
    {rpc : Rpc} (hcreate : rpc ≠ .createInfobase) (hdrop : rpc ≠ .dropInfobase)
    {message : rpc.Request} {plan : rpc.Plan} (hplan : rpc.plan message = .ok plan) :
    ¬plan.task.Counts := by
  cases rpc with
  | createInfobase => exact absurd rfl hcreate
  | dropInfobase => exact absurd rfl hdrop
  | updateInfobase =>
    obtain ⟨request, -, rfl⟩ := exists_of_map_eq_ok hplan
    exact id
  | lockInfobase =>
    obtain ⟨request, -, rfl⟩ := exists_of_map_eq_ok hplan
    exact id
  | _ =>
    cases hplan
    exact id

/-- Every call tells truthfully by how much it changes the number of infobases of a cluster. -/
theorem honest_serve
    (huuids : ∀ n, uuids n ≠ "") (clusterId : String) (rpc : Rpc) (message : rpc.Request) :
    (rpc.serve message).Honest uuids clusterId (rpc.change clusterId message) := by
  by_cases hcreate : rpc = .createInfobase
  · subst hcreate
    exact CreateInfobase.honest_serve huuids message
  · by_cases hdrop : rpc = .dropInfobase
    · subst hdrop
      exact DropInfobase.honest_serve message
    · have hgood (plan : rpc.Plan) (hplan : rpc.plan message = .ok plan)
          (request : EndpointRequest) (hmem : request ∈ plan.task.envelopes) :
          request.KeepsNames ∧ request.change clusterId = 0 :=
        ⟨GatewayTask.keepsNames_of_mem_envelopes hmem,
          GatewayTask.change_eq_zero_of_not_counts
            (not_counts_of_plan_eq_ok hcreate hdrop hplan) hmem⟩
      refine (sendsOnly_serve hgood).honest fun result => ?_
      cases rpc with
      | createInfobase => exact absurd rfl hcreate
      | dropInfobase => exact absurd rfl hdrop
      | _ => rfl

end Rpc

end Calls

/-! ## Services that can be reached -/

/-- The service started with a configuration, and since then calls were served and members added. -/
def Service.Reachable (uuids : Nat → String) (service : Service) : Prop :=
  ∃ seed start history,
    ofSeed uuids seed = .ok start ∧ service = (Traffic.after uuids start history).service

theorem Service.Reachable.sound
    {uuids : Nat → String} {service : Service} (h : service.Reachable uuids) :
    service.store.Sound := by
  obtain ⟨seed, start, history, hseed, rfl⟩ := h
  have hstart : start.store.Sound := sound_of_ofSeed hseed
  exact (Store.lasting_sound uuids).after hstart fun rpc message _ =>
    rpc.sendsOnly_keepsNames message

end InfobaseGateway
