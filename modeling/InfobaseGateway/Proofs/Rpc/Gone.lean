import InfobaseGateway.Proofs.Operation.Missing
import InfobaseGateway.Proofs.Rpc.Idempotence
import InfobaseGateway.Proofs.Rpc.Status
import InfobaseGateway.Proofs.Service.Identity

/-!
# Infobases that are gone

A removal that succeeds takes the first infobase of its uuid out of its cluster. If the infobases of
the cluster are told apart, no other one has the uuid, and no later one gets it. So every later call
about the infobase finds nothing, whatever overlaps with it. If the configuration gives one uuid to
two infobases of a cluster, the second one answers in place of the one that was removed.
-/

namespace InfobaseGateway

/-! ## Calls about an infobase -/

namespace Rpc

/-- The call is about an infobase that it expects to be there. -/
def Concerns (clusterId infobaseId : String) : (rpc : Rpc) → rpc.Request → Prop
  | updateInfobase, message => message.clusterId = clusterId ∧ message.infobaseId = infobaseId
  | dropInfobase, message => message.clusterId = clusterId ∧ message.infobaseId = infobaseId
  | lockInfobase, message => message.clusterId = clusterId ∧ message.infobaseId = infobaseId
  | unlockInfobase, message => message.clusterId = clusterId ∧ message.infobaseId = infobaseId
  | getInfobaseSessions, message =>
    message.clusterId = clusterId ∧ message.infobaseId = infobaseId
  | _, _ => False

/-- The call fails as not found, or because it is invalid at one of the times, or because its mode
is not supported. -/
def Misses (rpc : Rpc) (message : rpc.Request) (times : Instant → Prop)
    (told : Except Status rpc.Response) : Prop :=
  failureCode? told = some .notFound ∨
    (failureCode? told = some .invalidArgument ∧ ∃ now, times now ∧ rpc.IsInvalid message now) ∨
      (failureCode? told = some .unimplemented ∧ rpc.IsUnsupported message)

variable {clusterId infobaseId : String} {rpc : Rpc} {message : rpc.Request} {plan : rpc.Plan}

/-- A call and the request that it sends are about the same infobase. -/
theorem concerns_envelope
    (hconcerns : rpc.Concerns clusterId infobaseId message) (hplan : rpc.plan message = .ok plan) :
    plan.task.envelope.Concerns clusterId infobaseId := by
  cases rpc with
  | updateInfobase =>
    obtain ⟨rfl, rfl⟩ := hconcerns
    obtain ⟨request, hconverts, rfl⟩ := exists_of_map_eq_ok hplan
    simp only [UpdateInfobase.ofMessage, except_bind_eq_ok_iff] at hconverts
    obtain ⟨dbms, -, securityLevel, -, deniedFrom, -, deniedTo, -, hrequest⟩ := hconverts
    cases hrequest
    exact ⟨rfl, rfl⟩
  | lockInfobase =>
    obtain ⟨rfl, rfl⟩ := hconcerns
    obtain ⟨request, hconverts, rfl⟩ := exists_of_map_eq_ok hplan
    simp only [LockInfobase.ofMessage, except_bind_eq_ok_iff] at hconverts
    obtain ⟨deniedFrom, -, deniedTo, -, hrequest⟩ := hconverts
    cases hrequest
    exact ⟨rfl, rfl⟩
  | dropInfobase =>
    obtain ⟨rfl, rfl⟩ := hconcerns
    obtain ⟨request, hconverts, rfl⟩ := exists_of_map_eq_ok hplan
    obtain ⟨hcluster, hinfobase⟩ := DropInfobase.ids_of_ofMessage hconverts
    exact ⟨hcluster, congrArg some hinfobase⟩
  | unlockInfobase =>
    obtain ⟨rfl, rfl⟩ := hconcerns
    cases hplan
    exact ⟨rfl, rfl⟩
  | getInfobaseSessions =>
    obtain ⟨rfl, rfl⟩ := hconcerns
    cases hplan
    exact ⟨rfl, rfl⟩
  | _ => exact hconcerns.elim

/-- What a call answers when its task misses. -/
theorem misses_answer
    (hplan : rpc.plan message = .ok plan) {times : Instant → Prop} {error : GatewayError}
    (hmiss : error.IsMiss (∃ now, times now ∧ ¬plan.task.Valid now) plan.task.Unsupported) :
    rpc.Misses message times (plan.answer (.error error)) := by
  have hcode : failureCode? (plan.answer (.error error)) = some error.code.status :=
    failureCode?_answer plan (.error error)
  rw [Misses, hcode, IsUnsupported, exists_asksFor_iff hplan]
  rcases hmiss with hnotFound | ⟨hinvalid, now, hnow, hfault⟩ | ⟨hunsupported, hmode⟩
  · rw [hnotFound]
    exact .inl rfl
  · have hisInvalid := (isInvalid_iff_of_plan_eq_ok hplan now).mpr hfault
    rw [hinvalid]
    exact .inr (.inl ⟨rfl, now, hnow, hisInvalid⟩)
  · rw [hunsupported]
    exact .inr (.inr ⟨rfl, hmode⟩)

/-- A call about an infobase that is missing fails for that reason, unless it is at fault itself. -/
theorem misses_serve
    (hconcerns : rpc.Concerns clusterId infobaseId message) (times : Instant → Prop) :
    (rpc.serve message).Misses clusterId infobaseId times (rpc.Misses message times) := by
  rw [serve, outcome_handle, Chain.serve_eq_wayBack]
  -- the first reading of the clock shows that there is a time at which the call can be judged
  refine .note _ (.clock fun now hnow => .note _ (.note _ (.clock fun start _ => .note _ ?_)))
  have hback (told : Except Status rpc.Response) (htold : rpc.Misses message times told) :
      (Chain.wayBack (rpc.call message) start told).Misses clusterId infobaseId times
        (rpc.Misses message times) := by
    refine ((Chain.ends_wayBack (rpc.call message) start told).mono ?_).misses
    rintro result rfl
    exact htold
  cases hplan : rpc.plan message with
  | error error =>
    have hconverts : ¬rpc.Converts message := by
      intro hconverts
      obtain ⟨plan, hok⟩ := (rpc.exists_plan_eq_ok_iff message).mpr hconverts
      rw [hplan] at hok
      cases hok
    exact hback _ (.inr (.inl ⟨rfl, now, hnow, .inl hconverts⟩))
  | ok plan =>
    have htask := GatewayTask.misses_perform (concerns_envelope hconcerns hplan) hnow
    rw [perform?, Operation.bind_bind]
    refine Operation.Misses.bind htask ?_
    rintro result ⟨error, rfl, hmiss⟩
    exact hback _ (misses_answer hplan hmiss)

/-- A valid call about an infobase that is missing, which runs undisturbed and is not withdrawn,
comes back as not found. -/
theorem notFound_of_not_mem
    {uuids : Nat → String} (huuids : ∀ n, uuids n ≠ "") (clock : Nat → Instant) {s : Situation}
    (habsent : some infobaseId ∉ s.service.store.uuidsOf clusterId)
    (hconcerns : rpc.Concerns clusterId infobaseId message)
    (hvalid : ¬rpc.IsInvalid message (firstReading (.steadfast clock) s.moment))
    (hsupported : ¬rpc.IsUnsupported message) :
    ∃ told,
      ((rpc.serve message).run (Service.during uuids (.steadfast clock)) s).outcome = some told ∧
        failureCode? told = some .notFound := by
  obtain ⟨houtcome, -⟩ := (rpc.serve message).run_during uuids (.steadfast clock) s
  refine ⟨_, houtcome, ?_⟩
  have hconverts : rpc.Converts message := by
    by_contra hunconverted
    exact hvalid (.inl hunconverted)
  obtain ⟨plan, hplan⟩ := (rpc.exists_plan_eq_ok_iff message).mpr hconverts
  have hmissing : ¬plan.task.envelope.TargetStored s.service.store :=
    Store.not_targetStored_of_not_mem habsent (concerns_envelope hconcerns hplan)
  have hdecided := (settles_of_plan_eq_ok huuids (.steadfast clock) plan s).decided
  rw [isInvalid_iff_of_plan_eq_ok hplan] at hvalid
  rw [IsUnsupported, exists_asksFor_iff hplan] at hsupported
  rw [eval_serve_of_plan_eq_ok uuids _ hplan, failureCode?_answer]
  exact hdecided.notFound_iff.mpr ⟨hvalid, hsupported, hmissing⟩

end Rpc

/-! ## One step of a call -/

/-- A program that is after an infobase that is not there stays after it. -/
theorem Operation.Misses.step
    {α : Type} {clusterId infobaseId : String} {times : Instant → Prop} {P : α → Prop}
    {p : Operation α} (h : p.Misses clusterId infobaseId times P) {now : Instant}
    (hnow : times now) (uuids : Nat → String) {service : Service}
    (habsent : some infobaseId ∉ service.store.uuidsOf clusterId) :
    (p.step uuids false now service).1.Misses clusterId infobaseId times P := by
  cases h with
  | done hresult => exact .done hresult
  | note n hnext => exact hnext
  | checkpoint hnext => exact hnext
  | clock hnext => exact hnext now hnow
  | acquire hnext => exact hnext
  | @send request abandoned next hconcerns hnext =>
    obtain ⟨rejection, hhandle, hmissing⟩ :=
      Store.rejects_of_not_mem habsent hconcerns (uuids service.issued)
    simp only [Operation.step, Service.answer_of_handle_eq_error hhandle]
    exact hnext rejection hmissing

namespace OpenCall

variable {clusterId infobaseId : String}

/-- A removal of the infobase that has succeeded. -/
def HasDropped (clusterId infobaseId : String) : OpenCall → Prop
  | ⟨.dropInfobase, message, rest⟩ =>
    Rpc.Drops clusterId infobaseId .dropInfobase message ∧ ∃ response, rest = .done (.ok response)
  | _ => False

/-- A call that has not removed the infobase: it does not ask for that, or it is still on its way to
its request, or it fails. -/
def Undone (clusterId infobaseId : String) : OpenCall → Prop
  | ⟨.dropInfobase, message, rest⟩ =>
    Rpc.Drops clusterId infobaseId .dropInfobase message →
      (rest.Ends fun told => ∃ status, told = .error status) ∨
        ∃ request : DropInfobase, DropInfobase.ofMessage message = .ok request ∧
          request.procedure.Pending DropInfobase.answer rest
  | _ => True

theorem HasDropped.not_undone
    {call : OpenCall} (h : call.HasDropped clusterId infobaseId) :
    ¬call.Undone clusterId infobaseId := by
  obtain ⟨rpc, message, rest⟩ := call
  cases rpc with
  | dropInfobase =>
    obtain ⟨hdrops, response, rfl⟩ := h
    intro hundone
    rcases hundone hdrops with hends | ⟨request, -, hpending⟩
    · cases hends with
      | done hfailed =>
        obtain ⟨status, hstatus⟩ := hfailed
        cases hstatus
    · cases hpending
  | _ => exact h.elim

theorem undone_start (rpc : Rpc) (message : rpc.Request) :
    (start rpc message).Undone clusterId infobaseId := by
  cases rpc with
  | dropInfobase =>
    intro _
    exact DropInfobase.fails_or_pending_serve message
  | _ => trivial

/-- A step of a call that has not removed the infobase leaves it so, or removes the infobase. -/
theorem Undone.next
    {uuids : Nat → String} {given : List String} (hfresh : FreshSupply uuids given)
    {call : OpenCall} (h : call.Undone clusterId infobaseId) {service : Service}
    (hidentifies : service.Identifies uuids given) (withdrawn : Bool) (now : Instant) :
    (call.next uuids withdrawn now service).Undone clusterId infobaseId ∨
      (call.serviceAfter uuids withdrawn now service).Gone uuids given clusterId infobaseId := by
  obtain ⟨rpc, message, rest⟩ := call
  cases rpc with
  | dropInfobase =>
    by_cases hdrops : Rpc.Drops clusterId infobaseId .dropInfobase message
    · rcases h hdrops with hends | ⟨request, hconverts, hpending⟩
      · exact .inl fun _ => .inl hends.step.1
      · rcases Operation.Comes.step_cases hpending with hcloser | hfailed | ⟨hends, hanswer⟩
        · exact .inl fun _ => .inr ⟨request, hconverts, hcloser⟩
        · refine .inl fun _ => .inl (hfailed.mono ?_)
          rintro told ⟨error, rfl⟩
          exact ⟨error.status, rfl⟩
        · rcases service.answer_cases uuids request.procedure.envelope with
            ⟨response, store, hhandle, hanswered⟩ | ⟨rejection, hhandle, hrejected⟩
          · obtain ⟨hcluster, hinfobase⟩ := DropInfobase.ids_of_ofMessage hconverts
            have hremoves : request.procedure.envelope.Removes clusterId infobaseId :=
              ⟨hcluster.trans hdrops.1, congrArg some (hinfobase.trans hdrops.2)⟩
            have hgone := hidentifies.gone_of_removes hfresh hremoves trivial hhandle
            rw [hanswered] at hanswer
            rw [serviceAfter, hanswer]
            exact .inr hgone
          · refine .inl fun _ => .inl (hends.mono ?_)
            rintro told rfl
            rw [Service.reply, hrejected]
            exact ⟨_, rfl⟩
    · exact .inl fun hdrops' => absurd hdrops' hdrops
  | _ => exact .inl trivial

end OpenCall

/-! ## The traffic before and after a removal -/

namespace Traffic

variable {uuids : Nat → String} {given : List String} {clusterId infobaseId : String}

/-- The infobases are told apart, all calls keep names, and the infobase is gone unless no call has
removed it. -/
structure Traced (uuids : Nat → String) (given : List String) (clusterId infobaseId : String)
    (traffic : Traffic) : Prop where
  identifies : traffic.service.Identifies uuids given
  keepsNames : ∀ call ∈ traffic.calls, call.rest.SendsOnly EndpointRequest.KeepsNames
  gone_or_undone : traffic.service.Gone uuids given clusterId infobaseId ∨
    ∀ call ∈ traffic.calls, call.Undone clusterId infobaseId

theorem keepsNames_next
    {traffic : Traffic}
    (h : ∀ call ∈ traffic.calls, call.rest.SendsOnly EndpointRequest.KeepsNames)
    (occurrence : Occurrence) :
    ∀ call ∈ (traffic.next uuids occurrence).calls,
      call.rest.SendsOnly EndpointRequest.KeepsNames :=
  forall_calls_next h (fun rpc message _ => rpc.sendsOnly_keepsNames message)
    fun _ _ _ hcall => hcall.step

theorem Traced.next
    (hfresh : FreshSupply uuids given) {traffic : Traffic}
    (h : traffic.Traced uuids given clusterId infobaseId) (occurrence : Occurrence) :
    (traffic.next uuids occurrence).Traced uuids given clusterId infobaseId := by
  refine ⟨?_, keepsNames_next h.keepsNames occurrence, ?_⟩
  · exact (Service.enduring_identifies hfresh).next occurrence h.identifies h.keepsNames
  · rcases h.gone_or_undone with hgone | hundone
    · have henduring := Service.enduring_gone hfresh clusterId infobaseId
      exact .inl (henduring.next occurrence hgone h.keepsNames)
    · have hmoves := traffic.moves_next uuids occurrence
      generalize traffic.next uuids occurrence = after at hmoves ⊢
      cases hmoves with
      | arrives rpc message =>
        refine .inr fun call hcall => ?_
        rcases List.mem_append.mp hcall with hold | hnew
        · exact hundone call hold
        · rw [List.mem_singleton.mp hnew]
          exact OpenCall.undone_start rpc message
      | proceeds front call back withdrawn now hsplit =>
        rw [hsplit] at hundone
        have hcall := hundone call (List.mem_append_right front List.mem_cons_self)
        rcases hcall.next hfresh h.identifies withdrawn now with hstill | hgone
        · refine .inr fun other hother => ?_
          rcases List.mem_append.mp hother with hfront | hrest
          · exact hundone other (List.mem_append_left _ hfront)
          · rcases List.mem_cons.mp hrest with rfl | hback
            · exact hstill
            · exact hundone other (List.mem_append_right _ (List.mem_cons_of_mem _ hback))
        · exact .inl hgone
      | nobody | addCluster | addSession | addInfobaseSession | addClusterAdmin =>
        exact .inr hundone

/-- At every moment the infobases are told apart, and the infobase is gone unless no call has removed
it. -/
theorem traced_after
    {seed : StoreSeed} (hfresh : FreshSupply uuids seed.givenUuids)
    (hdistinct : ∀ cluster ∈ seed.clusters, cluster.givenUuids.Nodup) {start : Service}
    (hseed : Service.ofSeed uuids seed = .ok start) (history : List Occurrence)
    (clusterId infobaseId : String) :
    (after uuids start history).Traced uuids seed.givenUuids clusterId infobaseId := by
  apply after_of_next
  · refine ⟨Service.identifies_of_ofSeed hfresh hdistinct hseed, ?_, .inr ?_⟩
    · intro call hcall
      cases hcall
    · intro call hcall
      cases hcall
  · intro traffic occurrence _ htraced
    exact htraced.next hfresh occurrence

/-- The infobase is gone, and the call at a position, if it is about the infobase, is after
something that is not there. -/
structure Misses (uuids : Nat → String) (given : List String) (clusterId infobaseId : String)
    (position : Nat) (times : Instant → Prop) (traffic : Traffic) : Prop where
  gone : traffic.service.Gone uuids given clusterId infobaseId
  keepsNames : ∀ call ∈ traffic.calls, call.rest.SendsOnly EndpointRequest.KeepsNames
  misses : ∀ call : OpenCall, traffic.calls[position]? = some call →
    call.rpc.Concerns clusterId infobaseId call.message →
      call.rest.Misses clusterId infobaseId times (call.rpc.Misses call.message times)

theorem Misses.next
    (hfresh : FreshSupply uuids given) {position : Nat} {times : Instant → Prop}
    {traffic : Traffic} (h : traffic.Misses uuids given clusterId infobaseId position times)
    {occurrence : Occurrence}
    (hsteady : ∀ withdrawn now, occurrence = .proceeds position withdrawn now →
      withdrawn = false ∧ times now) :
    (traffic.next uuids occurrence).Misses uuids given clusterId infobaseId position times := by
  have henduring := Service.enduring_gone hfresh clusterId infobaseId
  refine ⟨henduring.next occurrence h.gone h.keepsNames, keepsNames_next h.keepsNames occurrence,
    ?_⟩
  intro call hget hconcerns
  rcases getElem?_next_cases hget with
    hold | ⟨rpc, message, -, rfl, -⟩ | ⟨old, withdrawn, now, hproceeds, hold, rfl⟩
  · exact h.misses call hold hconcerns
  · exact Rpc.misses_serve hconcerns times
  · obtain ⟨rfl, hnow⟩ := hsteady withdrawn now hproceeds
    exact (h.misses old hold hconcerns).step hnow uuids h.gone.absent

end Traffic

/-! ## What stays gone -/

/-- After an earlier history and a later one, the calls about an infobase that came in later find
nothing. -/
structure StaysGone (uuids : Nat → String) (start : Service) (earlier later : List Occurrence)
    (clusterId infobaseId : String) : Prop where
  /-- A call that came in later, was not withdrawn while others took their steps between its own,
  and has ended, has failed as not found, or it was invalid at one of the times of its steps, or its
  mode is not supported. -/
  overlapping : ∀ (position : Nat) (call : OpenCall) (told : Except Status call.rpc.Response),
    (Traffic.after uuids start earlier).calls.length ≤ position →
      (Traffic.after uuids start (earlier ++ later)).calls[position]? = some call →
        call.rpc.Concerns clusterId infobaseId call.message →
          (∀ now, .proceeds position true now ∉ later) → call.rest = .done told →
            call.rpc.Misses call.message (fun now => .proceeds position false now ∈ later) told
  /-- A valid call that comes in now, runs undisturbed and is not withdrawn comes back as not
  found. -/
  undisturbed : ∀ (rpc : Rpc) (message : rpc.Request) (clock : Nat → Instant) (moment : Nat),
    rpc.Concerns clusterId infobaseId message →
      ¬rpc.IsInvalid message (Rpc.firstReading (.steadfast clock) moment) →
        ¬rpc.IsUnsupported message →
          ∃ told, ((rpc.serve message).run (Service.during uuids (.steadfast clock))
              ⟨(Traffic.after uuids start (earlier ++ later)).service, moment⟩).outcome =
                some told ∧
            failureCode? told = some .notFound

namespace Traffic

variable {uuids : Nat → String}

theorem Traced.staysGone
    {given : List String} (hfresh : FreshSupply uuids given) {start : Service}
    {earlier : List Occurrence} {clusterId infobaseId : String}
    (h : (after uuids start earlier).Traced uuids given clusterId infobaseId)
    (hgone : (after uuids start earlier).service.Gone uuids given clusterId infobaseId)
    (later : List Occurrence) : StaysGone uuids start earlier later clusterId infobaseId := by
  have hlater :
      after uuids start (earlier ++ later) =
        later.foldl (Traffic.next uuids) (after uuids start earlier) := by
    simp only [after, List.foldl_append]
  constructor
  · intro position call told hposition hget hconcerns hsteady htold
    have hmisses : (after uuids start (earlier ++ later)).Misses uuids given clusterId infobaseId
        position fun now => .proceeds position false now ∈ later := by
      rw [hlater]
      apply foldl_of_next
      · refine ⟨hgone, h.keepsNames, ?_⟩
        intro other hother
        rw [List.getElem?_eq_none hposition] at hother
        cases hother
      · intro traffic occurrence hmem htraffic
        refine htraffic.next hfresh ?_
        rintro withdrawn now rfl
        cases withdrawn with
        | true => exact absurd hmem (hsteady now)
        | false => exact ⟨rfl, hmem⟩
    have hcall := hmisses.misses call hget hconcerns
    rw [htold] at hcall
    cases hcall with
    | done hresult => exact hresult
  · intro rpc message clock moment hconcerns hvalid hsupported
    have henduring := Service.enduring_gone hfresh clusterId infobaseId
    have hstill : (after uuids start (earlier ++ later)).service.Gone uuids given clusterId
        infobaseId := by
      rw [hlater]
      exact henduring.foldl hgone h.keepsNames fun rpc message _ =>
        rpc.sendsOnly_keepsNames message
    exact Rpc.notFound_of_not_mem hfresh.nonempty clock hstill.absent hconcerns hvalid hsupported

/-- A configuration that gives no uuid twice within a cluster gives a service in which no two
infobases of a cluster ever have the same uuid, if the supply never issues a uuid in use. So a
removed infobase stays gone: once a removal has succeeded, however calls come in, overlap, are
withdrawn or abandoned before and after it, every later call about the infobase that is valid and
not withdrawn comes back as not found. -/
theorem staysGone_of_dropped
    {seed : StoreSeed} (hfresh : FreshSupply uuids seed.givenUuids)
    (hdistinct : ∀ cluster ∈ seed.clusters, cluster.givenUuids.Nodup) {start : Service}
    (hseed : Service.ofSeed uuids seed = .ok start) (earlier : List Occurrence) :
    (after uuids start earlier).service.store.Distinct ∧
      ∀ clusterId infobaseId,
        (∃ call ∈ (after uuids start earlier).calls, call.HasDropped clusterId infobaseId) →
          ∀ later, StaysGone uuids start earlier later clusterId infobaseId := by
  constructor
  · have hstart := Service.identifies_of_ofSeed hfresh hdistinct hseed
    have hafter : (after uuids start earlier).service.Identifies uuids seed.givenUuids :=
      (Service.enduring_identifies hfresh).after hstart fun rpc message _ =>
        rpc.sendsOnly_keepsNames message
    exact hafter.distinct
  · rintro clusterId infobaseId ⟨call, hmem, hdropped⟩ later
    have htraced := traced_after hfresh hdistinct hseed earlier clusterId infobaseId
    rcases htraced.gone_or_undone with hgone | hundone
    · exact htraced.staysGone hfresh hgone later
    · exact absurd (hundone call hmem) hdropped.not_undone

/-- A supply that issues longer and longer uuids. -/
def longerAndLonger (n : Nat) : String :=
  String.ofList (List.replicate (n + 1) 'x')

theorem freshSupply_longerAndLonger
    {given : List String} (hgiven : ∀ infobaseId ∈ given, infobaseId = "ib-1") :
    FreshSupply longerAndLonger given where
  nonempty := by
    intro n hempty
    have hlist := congrArg String.toList hempty
    simp [longerAndLonger] at hlist
  not_given := by
    intro n hmem
    have hlist := congrArg String.toList (hgiven _ hmem)
    have hhead := congrArg List.head? hlist
    simp [longerAndLonger, List.replicate_succ] at hhead
  injective := by
    intro m n hsame
    have hlength := congrArg (List.length ∘ String.toList) hsame
    simpa [longerAndLonger] using hlength

/-- A cluster with infobases of one uuid, under these names. -/
def clusterOf (names : List String) : StoreSeed :=
  ⟨[⟨"c-1", none, none, none, names.map fun name => ⟨some "ib-1", name, none⟩, [], [], []⟩], []⟩

/-- A call that removes the infobase comes in at the position and takes all its steps. -/
def removalAt (position : Nat) : List Occurrence :=
  .arrives .dropInfobase ⟨"c-1", "ib-1", 1, none, none⟩ ::
    List.replicate 20 (.proceeds position false ⟨0, 0⟩)

/-- Whether a call has ended, and the code of its failure. -/
def verdict? : OpenCall → Option (Option StatusCode)
  | ⟨_, _, .done told⟩ => some (failureCode? told)
  | _ => none

/-- One infobase is removed, and a second removal of it comes in after that. -/
theorem staysGone_of_dropped_trade :
    ∃ start, Service.ofSeed longerAndLonger (clusterOf ["trade"]) = .ok start ∧
      (after longerAndLonger start (removalAt 0)).service.store.Distinct ∧
        StaysGone longerAndLonger start (removalAt 0) (removalAt 1) "c-1" "ib-1" := by
  have hfresh : FreshSupply longerAndLonger (clusterOf ["trade"]).givenUuids :=
    freshSupply_longerAndLonger (by decide)
  refine ⟨_, rfl, ?_⟩
  obtain ⟨hdistinct, hgone⟩ := staysGone_of_dropped hfresh (by decide) rfl (removalAt 0)
  have hstays := hgone "c-1" "ib-1" ⟨_, List.mem_singleton.mpr rfl, ⟨rfl, rfl⟩, _, rfl⟩
  exact ⟨hdistinct, hstays (removalAt 1)⟩

/-- Two infobases of one cluster may be given the same uuid if their names differ. Then the infobase
is not gone after a removal has succeeded: a second removal succeeds as well. -/
theorem second_removal_succeeds :
    FreshSupply longerAndLonger (clusterOf ["accounting", "trade"]).givenUuids ∧
      ∃ start, Service.ofSeed longerAndLonger (clusterOf ["accounting", "trade"]) = .ok start ∧
        ¬start.store.Distinct ∧
          (after longerAndLonger start (removalAt 0)).calls.map verdict? = [some none] ∧
            (after longerAndLonger start (removalAt 0 ++ removalAt 1)).calls.map verdict? =
              [some none, some none] := by
  refine ⟨freshSupply_longerAndLonger (by decide), _, rfl, ?_, ?_, ?_⟩
  · intro hdistinct
    have hnodup := hdistinct "c-1"
    exact absurd hnodup (by decide)
  · decide +kernel
  · decide +kernel

end Traffic

end InfobaseGateway
