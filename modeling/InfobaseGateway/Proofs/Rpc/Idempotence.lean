import InfobaseGateway.Proofs.Rpc.Ledger
import InfobaseGateway.Proofs.Service.Creation

/-!
# Creations are idempotent

A creation that succeeds leaves an infobase with its name in its cluster, which it made or found.
The infobase stays there, whatever else is called, until a call removes it by its id. As long as it
is there, another creation under the same name answers with it and changes nothing.
-/

namespace InfobaseGateway

/-! ## Calls that spare an infobase -/

/-- The call asks for the removal of the infobase. -/
def Rpc.Drops (clusterId infobaseId : String) : (rpc : Rpc) → rpc.Request → Prop
  | .dropInfobase, message => message.clusterId = clusterId ∧ message.infobaseId = infobaseId
  | _, _ => False

/-- The occurrence is not the arrival of a call that asks for the removal of the infobase. -/
def Occurrence.Spares (clusterId infobaseId : String) : Occurrence → Prop
  | arrives rpc message => ¬rpc.Drops clusterId infobaseId message
  | _ => True

/-- Only a call that asks for it removes an infobase. -/
theorem Rpc.drops_of_removes
    {rpc : Rpc} {message : rpc.Request} {plan : rpc.Plan} (hplan : rpc.plan message = .ok plan)
    {request : EndpointRequest} (hmem : request ∈ plan.task.envelopes)
    {clusterId infobaseId : String} (hremoves : request.Removes clusterId infobaseId) :
    rpc.Drops clusterId infobaseId message := by
  have hchange : request.change clusterId ≠ 0 := by
    cases request with
    | unregisterInfobase info => simp [EndpointRequest.change, hremoves.1]
    | _ => cases hremoves
  by_cases hcreate : rpc = .createInfobase
  · subst hcreate
    obtain ⟨create, -, rfl⟩ := exists_of_map_eq_ok hplan
    rcases List.mem_pair.mp hmem with rfl | rfl
    · cases hremoves
    · cases hremoves
  · by_cases hdrop : rpc = .dropInfobase
    · subst hdrop
      obtain ⟨drop, hconverts, rfl⟩ := exists_of_map_eq_ok hplan
      obtain ⟨hcluster, hinfobase⟩ := DropInfobase.ids_of_ofMessage hconverts
      rw [List.mem_singleton.mp hmem] at hremoves
      have hid : drop.infobaseId = infobaseId := Option.some.inj hremoves.2
      exact ⟨hcluster.symm.trans hremoves.1, hinfobase.symm.trans hid⟩
    · have hcounts := not_counts_of_plan_eq_ok hcreate hdrop hplan
      exact absurd (GatewayTask.change_eq_zero_of_not_counts hcounts hmem) hchange

/-- Every other call spares the infobase. -/
theorem Rpc.sendsOnly_spares
    {rpc : Rpc} {message : rpc.Request} {clusterId infobaseId : String}
    (hother : ¬rpc.Drops clusterId infobaseId message) :
    (rpc.serve message).SendsOnly (EndpointRequest.Spares clusterId infobaseId) :=
  sendsOnly_serve fun _ hplan _ hmem =>
    ⟨GatewayTask.keepsNames_of_mem_envelopes hmem,
      fun hremoves => hother (drops_of_removes hplan hmem hremoves)⟩

/-! ## The first creation -/

namespace CreateInfobase

section First

variable {uuids : Nat → String} {course : Course} {s : Situation} {request : CreateInfobase}
  {response : CreateInfobaseResponse} {rest : Operation (Except Status CreateInfobaseResponse)}

/-- Only an outcome is answered with a response, and the response has its id. -/
theorem exists_outcome_of_answer
    {result : Except GatewayError LifecycleOutcome} (hok : answer result = .ok response) :
    ∃ outcome, result = .ok outcome ∧ outcome.infobaseId = response.infobaseId := by
  cases result with
  | error error => cases hok
  | ok outcome =>
    cases hok
    exact ⟨outcome, rfl, rfl⟩

/-- A creation that succeeds with its second request leaves its infobase there. -/
theorem holds_of_pending
    (h : request.procedure.Pending answer rest)
    (hok : (rest.eval uuids course s).1 = .ok response) :
    (rest.eval uuids course s).2.service.store.Holds request.clusterId response.infobaseId
      request.name := by
  rcases Operation.Comes.eval h uuids course s with
    ⟨error, hfailed⟩ | ⟨rest', moment, hends, heval⟩
  · rw [hfailed] at hok
    cases hok
  · obtain ⟨htold, hservice⟩ := hends.eval uuids course
      ⟨(s.service.answer uuids request.procedure.envelope).2, moment⟩
    rw [heval] at hok
    obtain ⟨outcome, hconclusion, hid⟩ := exists_outcome_of_answer (htold.symm.trans hok)
    rw [heval, hservice, ← hid]
    exact holds_of_conclusion hconclusion

/-- A creation that succeeds leaves an infobase with its name there, which has the id that it
answers. -/
theorem holds_of_looking
    (hname : request.name ≠ "") (hsound : s.service.store.Sound)
    (h : request.procedure.Looking answer request.search rest)
    (hok : (rest.eval uuids course s).1 = .ok response) :
    (rest.eval uuids course s).2.service.store.Holds request.clusterId response.infobaseId
      request.name := by
  rcases Operation.Comes.eval h uuids course s with
    ⟨error, hfailed⟩ | ⟨rest', moment, hlooked, heval⟩
  · rw [hfailed] at hok
    cases hok
  · rw [answer_lookup] at heval
    rw [heval] at hok ⊢
    by_cases hstored : s.service.store.HasCluster request.clusterId
    · obtain ⟨cluster, hget⟩ := hstored
      have hcluster : cluster.Sound request.clusterId := hsound _ cluster hget
      cases hfree : cluster.hasName request.name with
      | false => exact holds_of_pending (pending_of_free hget hname hfree hlooked) hok
      | true =>
        obtain ⟨infobaseId, hholds⟩ := hcluster.exists_holds_of_hasName hfree
        have hends := ends_of_holds hget hcluster hname hholds hlooked
        obtain ⟨htold, hservice⟩ := hends.eval uuids course ⟨s.service, moment⟩
        obtain ⟨outcome, houtcome, hid⟩ := exists_outcome_of_answer (htold.symm.trans hok)
        cases houtcome
        rw [hservice, ← hid]
        exact ⟨cluster, hget, hholds⟩
    · have hhandle := Store.handle_of_not_hasCluster (uuids s.service.issued)
        request.search.envelope rfl hstored
      rw [Service.reply, Service.answer_of_handle_eq_error hhandle, Procedure.LookedUp,
        Except.mapError, Search.closing?_error] at hlooked
      by_cases hcode : categoryOf (Rejection.unknownCluster request.clusterId).message = .notFound
      · simp only [if_pos hcode] at hlooked
        exact holds_of_pending hlooked hok
      · simp only [if_neg hcode] at hlooked
        have htold := (hlooked.eval uuids course ⟨s.service, moment⟩).1
        cases htold.symm.trans hok

/-- A call that creates an infobase and succeeds leaves one with its name there. -/
theorem holds_of_serve
    {message : CreateInfobaseRequest} (hsound : s.service.store.Sound)
    (hok : ((Rpc.createInfobase.serve message).eval uuids course s).1 = .ok response) :
    ((Rpc.createInfobase.serve message).eval uuids course s).2.service.store.Holds
      message.clusterId response.infobaseId message.name := by
  rcases fails_or_looking_serve message with hends | ⟨request, hconverts, hvalid, hlooking⟩
  · obtain ⟨status, htold⟩ := (hends.eval uuids course s).1
    cases htold.symm.trans hok
  · obtain ⟨hcluster, hname⟩ := ids_of_ofMessage hconverts
    rw [← hcluster, ← hname]
    exact holds_of_looking hvalid.name.nonempty hsound hlooking hok

end First

/-! ## Runs of creations -/

/-- The run of a call that creates an infobase. -/
def served (uuids : Nat → String) (course : Course) (message : CreateInfobaseRequest)
    (s : Situation) : Run Situation (Except Status CreateInfobaseResponse) :=
  (Rpc.createInfobase.serve message).run (Service.during uuids course) s

/-- The run of a creation that finds its infobase, and that is all. -/
structure FindsOnly (clusterId infobaseId name : String) (before : Service)
    (run : Run Situation (Except Status CreateInfobaseResponse)) : Prop where
  outcome : run.outcome =
    some (.ok ⟨infobaseId, name, "Infobase already exists (idempotent operation)", true⟩)
  sent : run.sent = [.getInfobasesShort clusterId]
  unchanged : run.final.service = before

section Served

variable {uuids : Nat → String} {s : Situation} {message : CreateInfobaseRequest}

/-- A creation that succeeds leaves a sound store with its infobase in it. -/
theorem holds_of_served
    (hsound : s.service.store.Sound) {course : Course} {response : CreateInfobaseResponse}
    (hok : (served uuids course message s).outcome = some (.ok response)) :
    (served uuids course message s).final.service.store.Sound ∧
      (served uuids course message s).final.service.store.Holds message.clusterId
        response.infobaseId message.name := by
  obtain ⟨houtcome, hfinal⟩ := (Rpc.createInfobase.serve message).run_during uuids course s
  rw [served] at hok ⊢
  rw [hfinal]
  have hkeeps := Rpc.createInfobase.sendsOnly_keepsNames message
  have htold := Option.some.inj (houtcome.symm.trans hok)
  exact ⟨(Store.lasting_sound uuids).eval hkeeps course hsound, holds_of_serve hsound htold⟩

/-- A valid creation whose infobase is there only finds it. -/
theorem findsOnly_of_holds
    {infobaseId : String} (hsound : s.service.store.Sound)
    (hholds : s.service.store.Holds message.clusterId infobaseId message.name)
    (clock : Nat → Instant) {request : CreateInfobase}
    (hconverts : ofMessage message = .ok request) (hvalid : request.Valid) :
    FindsOnly message.clusterId infobaseId message.name s.service
      (served uuids (.steadfast clock) message s) := by
  obtain ⟨hcluster, hname⟩ := ids_of_ofMessage hconverts
  rw [← hcluster, ← hname] at hholds ⊢
  obtain ⟨cluster, hget, hrecord⟩ := hholds
  obtain ⟨rest, moment, hlooked, heval, hsent⟩ :=
    Operation.Comes.steadfast (looking_serve hconverts hvalid) uuids clock s
  have hcluster := hsound _ cluster hget
  have hends := ends_of_holds hget hcluster hvalid.name.nonempty hrecord hlooked
  rw [answer_lookup] at heval hsent
  obtain ⟨htold, hservice⟩ := hends.eval uuids (.steadfast clock) ⟨s.service, moment⟩
  obtain ⟨houtcome, hfinal⟩ :=
    (Rpc.createInfobase.serve message).run_during uuids (.steadfast clock) s
  rw [heval] at houtcome hfinal
  refine ⟨?_, ?_, ?_⟩
  · exact houtcome.trans (congrArg some htold)
  · rw [served, hsent, hends.sent_run]
    rfl
  · rw [served, hfinal, hservice]

end Served

/-- Creations are idempotent. Let a creation succeed at any service that can be reached. However
calls come in, overlap, are withdrawn or abandoned after it, and whatever is added from outside: as
long as no call asks for the removal of its infobase, another valid creation in the same cluster
under the same name that is not withdrawn answers with the same id, looks the name up and sends
nothing else, and leaves the service as it was. -/
theorem findsOnly_after_success
    {uuids : Nat → String} {reached : Situation} (hreached : reached.service.Reachable uuids)
    {course : Course} {first : CreateInfobaseRequest} {response : CreateInfobaseResponse}
    (hfirst : (served uuids course first reached).outcome = some (.ok response))
    {history : List Occurrence}
    (hspares : ∀ occurrence ∈ history, occurrence.Spares first.clusterId response.infobaseId)
    {further : CreateInfobaseRequest} {request : CreateInfobase}
    (hconverts : ofMessage further = .ok request) (hvalid : request.Valid)
    (hcluster : further.clusterId = first.clusterId) (hname : further.name = first.name)
    {s : Situation}
    (hafter : s.service =
      (Traffic.after uuids (served uuids course first reached).final.service history).service)
    (clock : Nat → Instant) :
    FindsOnly first.clusterId response.infobaseId first.name s.service
      (served uuids (.steadfast clock) further s) := by
  have hmade := holds_of_served hreached.sound hfirst
  have hlasting := Store.lasting_holds uuids first.clusterId response.infobaseId first.name
  have hbefore :
      s.service.store.Sound ∧
        s.service.store.Holds first.clusterId response.infobaseId first.name := by
    rw [hafter]
    apply hlasting.after hmade
    intro rpc message hmem
    exact Rpc.sendsOnly_spares (hspares _ hmem)
  rw [← hcluster, ← hname] at hbefore ⊢
  exact findsOnly_of_holds hbefore.1 hbefore.2 clock hconverts hvalid

/-- A creation of one infobase, in a database of its own. -/
def tradeIn (database : String) : CreateInfobaseRequest :=
  ⟨"c-1", "trade", 2, "db-1", database, none, none, none, none, none, none, none, none, none, none⟩

/-- A removal of another infobase, which is served, and a session that is added meanwhile. -/
def otherBusiness : List Occurrence :=
  .arrives .dropInfobase ⟨"c-1", "ib-2", 1, none, none⟩ :: .addSession "c-1" "s-1" ::
    List.replicate 20 (.proceeds 0 false ⟨0, 0⟩)

/-- The first creation of the infobase. -/
def tradeMade : Run Situation (Except Status CreateInfobaseResponse) :=
  served (fun _ => "ib-1") (.steadfast fun _ => ⟨0, 0⟩) (tradeIn "trade") ⟨.withCluster "c-1", 0⟩

/-- The service some time after that. -/
def someTimeLater : Situation :=
  ⟨(Traffic.after (fun _ => "ib-1") tradeMade.final.service otherBusiness).service, 0⟩

/-- A second creation of the infobase finds the first, whatever database it asks for. -/
theorem findsOnly_after_success_trade :
    tradeMade.outcome =
        some (.ok ⟨"ib-1", "trade", "Infobase created successfully", true⟩) ∧
      FindsOnly "c-1" "ib-1" "trade" someTimeLater.service
        (served (fun _ => "ib-1") (.steadfast fun _ => ⟨0, 0⟩) (tradeIn "archive")
          someTimeLater) := by
  have hreached : (Service.withCluster "c-1").Reachable fun _ => "ib-1" :=
    ⟨_, _, [], Service.ofSeed_withCluster (fun _ => "ib-1") "c-1", rfl⟩
  have hmade :
      tradeMade.outcome =
        some (.ok ⟨"ib-1", "trade", "Infobase created successfully", true⟩) := rfl
  have hspares : ∀ occurrence ∈ otherBusiness, occurrence.Spares "c-1" "ib-1" := by
    intro occurrence hmem
    simp only [otherBusiness, List.mem_cons, List.mem_replicate] at hmem
    rcases hmem with rfl | rfl | ⟨-, rfl⟩
    · simp [Occurrence.Spares, Rpc.Drops]
    · trivial
    · trivial
  obtain ⟨request, hconverts, hvalid⟩ :
      ∃ request, ofMessage (tradeIn "archive") = .ok request ∧ request.Valid :=
    ⟨_, rfl, (exists_validate_eq_ok_iff _).mp ⟨_, rfl⟩⟩
  refine ⟨hmade, ?_⟩
  have hfinds := findsOnly_after_success hreached hmade hspares hconverts hvalid rfl rfl
    (s := someTimeLater) rfl fun _ => ⟨0, 0⟩
  exact hfinds

end CreateInfobase

end InfobaseGateway
