import InfobaseGateway.Proofs.Rpc.Independence
import InfobaseGateway.Proofs.Rpc.Merge
import InfobaseGateway.Proofs.Store.Chronicle

/-!
# Listings

The listings of a service are what the chronicles of its clusters say. The chronicle of a cluster
starts with its configuration and grows with every request that is answered and everything that is
added from outside, whichever calls go on side by side. So the queries agree with each other and
with the history of the service: each thing that is there is listed once, and in its place.
-/

namespace InfobaseGateway

/-! ## Chronicles of a traffic -/

namespace OpenCall

variable {uuids : Nat → String} {withdrawn : Bool} {now : Instant} {call : OpenCall}
  {service : Service}

theorem serviceAfter_of_sending?_eq_none (hsending : call.sending? = none) :
    call.serviceAfter uuids withdrawn now service = service := by
  obtain ⟨rpc, message, rest⟩ := call
  cases rest with
  | send request abandoned next => cases hsending
  | _ => rfl

theorem serviceAfter_of_sending?_eq_some
    {request : EndpointRequest} (hsending : call.sending? = some request) :
    call.serviceAfter uuids withdrawn now service = (service.answer uuids request).2 := by
  obtain ⟨rpc, message, rest⟩ := call
  cases rest with
  | send other abandoned next =>
    cases hsending
    rfl
  | _ => cases hsending

theorem good_of_sending?_eq_some
    {good : EndpointRequest → Prop} (hsends : call.rest.SendsOnly good)
    {request : EndpointRequest} (hsending : call.sending? = some request) : good request := by
  obtain ⟨rpc, message, rest⟩ := call
  have hrest : rest.SendsOnly good := hsends
  cases hrest with
  | send hgood hnext =>
    cases hsending
    exact hgood
  | _ => cases hsending

end OpenCall

namespace Traffic

variable (uuids : Nat → String) (clusterId : String)

/-- What an occurrence makes happen in a cluster: a request that is answered, or something that is
added from outside. -/
def deed? (traffic : Traffic) : Occurrence → Option Deed
  | .proceeds position withdrawn now =>
    (traffic.sent? (.proceeds position withdrawn now)).bind fun sent =>
      match (traffic.service.answer uuids sent.2).1 with
      | .ok response => sent.2.deed? clusterId response
      | .error _ => none
  | .addCluster id => if id = clusterId then some (.opens (Cluster.new id).summary) else none
  | .addSession id sessionId => if id = clusterId then some (.admits (.unbound sessionId)) else none
  | .addInfobaseSession id session => if id = clusterId then some (.admits session) else none
  | .addClusterAdmin _ _ | .arrives _ _ => none

/-- What a history makes happen in a cluster, in its order. -/
def deedsIn : Traffic → List Occurrence → List Deed
  | _, [] => []
  | traffic, occurrence :: later =>
    (traffic.deed? uuids clusterId occurrence).toList ++
      deedsIn (traffic.next uuids occurrence) later

/-- The chronicle of a cluster: its configuration, and what has happened since the service
started. -/
def chronicle (seed : StoreSeed) (start : Service) (history : List Occurrence) : List Deed :=
  seed.deedsIn uuids clusterId ++ deedsIn uuids clusterId (opening start) history

variable {uuids} {clusterId}

/-- A service follows the chronicle of a cluster, and all calls keep to it. -/
structure Follows (clusterId : String) (deeds : List Deed) (traffic : Traffic) : Prop where
  sound : traffic.service.store.Sound
  sends : ∀ call ∈ traffic.calls, call.rest.SendsOnly EndpointRequest.KeepsNames
  follows : traffic.service.store.Follows clusterId deeds

/-- The step of a call writes down the request that is answered in it. -/
theorem Follows.proceeds
    {deeds : List Deed} {traffic : Traffic} (h : traffic.Follows clusterId deeds)
    (position : Nat) (withdrawn : Bool) (now : Instant) :
    (traffic.next uuids (.proceeds position withdrawn now)).service.store.Follows clusterId
      (deeds ++ (traffic.deed? uuids clusterId (.proceeds position withdrawn now)).toList) := by
  simp only [next, deed?, sent?]
  cases hcall : traffic.calls[position]? with
  | none => simpa using h.follows
  | some call =>
    dsimp only [Option.bind_some]
    cases hsending : call.sending? with
    | none =>
      rw [OpenCall.serviceAfter_of_sending?_eq_none hsending]
      simpa using h.follows
    | some request =>
      rw [OpenCall.serviceAfter_of_sending?_eq_some hsending]
      have hkeeps : request.KeepsNames :=
        OpenCall.good_of_sending?_eq_some (h.sends call (List.mem_of_getElem? hcall)) hsending
      dsimp only [Option.map_some, Option.bind_some]
      rcases traffic.service.answer_cases uuids request with
        ⟨response, store, hhandle, hanswer⟩ | ⟨rejection, -, hanswer⟩
      · rw [hanswer]
        exact h.follows.answered h.sound hkeeps hhandle
      · rw [hanswer]
        simpa using h.follows

/-- One occurrence adds at most one deed. -/
theorem Follows.next
    {deeds : List Deed} {traffic : Traffic} (h : traffic.Follows clusterId deeds)
    (occurrence : Occurrence) :
    (traffic.next uuids occurrence).Follows clusterId
      (deeds ++ (traffic.deed? uuids clusterId occurrence).toList) := by
  have harrives : ∀ rpc message, occurrence = .arrives rpc message →
      (rpc.serve message).SendsOnly EndpointRequest.KeepsNames :=
    fun rpc message _ => rpc.sendsOnly_keepsNames message
  obtain ⟨hsound, hsends⟩ := (Store.lasting_sound uuids).next h.sound h.sends harrives
  refine ⟨hsound, hsends, ?_⟩
  cases occurrence with
  | arrives rpc message =>
    rw [deed?, Option.toList_none, List.append_nil]
    exact h.follows
  | proceeds position withdrawn now => exact h.proceeds position withdrawn now
  | addCluster id => exact h.follows.addCluster id
  | addSession id sessionId => exact h.follows.addInfobaseSession id (.unbound sessionId)
  | addInfobaseSession id session => exact h.follows.addInfobaseSession id session
  | addClusterAdmin id account =>
    rw [deed?, Option.toList_none, List.append_nil]
    exact h.follows.addClusterAdmin id account

/-- Along a history the chronicle grows by what happens in it. -/
theorem Follows.foldl
    {deeds : List Deed} {traffic : Traffic} (h : traffic.Follows clusterId deeds)
    (history : List Occurrence) :
    (history.foldl (Traffic.next uuids) traffic).Follows clusterId
      (deeds ++ deedsIn uuids clusterId traffic history) := by
  induction history generalizing traffic deeds with
  | nil =>
    rw [deedsIn, List.append_nil]
    exact h
  | cons occurrence later ih =>
    rw [deedsIn, ← List.append_assoc]
    exact ih (h.next occurrence)

/-- A service follows its chronicles from its configuration on. -/
theorem follows_after
    {seed : StoreSeed} {start : Service} (hseed : Service.ofSeed uuids seed = .ok start)
    (history : List Occurrence) (clusterId : String) :
    (after uuids start history).Follows clusterId
      (chronicle uuids clusterId seed start history) := by
  have hopening : (opening start).Follows clusterId (seed.deedsIn uuids clusterId) :=
    ⟨Service.sound_of_ofSeed hseed, fun call hcall => absurd hcall List.not_mem_nil,
      (Service.holds_of_ofSeed hseed).follows clusterId⟩
  exact hopening.foldl history

end Traffic

/-! ## Answers of queries -/

namespace Service

/-- What a service answers to a request, if it does not reject it. -/
def says? (uuids : Nat → String) (service : Service) (request : EndpointRequest) :
    Option request.expects.Content :=
  match service.store.handle (uuids service.issued) request with
  | .ok (response, _) => response.content? request.expects
  | .error _ => none

variable (uuids : Nat → String) (service : Service) (clusterId : String)

theorem receive_reply_eq_ok_iff
    (request : EndpointRequest) (content : request.expects.Content) :
    Dispatch.receive request (service.reply uuids request) = .ok content ↔
      service.says? uuids request = some content := by
  rw [Service.reply, says?]
  rcases service.answer_cases uuids request with
    ⟨response, store, hhandle, hanswer⟩ | ⟨rejection, hhandle, hanswer⟩
  · obtain ⟨found, hfound, hreceive⟩ := receive_of_answer uuids hhandle
    rw [hanswer, hhandle]
    simp only [Except.mapError, hreceive, hfound, Except.ok.injEq, Option.some.injEq]
  · rw [hanswer, hhandle]
    simp [Except.mapError, Dispatch.receive]

theorem says?_getClusters :
    service.says? uuids .getClusters =
      some (service.store.clusters.toList.map (·.summary)) :=
  rfl

theorem says?_getClusterInfo :
    service.says? uuids (.getClusterInfo clusterId) =
      (service.store.clusters.get? clusterId).map (·.summary) := by
  rw [says?, Store.handle, Store.cluster]
  cases service.store.clusters.get? clusterId with
  | _ => rfl

theorem says?_getSessions :
    service.says? uuids (.getSessions clusterId) =
      (service.store.clusters.get? clusterId).map (·.sessions.toList) := by
  rw [says?, Store.handle, Store.cluster]
  cases service.store.clusters.get? clusterId with
  | _ => rfl

theorem says?_getInfobasesShort :
    service.says? uuids (.getInfobasesShort clusterId) =
      (service.store.clusters.get? clusterId).map (·.infobases.map InfobaseInfo.short) := by
  rw [says?, Store.handle, Store.cluster]
  cases service.store.clusters.get? clusterId with
  | _ => rfl

theorem says?_getInfobaseSessions_eq_some_iff
    (infobaseId : String) (listing : List SessionEntry) :
    service.says? uuids (.getInfobaseSessions clusterId infobaseId) = some listing ↔
      service.store.HasInfobase clusterId infobaseId ∧
        ∃ cluster, service.store.clusters.get? clusterId = some cluster ∧
          listing = cluster.sessions.toList.filter fun session =>
            session.infobaseId = infobaseId := by
  rw [says?, Store.handle, Store.cluster]
  cases hget : service.store.clusters.get? clusterId with
  | none => simp [bind, Except.bind]
  | some cluster =>
    rw [Store.hasInfobase_iff hget]
    cases hinfobase : cluster.infobase? (some infobaseId) with
    | none => simp [bind, Except.bind, hinfobase]
    | some infobase =>
      simp [bind, Except.bind, hinfobase, EndpointResponse.content?, eq_comm]

end Service

namespace Rpc

/-- To a caller who stays, the call answers with the response. -/
def Answers (uuids : Nat → String) (clock : Nat → Instant) (s : Situation) (rpc : Rpc)
    (message : rpc.Request) (response : rpc.Response) : Prop :=
  (rpc.attended uuids clock message s).outcome = some (.ok response)

variable {uuids : Nat → String} {clock : Nat → Instant} {s : Situation}

/-- A call that asks one thing answers with what the service says. -/
theorem answers_iff
    {rpc : Rpc} {message : rpc.Request} {plan : rpc.Plan} (hplan : rpc.plan message = .ok plan)
    {request : EndpointRequest} {word : request.expects.Content → plan.task.Result}
    (hinquiry : plan.task.inquiry (firstReading (.steadfast clock) s.moment) =
      .exchange request word) (response : rpc.Response) :
    rpc.Answers uuids clock s message response ↔
      ∃ content, s.service.says? uuids request = some content ∧
        response = plan.respond (word content) := by
  have htold := (rpc.amounts_serve message uuids clock s).told
  rw [Answers, attended, ((rpc.serve message).run_during uuids (.steadfast clock) s).1, htold,
    inquiry, hplan, Option.some_inj]
  dsimp only
  rw [Inquiry.eval_map, hinquiry]
  simp only [Inquiry.exchange, Inquiry.eval, ← s.service.receive_reply_eq_ok_iff]
  cases Dispatch.receive request (s.service.reply uuids request) with
  | error error =>
    constructor
    · intro hanswer
      cases hanswer
    · rintro ⟨content, hcontent, -⟩
      cases hcontent
  | ok content =>
    constructor
    · intro hanswer
      exact ⟨content, rfl, (Except.ok.inj hanswer).symm⟩
    · rintro ⟨_, hcontent, rfl⟩
      cases hcontent
      rfl

section Queries

variable {clusterId : String}

theorem answers_getClusters_iff (response : GetClustersResponse) :
    getClusters.Answers uuids clock s ⟨⟩ response ↔
      response = ⟨s.service.store.clusters.toList.map (·.summary)⟩ := by
  have hinquiry : GatewayTask.clusters.inquiry (firstReading (.steadfast clock) s.moment) =
      .exchange .getClusters id := Procedure.inquiry_roundTrip ..
  rw [answers_iff rfl hinquiry, s.service.says?_getClusters uuids]
  constructor
  · rintro ⟨content, hcontent, rfl⟩
    cases hcontent
    rfl
  · rintro rfl
    exact ⟨_, rfl, rfl⟩

theorem answers_getClusterInfo_iff
    (hfilled : Filled clusterId) (response : GetClusterInfoResponse) :
    getClusterInfo.Answers uuids clock s ⟨clusterId⟩ response ↔
      ∃ cluster, s.service.store.clusters.get? clusterId = some cluster ∧
        response = ⟨some cluster.summary⟩ := by
  have hcheck := (requireText_eq_ok_iff "cluster_id" clusterId ()).mpr hfilled
  have hinquiry :
      (GatewayTask.cluster clusterId).inquiry (firstReading (.steadfast clock) s.moment) =
        .exchange (.getClusterInfo clusterId) id := by
    rw [GatewayTask.inquiry, GatewayTask.admission, hcheck]
    exact Procedure.inquiry_roundTrip ..
  rw [answers_iff rfl hinquiry, s.service.says?_getClusterInfo uuids]
  simp only [Option.map_eq_some_iff, exists_exists_and_eq_and, id]

theorem answers_getSessions_iff (hfilled : Filled clusterId) (response : GetSessionsResponse) :
    getSessions.Answers uuids clock s ⟨clusterId⟩ response ↔
      ∃ cluster, s.service.store.clusters.get? clusterId = some cluster ∧
        response = ⟨cluster.sessions.toList⟩ := by
  have hcheck := (requireText_eq_ok_iff "cluster_id" clusterId ()).mpr hfilled
  have hinquiry :
      (GatewayTask.sessions clusterId).inquiry (firstReading (.steadfast clock) s.moment) =
        .exchange (.getSessions clusterId) id := by
    rw [GatewayTask.inquiry, GatewayTask.admission, hcheck]
    exact Procedure.inquiry_roundTrip ..
  rw [answers_iff rfl hinquiry, s.service.says?_getSessions uuids]
  simp only [Option.map_eq_some_iff, exists_exists_and_eq_and, id]

theorem answers_getShortInfobases_iff
    (hfilled : Filled clusterId) (response : GetInfobasesShortResponse) :
    getShortInfobases.Answers uuids clock s ⟨clusterId⟩ response ↔
      ∃ cluster, s.service.store.clusters.get? clusterId = some cluster ∧
        response = ⟨cluster.infobases.map InfobaseInfo.short⟩ := by
  have hcheck := (requireText_eq_ok_iff "cluster_id" clusterId ()).mpr hfilled
  have hinquiry :
      (GatewayTask.infobases clusterId).inquiry (firstReading (.steadfast clock) s.moment) =
        .exchange (.getInfobasesShort clusterId) id := by
    rw [GatewayTask.inquiry, GatewayTask.admission, hcheck]
    exact Procedure.inquiry_roundTrip ..
  rw [answers_iff rfl hinquiry, s.service.says?_getInfobasesShort uuids]
  simp only [Option.map_eq_some_iff, exists_exists_and_eq_and, id]

theorem answers_getInfobaseSessions_iff
    (hfilled : Filled clusterId) {infobaseId : String} (hinfobase : Filled infobaseId)
    (response : GetInfobaseSessionsResponse) :
    getInfobaseSessions.Answers uuids clock s ⟨clusterId, infobaseId⟩ response ↔
      s.service.store.HasInfobase clusterId infobaseId ∧
        ∃ cluster, s.service.store.clusters.get? clusterId = some cluster ∧
          response = ⟨cluster.sessions.toList.filter fun session =>
            session.infobaseId = infobaseId⟩ := by
  have hcheck := (validateIds_eq_ok_iff clusterId infobaseId ()).mpr ⟨hfilled, hinfobase⟩
  have hinquiry :
      (GatewayTask.infobaseSessions clusterId infobaseId).inquiry
          (firstReading (.steadfast clock) s.moment) =
        .exchange (.getInfobaseSessions clusterId infobaseId) id := by
    rw [GatewayTask.inquiry, GatewayTask.admission, hcheck]
    exact Procedure.inquiry_roundTrip ..
  have htold := s.service.says?_getInfobaseSessions_eq_some_iff uuids clusterId infobaseId
  rw [answers_iff rfl hinquiry]
  constructor
  · rintro ⟨listing, hlisting, rfl⟩
    obtain ⟨hstored, cluster, hget, hfilter⟩ := (htold listing).mp hlisting
    exact ⟨hstored, cluster, hget, congrArg GetInfobaseSessionsResponse.mk hfilter⟩
  · rintro ⟨hstored, cluster, hget, rfl⟩
    exact ⟨_, (htold _).mpr ⟨hstored, cluster, hget, rfl⟩, rfl⟩

end Queries

end Rpc

/-! ## Listings of a service -/

namespace Store

/-- What the clusters say about themselves. -/
def summaries (store : Store) : Keyed ClusterInfo :=
  store.clusters.map (·.summary)

variable (store : Store)

theorem uuid_of_summaries
    (hsound : store.Sound) (clusterId : String) (summary : ClusterInfo)
    (hget : store.summaries.get? clusterId = some summary) : summary.uuid = clusterId := by
  rw [summaries, Keyed.get?_map] at hget
  obtain ⟨cluster, hcluster, rfl⟩ := Option.map_eq_some_iff.mp hget
  exact (hsound clusterId cluster hcluster).summary_uuid

theorem uuid_of_sessionsOf
    (hsound : store.Sound) (clusterId sessionId : String) (session : SessionEntry)
    (hget : (store.sessionsOf clusterId).get? sessionId = some session) :
    session.uuid = sessionId := by
  cases hcluster : store.clusters.get? clusterId with
  | none =>
    rw [sessionsOf, hcluster] at hget
    cases hget
  | some cluster =>
    rw [sessionsOf_of_get? hcluster] at hget
    exact (hsound clusterId cluster hcluster).sessions sessionId session hget

end Store

section Lists

variable (uuids : Nat → String) (clock : Nat → Instant) (s : Situation)

/-- The clusters are listed as their chronicles say. -/
structure ListsClusters (chronicle : String → List Deed) (listing : List ClusterInfo) : Prop where
  answers_iff : ∀ response,
    Rpc.getClusters.Answers uuids clock s ⟨⟩ response ↔ response = ⟨listing⟩
  ascending : (listing.map (·.uuid)).Pairwise (· < ·)
  complete : ∀ summary, summary ∈ listing ↔ Deed.summary? (chronicle summary.uuid) = some summary
  /-- Whatever order the clusters are found in, sorting them gives this listing. -/
  sorted : ∀ found : List ClusterInfo, found.Perm listing →
    found.mergeSort (fun summary other => summary.uuid ≤ other.uuid) = listing
  /-- A cluster that is asked for by its id is the one that is listed. -/
  info_iff : ∀ clusterId, Filled clusterId → ∀ response,
    Rpc.getClusterInfo.Answers uuids clock s ⟨clusterId⟩ response ↔
      ∃ summary ∈ listing, summary.uuid = clusterId ∧ response = ⟨some summary⟩

/-- The sessions of a cluster are listed as its chronicle says. -/
structure ListsSessions (clusterId : String) (deeds : List Deed) (listing : List SessionEntry) :
    Prop where
  answers_iff : ∀ response,
    Rpc.getSessions.Answers uuids clock s ⟨clusterId⟩ response ↔
      Deed.summary? deeds ≠ none ∧ response = ⟨listing⟩
  ascending : (listing.map (·.uuid)).Pairwise (· < ·)
  complete : ∀ session, session ∈ listing ↔ Deed.Lasts session deeds
  infobase_iff : ∀ infobaseId, Filled infobaseId → ∀ response,
    Rpc.getInfobaseSessions.Answers uuids clock s ⟨clusterId, infobaseId⟩ response ↔
      s.service.store.HasInfobase clusterId infobaseId ∧
        response = ⟨listing.filter fun session => session.infobaseId = infobaseId⟩

/-- The infobases of a cluster are listed as its chronicle says. -/
structure ListsInfobases (clusterId : String) (deeds : List Deed) (listing : List InfobaseShort) :
    Prop where
  answers_iff : ∀ response,
    Rpc.getShortInfobases.Answers uuids clock s ⟨clusterId⟩ response ↔
      Deed.summary? deeds ≠ none ∧ response = ⟨listing⟩
  stored : listing = (s.service.store.infobasesOf clusterId).map InfobaseInfo.short
  once : (listing.map (·.name)).Nodup
  in_order : listing.map (·.identity) = Deed.survivors deeds

end Lists

section Lists

variable {uuids : Nat → String} {clock : Nat → Instant} {s : Situation}

/-- Sorting what is found in any order gives the list in ascending order. -/
theorem mergeSort_eq_of_ascending
    {listing : List ClusterInfo} (hascending : (listing.map (·.uuid)).Pairwise (· < ·))
    {found : List ClusterInfo} (hfound : found.Perm listing) :
    found.mergeSort (fun summary other => summary.uuid ≤ other.uuid) = listing := by
  have hdistinct : (listing.map (·.uuid)).Nodup := hascending.imp ne_of_lt
  have hsorted : listing.Pairwise fun summary other =>
      decide (summary.uuid ≤ other.uuid) = true :=
    (List.pairwise_map.mp hascending).imp fun hlt => decide_eq_true hlt.le
  have htotal (summary other : ClusterInfo) :
      (decide (summary.uuid ≤ other.uuid) || decide (other.uuid ≤ summary.uuid)) = true := by
    simpa using le_total summary.uuid other.uuid
  have htrans (first second third : ClusterInfo)
      (hfirst : decide (first.uuid ≤ second.uuid) = true)
      (hsecond : decide (second.uuid ≤ third.uuid) = true) :
      decide (first.uuid ≤ third.uuid) = true :=
    decide_eq_true ((of_decide_eq_true hfirst).trans (of_decide_eq_true hsecond))
  have hperm : (found.mergeSort fun summary other => summary.uuid ≤ other.uuid).Perm listing :=
    (List.mergeSort_perm found _).trans hfound
  refine List.Perm.eq_of_pairwise ?_ (List.pairwise_mergeSort htrans htotal found) hsorted hperm
  intro summary other hsummary hother hle hge
  have huuid := le_antisymm (of_decide_eq_true hle) (of_decide_eq_true hge)
  exact List.inj_on_of_nodup_map hdistinct (hperm.subset hsummary) hother huuid

theorem exists_listsClusters
    (hsound : s.service.store.Sound) {chronicle : String → List Deed}
    (hfollows : ∀ clusterId, s.service.store.Follows clusterId (chronicle clusterId)) :
    ∃ listing, ListsClusters uuids clock s chronicle listing := by
  have hname := s.service.store.uuid_of_summaries hsound
  have hascending := Keyed.pairwise_map_toList hname
  refine ⟨s.service.store.summaries.toList, ?_, hascending, fun summary => ?_, ?_, ?_⟩
  · intro response
    rw [Rpc.answers_getClusters_iff, Store.summaries, Keyed.toList_map]
  · rw [Keyed.mem_toList_iff hname, Store.summaries, Keyed.get?_map, (hfollows _).summary]
  · intro found hfound
    exact mergeSort_eq_of_ascending hascending hfound
  · intro clusterId hfilled response
    rw [Rpc.answers_getClusterInfo_iff hfilled]
    constructor
    · rintro ⟨cluster, hcluster, rfl⟩
      have hsummary : s.service.store.summaries.get? clusterId = some cluster.summary := by
        rw [Store.summaries, Keyed.get?_map, hcluster]
        rfl
      have huuid := hname clusterId _ hsummary
      rw [← huuid] at hsummary
      exact ⟨cluster.summary, (Keyed.mem_toList_iff hname _).mpr hsummary, huuid, rfl⟩
    · rintro ⟨summary, hlisted, rfl, rfl⟩
      rw [Keyed.mem_toList_iff hname, Store.summaries, Keyed.get?_map] at hlisted
      obtain ⟨cluster, hcluster, hsummary⟩ := Option.map_eq_some_iff.mp hlisted
      exact ⟨cluster, hcluster, by rw [hsummary]⟩

section Cluster

variable {clusterId : String} {deeds : List Deed}

theorem listsSessions
    (hsound : s.service.store.Sound) (hfilled : Filled clusterId)
    (hfollows : s.service.store.Follows clusterId deeds) :
    ListsSessions uuids clock s clusterId deeds (s.service.store.sessionsOf clusterId).toList := by
  have hname := s.service.store.uuid_of_sessionsOf hsound clusterId
  refine ⟨fun response => ?_, Keyed.pairwise_map_toList hname, fun session => ?_, ?_⟩
  · rw [Rpc.answers_getSessions_iff hfilled, Ne, hfollows.summary?_eq_none_iff]
    cases hget : s.service.store.clusters.get? clusterId with
    | none => simp
    | some cluster => simp [Store.sessionsOf_of_get? hget]
  · rw [Keyed.mem_toList_iff hname, hfollows.session]
  · intro infobaseId hinfobase response
    rw [Rpc.answers_getInfobaseSessions_iff hfilled hinfobase]
    refine and_congr_right fun ⟨cluster, hget, _⟩ => ?_
    rw [Store.sessionsOf_of_get? hget]
    simp [hget]

theorem listsInfobases
    (hsound : s.service.store.Sound) (hfilled : Filled clusterId)
    (hfollows : s.service.store.Follows clusterId deeds) :
    ListsInfobases uuids clock s clusterId deeds
      ((s.service.store.infobasesOf clusterId).map InfobaseInfo.short) := by
  refine ⟨fun response => ?_, rfl, ?_, ?_⟩
  · rw [Rpc.answers_getShortInfobases_iff hfilled, Ne, hfollows.summary?_eq_none_iff]
    cases hget : s.service.store.clusters.get? clusterId with
    | none => simp
    | some cluster => simp [Store.infobasesOf_of_get? hget]
  · rw [List.map_map]
    cases hget : s.service.store.clusters.get? clusterId with
    | none => simp [Store.infobasesOf, hget]
    | some cluster =>
      rw [Store.infobasesOf_of_get? hget]
      exact (hsound clusterId cluster hget).shortNames_nodup
  · rw [List.map_map]
    exact hfollows.infobases

end Cluster

end Lists

namespace Traffic

/-- What the listings of a service tell about its configuration and its history. -/
structure Lists (uuids : Nat → String) (clock : Nat → Instant) (seed : StoreSeed) (start : Service)
    (history : List Occurrence) (s : Situation) : Prop where
  clusters : ∃ listing,
    ListsClusters uuids clock s (chronicle uuids · seed start history) listing
  sessions : ∀ clusterId, Filled clusterId → ∃ listing,
    ListsSessions uuids clock s clusterId (chronicle uuids clusterId seed start history) listing
  infobases : ∀ clusterId, Filled clusterId → ∃ listing,
    ListsInfobases uuids clock s clusterId (chronicle uuids clusterId seed start history) listing

/-- The listings of a service that was configured and that has served calls since then, in any
number and with their steps in any order. -/
theorem lists_after
    {uuids : Nat → String} {seed : StoreSeed} {start : Service}
    (hseed : Service.ofSeed uuids seed = .ok start) (history : List Occurrence)
    (clock : Nat → Instant) (moment : Nat) :
    Lists uuids clock seed start history ⟨(after uuids start history).service, moment⟩ := by
  have hfollows (clusterId : String) :
      (after uuids start history).Follows clusterId
        (chronicle uuids clusterId seed start history) :=
    follows_after hseed history clusterId
  have hsound := (hfollows "").sound
  refine ⟨?_, fun clusterId hfilled => ?_, fun clusterId hfilled => ?_⟩
  · exact exists_listsClusters hsound fun clusterId => (hfollows clusterId).follows
  · exact ⟨_, listsSessions hsound hfilled (hfollows clusterId).follows⟩
  · exact ⟨_, listsInfobases hsound hfilled (hfollows clusterId).follows⟩

/-- A cluster with an infobase and a session. -/
def stockSeed : StoreSeed :=
  ⟨[⟨"c-1", none, none, none, [⟨some "ib-0", "stock", none⟩], ["s-2"], [], []⟩], []⟩

/-- A session is terminated while others are added and an infobase is created. -/
def busyDay : List Occurrence :=
  [.arrives .terminateSession ⟨"c-1", "s-2"⟩, .arrives .createInfobase (creationOf "trade"),
      .addSession "c-9" "s-3", .addInfobaseSession "c-1" ⟨"s-1", "ib-0", "clerk", ""⟩] ++
    (List.replicate 20 [.proceeds 0 false ⟨0, 0⟩, .proceeds 1 false ⟨0, 0⟩]).flatten

theorem lists_after_busyDay :
    ∃ start, Service.ofSeed (fun _ => "ib-1") stockSeed = .ok start ∧
      chronicle (fun _ => "ib-1") "c-1" stockSeed start busyDay =
        [.opens ⟨"c-1", "localhost", 1541, "c-1"⟩, .admits (.unbound "s-2"),
          .creates ⟨"ib-0", "stock"⟩, .admits ⟨"s-1", "ib-0", "clerk", ""⟩, .ends "s-2",
          .creates ⟨"ib-1", "trade"⟩] ∧
      Lists (fun _ => "ib-1") (fun _ => ⟨0, 0⟩) stockSeed start busyDay
        ⟨(after (fun _ => "ib-1") start busyDay).service, 0⟩ := by
  refine ⟨_, rfl, ?_, ?_⟩
  · decide +kernel
  · exact lists_after rfl busyDay (fun _ => ⟨0, 0⟩) 0

end Traffic

end InfobaseGateway
