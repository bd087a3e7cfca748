import InfobaseGateway.Proofs.Service.Exchange
import InfobaseGateway.Proofs.Store.Holding

/-!
# Creations at the service

What the two requests of a creation come to, each for itself. The lookup finds the infobase that the
cluster holds under the name, or leads to the second request. That one makes the infobase if the
name is still free, and is rejected if somebody else took the name in between.
-/

namespace InfobaseGateway.CreateInfobase

/-- What a creation tells its caller about an infobase that it found. -/
def foundAs (request : CreateInfobase) (infobaseId : String) : LifecycleOutcome :=
  ⟨infobaseId, some request.name, "Infobase already exists (idempotent operation)", true⟩

variable {β : Type} {uuids : Nat → String} {service : Service} {cluster : Cluster}
  {request : CreateInfobase} {tell : Except GatewayError LifecycleOutcome → β}

/-! ## The lookup -/

section Lookup

variable {rest : Operation β}

/-- The lookup sees a name exactly if the cluster has it, because no infobase is created without
one. -/
theorem existing?_map_short_eq_none_iff
    (hname : request.name ≠ "") (cluster : Cluster) :
    request.existing? (cluster.infobases.map InfobaseInfo.short) = none ↔
      cluster.hasName request.name = false := by
  have hshort (infobase : InfobaseInfo) :
      infobase.short.name ≠ request.name ↔ infobase.name ≠ some request.name :=
    not_congr (infobase.short_name_eq_iff hname)
  simp only [existing?_eq_none_iff, List.forall_mem_map, hshort, Cluster.hasName,
    List.any_eq_false, decide_eq_true_eq, ne_eq]

theorem answer_lookup (uuids : Nat → String) (service : Service) (request : CreateInfobase) :
    (service.answer uuids request.search.envelope).2 = service := by
  rcases service.answer_cases uuids (.getInfobasesShort request.clusterId) with
    ⟨response, store, hhandle, hanswer⟩ | ⟨rejection, -, hanswer⟩
  · have hsame : store = service.store := Store.eq_of_handle_eq_ok rfl hhandle
    rw [search, hanswer, hsame]
    rfl
  · rw [search, hanswer]

theorem closing?_lookup
    (uuids : Nat → String) (hget : service.store.clusters.get? request.clusterId = some cluster) :
    request.search.closing? (service.reply uuids request.search.envelope) =
      request.search.finding? (cluster.infobases.map InfobaseInfo.short) := by
  have hreply :
      service.reply uuids request.search.envelope =
        .ok (.infobaseSummaries (cluster.infobases.map InfobaseInfo.short)) := by
    rw [Service.reply, search,
      Service.answer_of_handle_eq_ok (Store.handle_getInfobasesShort _ hget)]
    rfl
  rw [hreply]
  rfl

/-- The lookup finds what the cluster holds. -/
theorem ends_of_holds
    (hget : service.store.clusters.get? request.clusterId = some cluster)
    (hsound : cluster.Sound request.clusterId) (hname : request.name ≠ "") {infobaseId : String}
    (hholds : cluster.Holds infobaseId request.name)
    (h : request.procedure.LookedUp tell request.search
      (service.reply uuids request.search.envelope) rest) :
    rest.Ends fun told => told = tell (.ok (request.foundAs infobaseId)) := by
  obtain ⟨existing, hexisting, huuid, hsame⟩ := hsound.existing?_of_holds hname hholds
  have hfound : foundOutcome existing = request.foundAs infobaseId := by
    rw [foundOutcome, foundAs, huuid, hsame]
  rw [Procedure.LookedUp, closing?_lookup uuids hget] at h
  simp only [search, hexisting, Option.map_some, hfound] at h
  exact h

/-- If the name is free, the lookup leads to the second request. -/
theorem pending_of_free
    (hget : service.store.clusters.get? request.clusterId = some cluster)
    (hname : request.name ≠ "") (hfree : cluster.hasName request.name = false)
    (h : request.procedure.LookedUp tell request.search
      (service.reply uuids request.search.envelope) rest) :
    request.procedure.Pending tell rest := by
  have hnone := (existing?_map_short_eq_none_iff hname cluster).mpr hfree
  rw [Procedure.LookedUp, closing?_lookup uuids hget] at h
  simp only [search, hnone, Option.map_none] at h
  exact h

end Lookup

/-! ## The second request -/

/-- The service makes the infobase under a free name. -/
theorem conclusion_of_free
    (hget : service.store.clusters.get? request.clusterId = some cluster)
    (hfree : cluster.hasName request.name = false) (hnonempty : uuids service.issued ≠ "") :
    request.procedure.conclusion (service.reply uuids request.procedure.envelope) =
        .ok (request.createdOutcome (uuids service.issued)) ∧
      (service.answer uuids request.procedure.envelope).2.store =
        service.store.putCluster request.clusterId
          (cluster.append { request.info with uuid := some (uuids service.issued) }) := by
  have hname : request.info.name = some request.name := rfl
  have hhandle : service.store.handle (uuids service.issued) request.procedure.envelope = .ok _ :=
    Store.handle_createInfobase (uuids service.issued) hget hname hfree
  rw [Service.reply, Service.answer_of_handle_eq_ok hhandle]
  exact ⟨if_neg hnonempty, rfl⟩

/-- The service rejects a name that is taken, and its text quotes the name. -/
theorem conclusion_of_taken
    (hget : service.store.clusters.get? request.clusterId = some cluster)
    (htaken : cluster.hasName request.name = true) :
    request.procedure.conclusion (service.reply uuids request.procedure.envelope) =
        .error (.endpoint (.ofText (Rejection.nameTaken request.name).message)) ∧
      (service.answer uuids request.procedure.envelope).2 = service := by
  have hhandle :
      service.store.handle (uuids service.issued) request.procedure.envelope =
        .error (.nameTaken request.name) := by
    have hcluster := Store.cluster_of_get? hget
    simp [procedure, Store.handle, info, hcluster, bind, Except.bind, htaken]
  rw [Service.reply, Service.answer_of_handle_eq_error hhandle]
  exact ⟨rfl, rfl⟩

/-- A creation whose second request succeeded has made its infobase. -/
theorem holds_of_conclusion
    {outcome : LifecycleOutcome}
    (hok :
      request.procedure.conclusion (service.reply uuids request.procedure.envelope) = .ok outcome) :
    (service.answer uuids request.procedure.envelope).2.store.Holds request.clusterId
      outcome.infobaseId request.name := by
  rcases service.answer_cases uuids request.procedure.envelope with
    ⟨response, store, hhandle, hanswer⟩ | ⟨rejection, -, hanswer⟩
  · obtain ⟨rfl, old, name, -, -, hreplaces⟩ := Store.created_of_handle_eq_ok hhandle
    rw [Service.reply, hanswer] at hok
    rw [hanswer]
    by_cases hempty : uuids service.issued = ""
    · have hfails := hok.symm.trans (if_pos hempty)
      cases hfails
    · have hmade := hok.symm.trans (if_neg hempty)
      cases hmade
      refine ⟨_, hreplaces.new_stored, _, List.mem_append_right _ List.mem_cons_self, rfl, rfl⟩
  · rw [Service.reply, hanswer] at hok
    cases hok

/-! ## Whole creations -/

section Exchange

variable {course : Course} {s : Situation}

/-- If the name is free, the second request can only fail because the cluster is not there. -/
theorem exchanged_asking
    (huuids : ∀ n, uuids n ≠ "")
    (hfree : ∀ cluster, s.service.store.clusters.get? request.clusterId = some cluster →
      cluster.hasName request.name = false) :
    Exchanged uuids course (.createInfobase request.info) s.service
      (request.procedure.asking.eval uuids course s) := by
  have hname : request.info.name = some request.name := rfl
  refine request.procedure.exchanged_asking ?_ ?_
  · intro rejection hhandle
    by_cases hcluster : s.service.store.HasCluster request.clusterId
    · obtain ⟨cluster, hget⟩ := hcluster
      have hmade := Store.handle_createInfobase (uuids s.service.issued) hget hname
        (hfree cluster hget)
      cases hmade.symm.trans hhandle
    · have hmissing := Store.handle_of_not_hasCluster (uuids s.service.issued)
        (.createInfobase request.info) rfl hcluster
      cases hmissing.symm.trans hhandle
      exact id
  · intro response store hhandle
    obtain ⟨rfl, -⟩ := Store.created_of_handle_eq_ok hhandle
    exact ⟨_, if_neg (huuids s.service.issued)⟩

theorem eval_program_of_stays
    (request : CreateInfobase) (hstays : course.withdrawn s.moment = false) :
    request.procedure.program.eval uuids course s =
      (request.search.onwards request.procedure.asking
        (s.service.reply uuids request.search.envelope)).eval uuids course
          ⟨s.service, s.moment + 1 + 1⟩ := by
  have hsame := answer_lookup uuids s.service request
  rw [Procedure.program, Procedure.eval_looking_of_stays _ _ _ hstays]
  simp only [Procedure.acquiring, Procedure.searching, procedure, Operation.eval,
    Situation.later_service, hsame]
  rfl

/-- A creation ends with its lookup, if that finds the infobase, or with its exchange. -/
theorem found_or_exchanged_program
    (huuids : ∀ n, uuids n ≠ "") (course : Course) (s : Situation) (hname : request.name ≠ "") :
    (s.service.store.HasCluster request.clusterId ∧
        ∃ result after, request.procedure.program.eval uuids course s = (.ok result, after) ∧
          after.service = s.service) ∨
      Exchanged uuids course (.createInfobase request.info) s.service
        (request.procedure.program.eval uuids course s) := by
  cases hwithdrawn : course.withdrawn s.moment with
  | true => exact .inr (Procedure.exchanged_of_withdrawn _ _ _ hwithdrawn)
  | false =>
    rw [request.eval_program_of_stays hwithdrawn]
    by_cases hcluster : s.service.store.HasCluster request.clusterId
    · obtain ⟨cluster, hget⟩ := id hcluster
      rw [Search.onwards, closing?_lookup uuids hget]
      simp only [search]
      cases hexisting : request.existing? (cluster.infobases.map InfobaseInfo.short) with
      | some existing =>
        obtain ⟨after, heval, hsame⟩ := Closing.eval_program
          ⟨{ events := [request.found existing] }, .ok (foundOutcome existing)⟩ uuids course
          ⟨s.service, s.moment + 1 + 1⟩
        exact .inl ⟨hcluster, _, after, heval, hsame⟩
      | none =>
        have hfree := (existing?_map_short_eq_none_iff hname cluster).mp hexisting
        refine .inr (exchanged_asking (s := ⟨s.service, s.moment + 1 + 1⟩) huuids ?_)
        intro other hother
        cases hget.symm.trans hother
        exact hfree
    · have hmissing (envelope : EndpointRequest)
          (hid : envelope.clusterId? = some request.clusterId) :=
        Store.handle_of_not_hasCluster (uuids s.service.issued) envelope hid hcluster
      rw [Search.onwards, Service.reply, Service.answer_of_handle_eq_error (hmissing _ rfl),
        Except.mapError, Search.closing?_error]
      refine .inr ?_
      by_cases hcode : categoryOf (Rejection.unknownCluster request.clusterId).message = .notFound
      · simp only [if_pos hcode]
        refine exchanged_asking (s := ⟨s.service, s.moment + 1 + 1⟩) huuids ?_
        intro cluster hget
        exact absurd ⟨cluster, hget⟩ hcluster
      · simp only [if_neg hcode]
        obtain ⟨after, heval, hsame⟩ := (request.search.failure _).eval_program uuids course
          ⟨s.service, s.moment + 1 + 1⟩
        rw [heval]
        exact .rejected (hmissing _ rfl) id hsame

end Exchange

end InfobaseGateway.CreateInfobase
