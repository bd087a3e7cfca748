import InfobaseGateway.Proofs.Operation.Contract
import InfobaseGateway.Proofs.Operation.Faults
import InfobaseGateway.Proofs.Operation.Withdrawal

/-!
# The infobase that a creation names

A creation has two ways to succeed: it finds an infobase of the requested name in the listing that
answers its lookup, or it makes one and gets the record back. On both ways it tells its caller
success and the requested name. The id is another matter. A record without one fails the creation,
while an entry of the listing is believed as it is.
-/

namespace InfobaseGateway

variable {σ : Type}

/-! ## Runs that come to a request -/

/-- How a run ends with a result: with a failure, or with what the rest of the program makes of the
reply to the request. -/
def Run.EndsBy {α : Type} (S : Surroundings σ) (failure : α → Prop) (request : EndpointRequest)
    (onwards : Except String EndpointResponse → Operation α → Prop) (run : Run σ α)
    (result : α) : Prop :=
  failure result ∨
    ∃ cancelled reply rest state, onwards reply rest ∧
      Step.send request cancelled (some reply) ∈ run.steps ∧
      (rest.run S state).outcome = some result ∧
      ∀ step ∈ (rest.run S state).steps, step ∈ run.steps

section Comes

variable {α : Type} {S : Surroundings σ} {failure : α → Prop} {request : EndpointRequest}
  {onwards : Except String EndpointResponse → Operation α → Prop} {result : α}

theorem Run.EndsBy.after
    {run : Run σ α} (h : run.EndsBy S failure request onwards result) (first : List Step) :
    (run.after first).EndsBy S failure request onwards result := by
  rcases h with hfailure | ⟨cancelled, reply, rest, state, honwards, hsent, hlast, hsteps⟩
  · exact .inl hfailure
  · exact .inr ⟨cancelled, reply, rest, state, honwards, List.mem_append_right first hsent, hlast,
      fun step hstep => List.mem_append_right first (hsteps step hstep)⟩

/-- A program that only ends with failures does not end otherwise. -/
theorem Operation.Ends.of_run
    {p : Operation α} (h : p.Ends failure) {s : σ}
    (hresult : (p.run S s).outcome = some result) : failure result := by
  obtain ⟨-, told, houtcome, hfailure⟩ := h.run S s
  cases houtcome.symm.trans hresult
  exact hfailure

theorem Operation.Comes.endsBy
    {p : Operation α} (h : p.Comes failure request onwards) {s : σ}
    (hresult : (p.run S s).outcome = some result) :
    (p.run S s).EndsBy S failure request onwards result := by
  induction h generalizing s with
  | note n hnext ih => exact (ih hresult).after _
  | clock hnext ih => exact (ih _ hresult).after _
  | @checkpoint next hwithdrawn hnext ih =>
    simp only [Operation.run] at hresult ⊢
    cases hcancelled : S.cancelled s with
    | true =>
      rw [hcancelled] at hresult
      exact .inl (hwithdrawn.of_run hresult)
    | false =>
      rw [hcancelled] at hresult
      exact (ih hresult).after _
  | @acquire abandoned next hfailed hnext ih =>
    simp only [Operation.run] at hresult ⊢
    cases hreply : (S.acquire s).1.reply with
    | none =>
      simp only [hreply] at hresult
      cases hresult
    | some reply =>
      simp only [hreply] at hresult
      cases reply with
      | error text => exact .inl ((hfailed text).of_run hresult)
      | ok => exact (ih hresult).after _
  | @send abandoned next hnext =>
    simp only [Operation.run] at hresult ⊢
    cases hreply : (S.send request s).1.reply with
    | none =>
      simp only [hreply] at hresult
      cases hresult
    | some reply =>
      simp only [hreply] at hresult
      exact .inr ⟨_, reply, next reply, _, hnext reply, List.mem_cons_self, hresult,
        fun step hstep => List.mem_append_right _ hstep⟩

end Comes

/-! ## The two ways to succeed -/

namespace CreateInfobase

/-- The lookup was answered with a listing whose infobase of the requested name has the id. -/
def FoundAs (request : CreateInfobase) (infobaseId : String) (steps : List Step) : Prop :=
  ∃ cancelled infobases existing,
    Step.send (.getInfobasesShort request.clusterId) cancelled
        (some (.ok (.infobaseSummaries infobases))) ∈ steps ∧
      request.existing? infobases = some existing ∧ existing.uuid = infobaseId

/-- The second request was answered with a record that has the id. -/
def MadeAs (request : CreateInfobase) (infobaseId : String) (steps : List Step) : Prop :=
  ∃ cancelled record,
    Step.send (.createInfobase request.info) cancelled (some (.ok (.infobase record))) ∈ steps ∧
      record.uuid = some infobaseId

/-- What a creation tells that succeeds. -/
structure Names (request : CreateInfobase) (steps : List Step) (outcome : LifecycleOutcome) :
    Prop where
  success : outcome.success = true
  name : outcome.name = some request.name
  infobaseId :
    request.MadeAs outcome.infobaseId steps ∧ outcome.infobaseId ≠ "" ∨
      request.FoundAs outcome.infobaseId steps

variable {request : CreateInfobase}

theorem Names.of_mem
    {few many : List Step} {outcome : LifecycleOutcome} (h : request.Names few outcome)
    (hsteps : ∀ step ∈ few, step ∈ many) : request.Names many outcome where
  success := h.success
  name := h.name
  infobaseId := by
    rcases h.infobaseId with
      ⟨⟨cancelled, record, hsent, huuid⟩, hnonempty⟩ |
      ⟨cancelled, infobases, existing, hsent, hexisting, huuid⟩
    · exact .inl ⟨⟨cancelled, record, hsteps _ hsent, huuid⟩, hnonempty⟩
    · exact .inr ⟨cancelled, infobases, existing, hsteps _ hsent, hexisting, huuid⟩

theorem eq_infobase_of_receive
    {info record : InfobaseInfo} {reply : Except String EndpointResponse}
    (hreceive : Dispatch.receive (.createInfobase info) reply = .ok record) :
    reply = .ok (.infobase record) := by
  cases reply with
  | error text => cases hreceive
  | ok response =>
    cases response with
    | infobase received =>
      cases hreceive
      rfl
    | _ => cases hreceive

/-- A creation on its way to its second request tells what the record says that it gets back. -/
theorem names_of_pending
    {p : Operation (Except GatewayError LifecycleOutcome)} (h : request.procedure.Pending id p)
    (S : Surroundings σ) (s : σ) {outcome : LifecycleOutcome}
    (hok : (p.run S s).outcome = some (.ok outcome)) : request.Names (p.run S s).steps outcome := by
  rcases Operation.Comes.endsBy h hok with
    ⟨error, hfailed⟩ | ⟨cancelled, reply, rest, state, hends, hsent, hlast, -⟩
  · cases hfailed
  · obtain ⟨record, hreceive, hending⟩ :=
      Procedure.exists_content_of_conclusion_eq_ok (hends.of_run hlast).symm
    cases eq_infobase_of_receive hreceive
    have hended : request.ending record = .ok outcome := hending
    rcases request.ending_cases record with ⟨infobaseId, huuid, hnonempty, hok⟩ | hmissing
    · cases hok.symm.trans hended
      exact ⟨rfl, rfl, .inl ⟨⟨cancelled, record, hsent, huuid⟩, hnonempty⟩⟩
    · cases hmissing.symm.trans hended

/-- A creation on its way to its lookup tells what the listing says or what it makes. -/
theorem names_of_looking
    {p : Operation (Except GatewayError LifecycleOutcome)}
    (h : request.procedure.Looking id request.search p) (S : Surroundings σ) (s : σ)
    {outcome : LifecycleOutcome} (hok : (p.run S s).outcome = some (.ok outcome)) :
    request.Names (p.run S s).steps outcome := by
  rcases Operation.Comes.endsBy h hok with
    ⟨error, hfailed⟩ | ⟨cancelled, reply, rest, state, hlooked, hsent, hlast, hsteps⟩
  · cases hfailed
  · rw [Procedure.LookedUp] at hlooked
    cases hclosing : request.search.closing? reply with
    | none =>
      rw [hclosing] at hlooked
      exact (names_of_pending hlooked S state hlast).of_mem hsteps
    | some closing =>
      rw [hclosing] at hlooked
      have htold := hlooked.of_run hlast
      rcases Search.closing?_cases hclosing with
        ⟨infobases, hreceive, hfinding⟩ | ⟨error, -, -, rfl⟩
      · obtain ⟨existing, hexisting, rfl⟩ := Option.map_eq_some_iff.mp hfinding
        cases htold
        cases eq_of_receive_getInfobasesShort hreceive
        have hname : existing.name = request.name := by
          simpa using List.find?_some hexisting
        exact ⟨rfl, congrArg some hname,
          .inr ⟨cancelled, infobases, existing, hsent, hexisting, rfl⟩⟩
      · cases htold

/-- Whatever provider and endpoint reply and whenever the caller withdraws: a creation that succeeds
tells success and the requested name. The id that it tells is not empty if the creation made the
infobase; if it found it, the id is the one of the listing, empty or not. -/
theorem names_perform
    (request : CreateInfobase) (S : Surroundings σ) (s : σ) {outcome : LifecycleOutcome}
    (hok : (request.perform.outcome.run S s).outcome = some (.ok outcome)) :
    request.Names (request.perform.outcome.run S s).steps outcome := by
  by_cases hvalid : request.Valid
  · exact names_of_looking (looking_perform hvalid) S s hok
  · have hrefused : (GatewayTask.create request).Refused (S.clock s).1 := .inl hvalid
    obtain ⟨-, error, hfailed⟩ := GatewayTask.endsAtOnce_of_refused hrefused
    cases hfailed.symm.trans hok

end CreateInfobase

/-- Surroundings whose endpoint answers every request with the same listing. -/
def Surroundings.listing (infobases : List InfobaseShort) : Surroundings Unit where
  cancelled _ := false
  clock _ := (⟨0, 0⟩, ())
  acquire _ := ({ reply := some (.ok ()) }, ())
  send _ _ := ({ reply := some (.ok (.infobaseSummaries infobases)) }, ())

namespace CreateInfobase

/-- A creation that finds its infobase. -/
theorem names_perform_found :
    let request := bare "c-1" "accounting"
    let S := Surroundings.listing [⟨"ib-1", "accounting", ""⟩]
    ∃ outcome, (request.perform.outcome.run S ()).outcome = some (.ok outcome) ∧
      request.Names (request.perform.outcome.run S ()).steps outcome := by
  refine ⟨⟨"ib-1", some "accounting", _, true⟩, rfl, ?_⟩
  exact names_perform _ _ () rfl

/-- A valid creation that finds its infobase listed without an id succeeds and names no infobase. -/
theorem empty_id_of_found :
    let request := bare "c-1" "accounting"
    let S := Surroundings.listing [⟨"", "accounting", ""⟩]
    request.Valid ∧
      ¬∀ outcome, (request.perform.outcome.run S ()).outcome = some (.ok outcome) →
        outcome.success = true ∧ outcome.name = some request.name ∧ outcome.infobaseId ≠ "" := by
  have hvalidate : (bare "c-1" "accounting").validate = .ok .postgreSql := rfl
  refine ⟨(exists_validate_eq_ok_iff _).mp ⟨_, hvalidate⟩, fun hclaim => ?_⟩
  exact (hclaim ⟨"", some "accounting", _, true⟩ rfl).2.2 rfl

end CreateInfobase

end InfobaseGateway
