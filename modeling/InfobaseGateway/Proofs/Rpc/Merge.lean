import InfobaseGateway.Proofs.Infobase.Patch
import InfobaseGateway.Proofs.Operation.Delivery
import InfobaseGateway.Proofs.Rpc.Gone
import InfobaseGateway.Proofs.Rpc.Race

/-!
# Changes of one infobase that overlap

Updates, locks and unlocks of the same infobase may go on side by side. Each of them delivers at
most one patch, in one request, and the service applies a patch in the step in which it answers it.
So whatever the order of the steps, the record in the end is the first one with the patches that
were sent applied in the order of their sends. The calls that succeed are the ones whose patches
were sent; a call that fails has contributed nothing.
-/

namespace InfobaseGateway

/-! ## Calls that deliver a patch -/

namespace Rpc

/-- The methods that change an infobase by a patch. -/
def changing : List Rpc :=
  [updateInfobase, lockInfobase, unlockInfobase]

/-- The message converts, and the patch is the one that its task sends. -/
def Carries (rpc : Rpc) (message : rpc.Request) (patch : InfobaseInfo) : Prop :=
  ∃ plan, rpc.plan message = .ok plan ∧ plan.task.envelope = .updateInfobase patch

variable {rpc : Rpc} {message : rpc.Request}

theorem exists_carries_of_changing
    (hchanging : rpc ∈ changing) {plan : rpc.Plan} (hplan : rpc.plan message = .ok plan) :
    ∃ patch, plan.task.envelope = .updateInfobase patch := by
  cases rpc with
  | updateInfobase | lockInfobase =>
    obtain ⟨request, -, rfl⟩ := exists_of_map_eq_ok hplan
    exact ⟨_, rfl⟩
  | unlockInfobase =>
    cases hplan
    exact ⟨_, rfl⟩
  | _ => simp [changing] at hchanging

theorem delivers_serve {patch : InfobaseInfo} (hcarries : rpc.Carries message patch) :
    (rpc.serve message).Delivers patch := by
  obtain ⟨plan, hplan, henvelope⟩ := hcarries
  have htask := GatewayTask.delivers_perform henvelope
  rw [serve, outcome_handle, hplan, Chain.serve_eq_wayBack]
  refine .note _ (.clock fun _ => .note _ (.note _ (.clock fun start => .note _ ?_)))
  rw [perform?, Operation.bind_bind]
  have hback (told : Except Status rpc.Response) :=
    Chain.ends_wayBack (rpc.call message) start told
  refine Operation.Delivers.bind htask (fun error => ?_) (fun value => ?_)
  · refine (hback (plan.answer (.error error))).mono ?_
    rintro _ rfl
    exact ⟨_, rfl⟩
  · refine (hback (plan.answer (.ok value))).mono ?_
    rintro _ rfl
    exact ⟨_, rfl⟩

end Rpc

namespace OpenCall

/-- The request that the next step of a call sends, if it sends one. -/
def sending? : OpenCall → Option EndpointRequest
  | ⟨_, _, .send request _ _⟩ => some request
  | _ => none

/-- A call that only succeeds any more. -/
def Succeeds (call : OpenCall) : Prop :=
  call.rest.Ends fun told => ∃ response, told = .ok response

/-- A call about the infobase that fails, or is on its way to deliver its patch. -/
def MayDeliver (clusterId infobaseId : String) (call : OpenCall) : Prop :=
  (call.rest.Ends fun told => ∃ status, told = .error status) ∨
    ∃ patch, call.rpc.Carries call.message patch ∧ patch.clusterId = clusterId ∧
      patch.uuid = some infobaseId ∧ call.rest.Delivers patch

variable {clusterId infobaseId : String}

theorem mayDeliver_start
    {rpc : Rpc} {message : rpc.Request} (hchanging : rpc ∈ Rpc.changing)
    (hconcerns : rpc.Concerns clusterId infobaseId message) :
    (start rpc message).MayDeliver clusterId infobaseId := by
  cases hplan : rpc.plan message with
  | error error =>
    refine .inl ((Rpc.ends_serve_of_plan_eq_error hplan).mono ?_)
    rintro _ rfl
    exact ⟨_, rfl⟩
  | ok plan =>
    obtain ⟨patch, henvelope⟩ := Rpc.exists_carries_of_changing hchanging hplan
    have hids := Rpc.concerns_envelope hconcerns hplan
    rw [henvelope] at hids
    exact .inr ⟨patch, ⟨plan, hplan, henvelope⟩, hids.1, hids.2,
      Rpc.delivers_serve ⟨plan, hplan, henvelope⟩⟩

section Step

variable {uuids : Nat → String} {withdrawn : Bool} {now : Instant} {call : OpenCall}
  {service : Service}

/-- What only ends sends nothing. -/
theorem sending?_of_ends
    {P : Except Status call.rpc.Response → Prop} (h : call.rest.Ends P) :
    call.sending? = none := by
  obtain ⟨rpc, message, rest⟩ := call
  have hrest : rest.Ends P := h
  cases hrest with
  | done | note | clock => rfl

theorem Succeeds.next (h : call.Succeeds) :
    (call.next uuids withdrawn now service).Succeeds ∧
      call.serviceAfter uuids withdrawn now service = service :=
  Operation.Ends.step h

/-- A step of a call that may deliver brings it closer, or makes it fail, or delivers its patch. -/
theorem MayDeliver.next
    (h : call.MayDeliver clusterId infobaseId) {record : InfobaseInfo}
    (hfound : service.store.infobase? clusterId infobaseId = some record) :
    (call.sending? = none ∧
        (call.next uuids withdrawn now service).MayDeliver clusterId infobaseId ∧
        call.serviceAfter uuids withdrawn now service = service) ∨
      ∃ patch, call.sending? = some (.updateInfobase patch) ∧
        call.rpc.Carries call.message patch ∧
        (call.next uuids withdrawn now service).Succeeds ∧
        (call.serviceAfter uuids withdrawn now service).store.infobase? clusterId infobaseId =
          some (record.patchedBy patch) := by
  rcases h with hfails | ⟨patch, hcarries, hcluster, huuid, hdelivers⟩
  · obtain ⟨hlater, hsame⟩ := Operation.Ends.step hfails
    exact .inl ⟨sending?_of_ends hfails, .inl hlater, hsame⟩
  · obtain ⟨rpc, message, rest⟩ := call
    have hcloser {rest' : Operation (Except Status rpc.Response)} (hrest' : rest'.Delivers patch) :
        (⟨rpc, message, rest'⟩ : OpenCall).MayDeliver clusterId infobaseId :=
      .inr ⟨patch, hcarries, hcluster, huuid, hrest'⟩
    have hrest : rest.Delivers patch := hdelivers
    cases hrest with
    | done hresult => exact .inl ⟨rfl, .inl (.done hresult), rfl⟩
    | note n hnext => exact .inl ⟨rfl, hcloser hnext, rfl⟩
    | clock hnext => exact .inl ⟨rfl, hcloser (hnext now), rfl⟩
    | checkpoint hnext => exact .inl ⟨rfl, hcloser (hnext withdrawn), rfl⟩
    | acquire hnext => exact .inl ⟨rfl, hcloser (hnext (.ok ())), rfl⟩
    | send hnext =>
      subst hcluster
      obtain ⟨store, hhandle, hstored⟩ :=
        Store.handle_updateInfobase huuid hfound (uuids service.issued)
      have hanswer := Service.answer_of_handle_eq_ok hhandle
      refine .inr ⟨patch, rfl, hcarries, ?_, ?_⟩
      · refine hnext _ (record.patchedBy patch) ?_
        rw [hanswer]
        rfl
      · show ((service.answer uuids (.updateInfobase patch)).2).store.infobase? _ _ = _
        rw [hanswer]
        exact hstored

end Step

end OpenCall

/-! ## What a traffic sends -/

/-- An occurrence among changes of one infobase: another change comes in, or a call takes a step,
and its caller may withdraw. -/
def Occurrence.Changes (clusterId infobaseId : String) : Occurrence → Prop
  | arrives rpc message => rpc ∈ Rpc.changing ∧ rpc.Concerns clusterId infobaseId message
  | proceeds _ _ _ => True
  | _ => False

namespace Traffic

/-- The request that an occurrence sends, with the position of its call. -/
def sent? (traffic : Traffic) : Occurrence → Option (Nat × EndpointRequest)
  | .proceeds position _ _ =>
    (traffic.calls[position]?).bind fun call =>
      call.sending?.map fun request => (position, request)
  | _ => none

/-- The requests that a history sends, in the order of their sends. -/
def sends (uuids : Nat → String) : Traffic → List Occurrence → List (Nat × EndpointRequest)
  | _, [] => []
  | traffic, occurrence :: later =>
    (traffic.sent? occurrence).toList ++ sends uuids (traffic.next uuids occurrence) later

/-- The patches, with the positions of their calls, are the ones that were delivered to the
infobase, and all other calls may still deliver theirs. -/
structure Merged (clusterId infobaseId : String) (record : InfobaseInfo)
    (patches : List (Nat × InfobaseInfo)) (traffic : Traffic) : Prop where
  stored : traffic.service.store.infobase? clusterId infobaseId =
    some (record.patchedByAll (patches.map Prod.snd))
  once : (patches.map Prod.fst).Nodup
  delivered : ∀ position patch, (position, patch) ∈ patches →
    ∃ call, traffic.calls[position]? = some call ∧ call.rpc.Carries call.message patch ∧
      call.Succeeds
  others : ∀ position call, position ∉ patches.map Prod.fst →
    traffic.calls[position]? = some call → call.MayDeliver clusterId infobaseId

section Next

variable {uuids : Nat → String} {clusterId infobaseId : String} {record : InfobaseInfo}
  {patches : List (Nat × InfobaseInfo)} {traffic : Traffic}

theorem Merged.arrives
    (h : traffic.Merged clusterId infobaseId record patches) {call : OpenCall}
    (hcall : call.MayDeliver clusterId infobaseId) :
    Merged clusterId infobaseId record patches ⟨traffic.service, traffic.calls ++ [call]⟩ where
  stored := h.stored
  once := h.once
  delivered position patch hmem := by
    obtain ⟨placed, hget, hplaced⟩ := h.delivered position patch hmem
    obtain ⟨hlength, -⟩ := List.getElem?_eq_some_iff.mp hget
    exact ⟨placed, (List.getElem?_append_left hlength).trans hget, hplaced⟩
  others position placed hother hget := by
    by_cases hlength : position < traffic.calls.length
    · rw [List.getElem?_append_left hlength] at hget
      exact h.others position placed hother hget
    · rw [List.getElem?_append_right (Nat.not_lt.mp hlength)] at hget
      have hlast : placed = call := List.mem_singleton.mp (List.mem_of_getElem? hget)
      rw [hlast]
      exact hcall

/-- A call takes a step that sends nothing and leaves the service alone. -/
theorem Merged.proceeds
    (h : traffic.Merged clusterId infobaseId record patches)
    {position : Nat} {call later : OpenCall}
    (hcall : traffic.calls[position]? = some call)
    (hkeeps : ∀ patch, call.rpc.Carries call.message patch → call.Succeeds →
      later.rpc.Carries later.message patch ∧ later.Succeeds)
    (hmay : position ∉ patches.map Prod.fst → later.MayDeliver clusterId infobaseId) :
    Merged clusterId infobaseId record patches
      ⟨traffic.service, traffic.calls.set position later⟩ where
  stored := h.stored
  once := h.once
  delivered place patch hmem := by
    obtain ⟨placed, hget, hcarries, hsucceeds⟩ := h.delivered place patch hmem
    by_cases hplace : place = position
    · subst hplace
      cases hcall.symm.trans hget
      obtain ⟨hlength, -⟩ := List.getElem?_eq_some_iff.mp hget
      exact ⟨later, List.getElem?_set_self hlength, hkeeps patch hcarries hsucceeds⟩
    · exact ⟨placed, (List.getElem?_set_ne (Ne.symm hplace)).trans hget, hcarries, hsucceeds⟩
  others place placed hother hget := by
    rcases getElem?_set_cases hget with ⟨rfl, rfl⟩ | ⟨-, hold⟩
    · exact hmay hother
    · exact h.others place placed hother hold

/-- A call takes the step that delivers its patch. -/
theorem Merged.delivers
    (h : traffic.Merged clusterId infobaseId record patches)
    {position : Nat} {call later : OpenCall}
    {patch : InfobaseInfo} {service : Service}
    (hcall : traffic.calls[position]? = some call) (hnew : position ∉ patches.map Prod.fst)
    (hcarries : later.rpc.Carries later.message patch) (hsucceeds : later.Succeeds)
    (hstored : service.store.infobase? clusterId infobaseId =
      some ((record.patchedByAll (patches.map Prod.snd)).patchedBy patch)) :
    Merged clusterId infobaseId record (patches ++ [(position, patch)])
      ⟨service, traffic.calls.set position later⟩ where
  stored := by
    rw [List.map_append, InfobaseInfo.patchedByAll_append]
    exact hstored
  once := by
    rw [List.map_append, List.nodup_append]
    refine ⟨h.once, List.nodup_singleton _, ?_⟩
    rintro place hplace _ hlast rfl
    rw [List.mem_singleton.mp hlast] at hplace
    exact hnew hplace
  delivered place other hmem := by
    rcases List.mem_append.mp hmem with hold | hlast
    · obtain ⟨placed, hget, hplaced⟩ := h.delivered place other hold
      have hplace : position ≠ place := by
        rintro rfl
        exact hnew (List.mem_map_of_mem hold)
      exact ⟨placed, (List.getElem?_set_ne hplace).trans hget, hplaced⟩
    · cases List.mem_singleton.mp hlast
      obtain ⟨hlength, -⟩ := List.getElem?_eq_some_iff.mp hcall
      exact ⟨later, List.getElem?_set_self hlength, hcarries, hsucceeds⟩
  others place placed hother hget := by
    rw [List.map_append, List.mem_append, not_or] at hother
    rcases getElem?_set_cases hget with ⟨rfl, -⟩ | ⟨-, hold⟩
    · exact absurd (List.mem_singleton_self _) hother.2
    · exact h.others place placed hother.1 hold

/-- One occurrence delivers no patch, or one. -/
theorem Merged.next
    (h : traffic.Merged clusterId infobaseId record patches) {occurrence : Occurrence}
    (hchanges : occurrence.Changes clusterId infobaseId) :
    ∃ more : List (Nat × InfobaseInfo),
      (traffic.sent? occurrence).toList =
        more.map (fun sent => (sent.1, .updateInfobase sent.2)) ∧
      (traffic.next uuids occurrence).Merged clusterId infobaseId record (patches ++ more) := by
  have hquiet {after : Traffic} (hafter : after.Merged clusterId infobaseId record patches) :
      after.Merged clusterId infobaseId record (patches ++ []) := by
    rw [List.append_nil]
    exact hafter
  cases occurrence with
  | arrives rpc message =>
    obtain ⟨hchanging, hconcerns⟩ := hchanges
    exact ⟨[], rfl, hquiet (h.arrives (OpenCall.mayDeliver_start hchanging hconcerns))⟩
  | proceeds position withdrawn now =>
    simp only [Traffic.next, sent?]
    cases hcall : traffic.calls[position]? with
    | none => exact ⟨[], rfl, hquiet h⟩
    | some call =>
      simp only [Option.bind_some]
      by_cases hdelivered : position ∈ patches.map Prod.fst
      · obtain ⟨⟨_, patch⟩, hmem, rfl⟩ := List.mem_map.mp hdelivered
        obtain ⟨placed, hget, hcarries, hsucceeds⟩ := h.delivered _ patch hmem
        cases hcall.symm.trans hget
        obtain ⟨hlater, hsame⟩ := hsucceeds.next
        rw [OpenCall.sending?_of_ends hsucceeds, hsame]
        refine ⟨[], rfl, hquiet (h.proceeds hcall ?_ fun hnew => absurd hdelivered hnew)⟩
        exact fun other hother _ => ⟨hother, hlater⟩
      · have hmay := h.others position call hdelivered hcall
        rcases hmay.next h.stored with
          ⟨hsilent, hlater, hsame⟩ | ⟨patch, hsending, hcarries, hsucceeds, hstored⟩
        · rw [hsilent, hsame]
          refine ⟨[], rfl, hquiet (h.proceeds hcall ?_ fun _ => hlater)⟩
          exact fun other hother hsucceeds => ⟨hother, hsucceeds.next.1⟩
        · rw [hsending]
          exact ⟨[(position, patch)], rfl, h.delivers hcall hdelivered hcarries hsucceeds hstored⟩
  | _ => exact hchanges.elim

/-- A history delivers the patches that it sends. -/
theorem Merged.foldl
    (h : traffic.Merged clusterId infobaseId record patches) {history : List Occurrence}
    (hchanges : ∀ occurrence ∈ history, occurrence.Changes clusterId infobaseId) :
    ∃ more : List (Nat × InfobaseInfo),
      traffic.sends uuids history = more.map (fun sent => (sent.1, .updateInfobase sent.2)) ∧
      (history.foldl (Traffic.next uuids) traffic).Merged clusterId infobaseId record
        (patches ++ more) := by
  induction history generalizing traffic patches with
  | nil => exact ⟨[], rfl, by rw [List.append_nil]; exact h⟩
  | cons occurrence history ih =>
    obtain ⟨hfirst, hrest⟩ := List.forall_mem_cons.mp hchanges
    obtain ⟨now, hnow, hnext⟩ := h.next hfirst
    obtain ⟨later, hlater, hafter⟩ := ih hnext hrest
    refine ⟨now ++ later, ?_, ?_⟩
    · rw [sends, hnow, hlater, List.map_append]
    · rw [← List.append_assoc]
      exact hafter

end Next

/-! ## No change is lost -/

/-- What has become of an infobase after changes that overlap. The patches are those that were sent,
in the order of their sends, each with the position of its call. -/
structure LosesNothing (clusterId infobaseId : String) (record : InfobaseInfo)
    (patches : List (Nat × InfobaseInfo)) (traffic : Traffic) : Prop where
  /-- The record is the first one with the patches applied in order. -/
  stored : traffic.service.store.infobase? clusterId infobaseId =
    some (record.patchedByAll (patches.map Prod.snd))
  /-- No call has sent two patches, and each patch is the one that the message of its call gives. -/
  once : (patches.map Prod.fst).Nodup
  carried : ∀ position patch, (position, patch) ∈ patches →
    ∃ call, traffic.calls[position]? = some call ∧ call.rpc.Carries call.message patch
  /-- A call that has ended has succeeded exactly if it has sent its patch. -/
  succeeded_iff : ∀ position call told, traffic.calls[position]? = some call →
    call.rest = .done told →
      ((∃ response, told = .ok response) ↔ position ∈ patches.map Prod.fst)
  /-- An attribute has the value of the last patch that carried it, -/
  last : ∀ key value earlier sent later, patches = earlier ++ sent :: later →
    sent.2.toAttributes.get? key = some value →
      (∀ other ∈ later, other.2.toAttributes.get? key = none) →
        ∃ final, traffic.service.store.infobase? clusterId infobaseId = some final ∧
          final.toAttributes.get? key = some value
  /-- and the value that it had first if none did. -/
  kept : ∀ key, (∀ sent ∈ patches, sent.2.toAttributes.get? key = none) →
    ∃ final, traffic.service.store.infobase? clusterId infobaseId = some final ∧
      final.toAttributes.get? key = record.toAttributes.get? key

section Run

variable {uuids : Nat → String} {clusterId infobaseId : String} {record : InfobaseInfo}
  {patches : List (Nat × InfobaseInfo)} {traffic : Traffic}

theorem Merged.losesNothing (h : traffic.Merged clusterId infobaseId record patches) :
    traffic.LosesNothing clusterId infobaseId record patches where
  stored := h.stored
  once := h.once
  carried position patch hmem := by
    obtain ⟨call, hget, hcarries, -⟩ := h.delivered position patch hmem
    exact ⟨call, hget, hcarries⟩
  succeeded_iff position call told hget hdone := by
    constructor
    · rintro ⟨response, rfl⟩
      by_contra hnew
      -- a call that has sent nothing cannot have ended well
      rcases h.others position call hnew hget with hfails | ⟨patch, -, -, -, hdelivers⟩
      · rw [hdone] at hfails
        cases hfails with
        | done hresult =>
          obtain ⟨status, hstatus⟩ := hresult
          cases hstatus
      · rw [hdone] at hdelivers
        cases hdelivers with
        | done hresult =>
          obtain ⟨status, hstatus⟩ := hresult
          cases hstatus
    · intro hmem
      obtain ⟨⟨_, patch⟩, hsent, rfl⟩ := List.mem_map.mp hmem
      obtain ⟨placed, hplaced, -, hsucceeds⟩ := h.delivered _ patch hsent
      cases hget.symm.trans hplaced
      rw [OpenCall.Succeeds, hdone] at hsucceeds
      cases hsucceeds with
      | done hresult => exact hresult
  last key value earlier sent later hpatches hvalue hlater := by
    refine ⟨_, h.stored, ?_⟩
    rw [hpatches, List.map_append, List.map_cons]
    exact InfobaseInfo.get?_patchedByAll_of_last hvalue (List.forall_mem_map.mpr hlater) _ _
  kept key hnone :=
    ⟨_, h.stored, InfobaseInfo.get?_patchedByAll_of_forall (List.forall_mem_map.mpr hnone) record⟩

/-- No change is lost. Let any number of updates, locks and unlocks of a stored infobase come in and
take their steps in any order, and let their callers withdraw at any time. What they send are
patches, and the infobase is in the end the first record with these patches applied in the order of
their sends. -/
theorem losesNothing_of_changes
    {start : Service} (hstored : start.store.infobase? clusterId infobaseId = some record)
    {history : List Occurrence}
    (hchanges : ∀ occurrence ∈ history, occurrence.Changes clusterId infobaseId) :
    ∃ patches : List (Nat × InfobaseInfo),
      (opening start).sends uuids history =
          patches.map (fun sent => (sent.1, .updateInfobase sent.2)) ∧
        (after uuids start history).LosesNothing clusterId infobaseId record patches ∧
        InfobaseInfo.PatchLaws := by
  have hopening : (opening start).Merged clusterId infobaseId record [] := by
    refine ⟨hstored, List.nodup_nil, ?_, ?_⟩
    · exact fun _ _ hmem => absurd hmem List.not_mem_nil
    · exact fun _ _ _ hget => absurd (List.mem_of_getElem? hget) List.not_mem_nil
  obtain ⟨patches, hsends, hmerged⟩ := hopening.foldl hchanges
  exact ⟨patches, hsends, hmerged.losesNothing, InfobaseInfo.patchLaws⟩

/-- A lock and an unlock of one infobase that take their steps in turn. -/
def lockAgainstUnlock : List Occurrence :=
  [.arrives .lockInfobase ⟨"c-1", "ib-1", true, true, none, none, none, some "code", none, none⟩,
    .arrives .unlockInfobase ⟨"c-1", "ib-1", true, false, none, none⟩] ++
    (List.replicate 20 [.proceeds 0 false ⟨0, 0⟩, .proceeds 1 false ⟨0, 0⟩]).flatten

/-- A cluster with one infobase. -/
def withInfobase : Service where
  store := Store.empty.putCluster "c-1"
    { Cluster.new "c-1" with infobases := [{ clusterId := "c-1", uuid := some "ib-1" }] }
  issued := 0

/-- The lock reads the clock before it sends, so its patch comes second and wins. -/
theorem losesNothing_of_changes_lock_against_unlock :
    ∃ patches : List (Nat × InfobaseInfo),
      (after (fun _ => "ib-2") withInfobase lockAgainstUnlock).LosesNothing "c-1" "ib-1"
          { clusterId := "c-1", uuid := some "ib-1" } patches ∧
        patches.map Prod.fst = [1, 0] ∧
        ((after (fun _ => "ib-2") withInfobase lockAgainstUnlock).service.store.infobase? "c-1"
          "ib-1").bind (·.sessionsDeny) = some true := by
  have hchanges : ∀ occurrence ∈ lockAgainstUnlock, occurrence.Changes "c-1" "ib-1" := by
    intro occurrence hmem
    simp only [lockAgainstUnlock, List.mem_append, List.mem_flatten, List.mem_replicate,
      List.mem_pair] at hmem
    rcases hmem with (rfl | rfl) | ⟨turn, ⟨-, rfl⟩, hturn⟩
    · exact ⟨by decide, rfl, rfl⟩
    · exact ⟨by decide, rfl, rfl⟩
    · rcases List.mem_pair.mp hturn with rfl | rfl
      · trivial
      · trivial
  have hstored : withInfobase.store.infobase? "c-1" "ib-1" =
      some { clusterId := "c-1", uuid := some "ib-1" } := rfl
  obtain ⟨patches, hsends, hloses, -⟩ :
      ∃ patches : List (Nat × InfobaseInfo),
        (opening withInfobase).sends (fun _ => "ib-2") lockAgainstUnlock =
            patches.map (fun sent => (sent.1, .updateInfobase sent.2)) ∧
          (after (fun _ => "ib-2") withInfobase lockAgainstUnlock).LosesNothing "c-1" "ib-1"
            { clusterId := "c-1", uuid := some "ib-1" } patches ∧
          InfobaseInfo.PatchLaws :=
    losesNothing_of_changes hstored hchanges
  have horder :
      ((opening withInfobase).sends (fun _ => "ib-2") lockAgainstUnlock).map Prod.fst = [1, 0] := by
    decide +kernel
  rw [hsends, List.map_map] at horder
  exact ⟨patches, hloses, horder, by decide +kernel⟩

end Run

end Traffic

end InfobaseGateway
