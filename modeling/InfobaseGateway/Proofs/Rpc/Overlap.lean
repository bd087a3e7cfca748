import InfobaseGateway.Proofs.Rpc.Ledger

/-!
# Overlapping calls

Calls overlap in every way, and the store stays sound. Calls neither add nor remove a cluster and do
not touch what a cluster says about itself or whom it admits. The number of infobases of a cluster
changes at one step of a creation or of a removal: at the step from which on the call can only
answer that it created an infobase, or that it removed one. So the answers of the calls account for
every infobase that is there and for every one that is gone.
-/

namespace InfobaseGateway

/-! ## What a call is bound to answer -/

namespace Operation

/-- A program that is bound to end in two ways ends in a way that is both. -/
theorem Ends.exists_result {α : Type}
    {P Q : α → Prop} {p : Operation α} (h : p.Ends P) (h' : p.Ends Q) :
    ∃ result, P result ∧ Q result := by
  induction h with
  | @done result hresult =>
    cases h' with
    | done hresult' => exact ⟨result, hresult, hresult'⟩
  | note n hnext ih =>
    cases h' with
    | note n hnext' => exact ih hnext'
  | clock hnext ih =>
    cases h' with
    | clock hnext' => exact ih ⟨0, 0⟩ (hnext' ⟨0, 0⟩)

end Operation

namespace OpenCall

/-- A creation in the cluster that has made its infobase: it makes no more requests, and its answer
will be that it created one. -/
def Created (clusterId : String) : OpenCall → Prop
  | ⟨.createInfobase, message, rest⟩ =>
    message.clusterId = clusterId ∧
      rest.Ends fun told =>
        ∃ response, told = .ok response ∧ response.message = "Infobase created successfully"
  | _ => False

/-- A removal from the cluster that has removed its infobase: it makes no more requests, and it will
succeed. -/
def Dropped (clusterId : String) : OpenCall → Prop
  | ⟨.dropInfobase, message, rest⟩ =>
    message.clusterId = clusterId ∧ rest.Ends fun told => ∃ response, told = .ok response
  | _ => False

/-- A call that makes no more requests and whose answer will tell of a change. -/
def Tells (clusterId : String) (change : Int) (call : OpenCall) : Prop :=
  call.rest.Ends fun told => call.rpc.change clusterId call.message told = change

namespace Tells

variable {clusterId : String} {change change' : Int} {call : OpenCall}

/-- A call tells of one change only. -/
theorem eq (h : call.Tells clusterId change) (h' : call.Tells clusterId change') :
    change = change' := by
  obtain ⟨told, hchange, hchange'⟩ := Operation.Ends.exists_result h h'
  exact hchange.symm.trans hchange'

theorem cases_of_ne_zero (h : call.Tells clusterId change) (hchange : change ≠ 0) :
    (call.rpc = .createInfobase ∧ change = 1) ∨ (call.rpc = .dropInfobase ∧ change = -1) := by
  obtain ⟨told, htold, -⟩ := Operation.Ends.exists_result h h
  have hcases := call.rpc.change_cases clusterId call.message told
  rw [htold] at hcases
  exact hcases.resolve_left hchange

end Tells

/-- If only some answers tell of the change, a call that tells of it is bound to one of them. -/
theorem tells_iff_of_change
    {clusterId : String} {change : Int} {call : OpenCall} {asked : Prop}
    {P : Except Status call.rpc.Response → Prop}
    (hchange : ∀ told, call.rpc.change clusterId call.message told = change ↔ asked ∧ P told) :
    call.Tells clusterId change ↔ asked ∧ call.rest.Ends P := by
  simp only [Tells, hchange]
  constructor
  · intro hends
    obtain ⟨told, ⟨hasked, -⟩, -⟩ := hends.exists_result hends
    exact ⟨hasked, hends.mono fun told htold => htold.2⟩
  · rintro ⟨hasked, hends⟩
    exact hends.mono fun told htold => ⟨hasked, htold⟩

theorem created_iff_tells (clusterId : String) (call : OpenCall) :
    call.Created clusterId ↔ call.Tells clusterId 1 := by
  have hother (hrpc : call.rpc ≠ .createInfobase) : ¬call.Tells clusterId 1 := by
    intro htells
    rcases htells.cases_of_ne_zero (by decide) with ⟨hsame, -⟩ | ⟨-, hone⟩
    · exact hrpc hsame
    · cases hone
  obtain ⟨rpc, message, rest⟩ := call
  cases rpc with
  | createInfobase =>
    symm
    apply tells_iff_of_change
    intro told
    cases told with
    | error status => simp [Rpc.change]
    | ok response => simp [Rpc.change]
  | _ => exact iff_of_false id (hother nofun)

theorem dropped_iff_tells (clusterId : String) (call : OpenCall) :
    call.Dropped clusterId ↔ call.Tells clusterId (-1) := by
  have hother (hrpc : call.rpc ≠ .dropInfobase) : ¬call.Tells clusterId (-1) := by
    intro htells
    rcases htells.cases_of_ne_zero (by decide) with ⟨-, hone⟩ | ⟨hsame, -⟩
    · cases hone
    · exact hrpc hsame
  obtain ⟨rpc, message, rest⟩ := call
  cases rpc with
  | dropInfobase =>
    symm
    apply tells_iff_of_change
    intro told
    cases told with
    | error status => simp [Rpc.change]
    | ok response => simp [Rpc.change]
  | _ => exact iff_of_false id (hother nofun)

/-- A call that has changed nothing in any cluster yet, or tells of what it changed. -/
def Honest (uuids : Nat → String) (call : OpenCall) : Prop :=
  ∀ clusterId,
    call.rest.Honest uuids clusterId (call.rpc.change clusterId call.message) ∨
      ∃ change, change ≠ 0 ∧ call.Tells clusterId change

theorem honest_start
    {uuids : Nat → String} (huuids : ∀ n, uuids n ≠ "") (rpc : Rpc) (message : rpc.Request) :
    (start rpc message).Honest uuids :=
  fun clusterId => .inl (rpc.honest_serve huuids clusterId message)

section Step

variable {uuids : Nat → String} {call : OpenCall} (withdrawn : Bool) (now : Instant)
  (service : Service)

/-- By how much the number of infobases changes with a step of a call, that much more the call tells
after the step. -/
theorem Honest.step_cases (h : call.Honest uuids) (clusterId : String) :
    ((call.serviceAfter uuids withdrawn now service).store.infobaseCount clusterId =
        service.store.infobaseCount clusterId ∧
      ∀ change, change ≠ 0 →
        ((call.next uuids withdrawn now service).Tells clusterId change ↔
          call.Tells clusterId change)) ∨
      ∃ change, (change = 1 ∨ change = -1) ∧
        ((call.serviceAfter uuids withdrawn now service).store.infobaseCount clusterId : Int) =
          service.store.infobaseCount clusterId + change ∧
        (call.next uuids withdrawn now service).Tells clusterId change ∧
        ∀ other, other ≠ 0 → ¬call.Tells clusterId other := by
  rcases h clusterId with hhonest | ⟨change, hchange, htells⟩
  · rcases hhonest.step withdrawn now service with
      ⟨hlater, hcount⟩ | ⟨change, hchange, hends, hcount⟩
    · refine .inl ⟨hcount, fun change hchange => ?_⟩
      exact iff_of_false (hlater.not_ends hchange) (hhonest.not_ends hchange)
    · have htells : (call.next uuids withdrawn now service).Tells clusterId change := hends
      have hone : change = 1 ∨ change = -1 :=
        (htells.cases_of_ne_zero hchange).imp And.right And.right
      exact .inr ⟨change, hone, hcount, htells, fun other hother => hhonest.not_ends hother⟩
  · have htold : (call.next uuids withdrawn now service).Tells clusterId change := htells.step.1
    have hsame : call.serviceAfter uuids withdrawn now service = service := htells.step.2
    refine .inl ⟨?_, fun other _ => ?_⟩
    · rw [hsame]
    · constructor
      · intro hother
        rw [hother.eq htold]
        exact htells
      · intro hother
        rw [hother.eq htells]
        exact htold

theorem Honest.next (h : call.Honest uuids) :
    (call.next uuids withdrawn now service).Honest uuids := by
  intro clusterId
  rcases h clusterId with hhonest | ⟨change, hchange, htells⟩
  · rcases hhonest.step withdrawn now service with ⟨hlater, -⟩ | ⟨change, hchange, hends, -⟩
    · exact .inl hlater
    · exact .inr ⟨change, hchange, hends⟩
  · exact .inr ⟨change, hchange, htells.step.1⟩

end Step

end OpenCall

/-! ## One occurrence -/

namespace Traffic

/-- The number of infobases of a cluster. -/
def count (clusterId : String) (traffic : Traffic) : Nat :=
  traffic.service.store.infobaseCount clusterId

/-- A call comes to have a property with an occurrence. -/
def Turns (P : OpenCall → Prop) (before after : Traffic) : Prop :=
  ∃ (position : Nat) (call call' : OpenCall), before.calls[position]? = some call ∧
    after.calls[position]? = some call' ∧ ¬P call ∧ P call'

/-- What holds of a service and its calls at all times. -/
structure InOrder (uuids : Nat → String) (traffic : Traffic) : Prop where
  sound : traffic.service.store.Sound
  keepsNames : ∀ call ∈ traffic.calls, call.rest.SendsOnly EndpointRequest.KeepsNames
  honest : ∀ call ∈ traffic.calls, call.Honest uuids

theorem turns_proceeds_iff
    {P : OpenCall → Prop} {service service' : Service} {front back : List OpenCall}
    {call call' : OpenCall} :
    Turns P ⟨service, front ++ call :: back⟩ ⟨service', front ++ call' :: back⟩ ↔
      ¬P call ∧ P call' := by
  constructor
  · rintro ⟨position, before, after, hbefore, hafter, hturns⟩
    by_cases hposition : position = front.length
    · subst hposition
      simp only [List.getElem?_append_right (le_refl _), Nat.sub_self,
        List.getElem?_cons_zero, Option.some.injEq] at hbefore hafter
      rw [hbefore, hafter]
      exact hturns
    · have hsame :
          (front ++ call :: back)[position]? = (front ++ call' :: back)[position]? := by
        rw [List.getElem?_append, List.getElem?_append]
        by_cases hfront : position < front.length
        · rw [if_pos hfront, if_pos hfront]
        · rw [if_neg hfront, if_neg hfront]
          obtain ⟨rest, hrest⟩ : ∃ rest, position - front.length = rest + 1 :=
            ⟨position - front.length - 1, by omega⟩
          rw [hrest, List.getElem?_cons_succ, List.getElem?_cons_succ]
      simp only at hbefore hafter
      rw [hsame, hafter] at hbefore
      cases hbefore
      exact absurd hturns.2 hturns.1
  · intro hturns
    exact ⟨front.length, call, call', by simp, by simp, hturns⟩

theorem not_turns_append
    {P : OpenCall → Prop} {before after : Traffic} {more : List OpenCall}
    (hcalls : after.calls = before.calls ++ more) : ¬Turns P before after := by
  rintro ⟨position, call, call', hbefore, hafter, hnot, hP⟩
  obtain ⟨hposition, -⟩ := List.getElem?_eq_some_iff.mp hbefore
  rw [hcalls, List.getElem?_append_left hposition, hbefore] at hafter
  cases hafter
  exact hnot hP

section Occurrences

variable {uuids : Nat → String} {traffic : Traffic}

/-- Every occurrence keeps the traffic in order. -/
theorem InOrder.next
    (huuids : ∀ n, uuids n ≠ "") (h : traffic.InOrder uuids) (occurrence : Occurrence) :
    (traffic.next uuids occurrence).InOrder uuids := by
  obtain ⟨hsound, hkeepsNames⟩ := (Store.lasting_sound uuids).next h.sound h.keepsNames
    fun rpc message _ => rpc.sendsOnly_keepsNames message
  refine ⟨hsound, hkeepsNames, forall_calls_next h.honest ?_ ?_⟩
  · intro rpc message _
    exact OpenCall.honest_start huuids rpc message
  · intro call withdrawn now hcall
    exact hcall.next withdrawn now traffic.service

/-- Calls change neither which clusters there are nor what stands in them. -/
theorem InOrder.sameClusters_next
    (h : traffic.InOrder uuids) {occurrence : Occurrence} (hcall : occurrence.isOfCall = true) :
    traffic.service.store.SameClusters (traffic.next uuids occurrence).service.store := by
  have hmoves := moves_next uuids traffic occurrence
  generalize traffic.next uuids occurrence = after at hmoves ⊢
  cases hmoves with
  | arrives | nobody => exact Store.SameClusters.refl _
  | proceeds front call back withdrawn now hcalls =>
    have hmem : call ∈ traffic.calls := by simp [hcalls]
    rcases (h.keepsNames call hmem).eq_or_answered with
      hsame | ⟨request, response, store, hgood, hhandle, hafter⟩
    · rw [OpenCall.serviceAfter, hsame]
      exact Store.SameClusters.refl _
    · rw [OpenCall.serviceAfter, hafter]
      exact Store.sameClusters_of_effect (Store.effect_of_handle_eq_ok hgood hhandle)
  | addCluster | addSession | addInfobaseSession | addClusterAdmin => cases hcall

/-- The number of infobases changes exactly when a call comes to tell of the change. -/
theorem InOrder.count_next_iff
    (h : traffic.InOrder uuids) (occurrence : Occurrence) (clusterId : String) {change : Int}
    (hchange : change ≠ 0) :
    ((traffic.next uuids occurrence).count clusterId : Int) =
        traffic.count clusterId + change ↔
      Turns (OpenCall.Tells clusterId change) traffic (traffic.next uuids occurrence) := by
  have hidle {after : Traffic} {more : List OpenCall}
      (hcount : after.count clusterId = traffic.count clusterId)
      (hcalls : after.calls = traffic.calls ++ more) :
      (after.count clusterId : Int) = traffic.count clusterId + change ↔
        Turns (OpenCall.Tells clusterId change) traffic after := by
    refine iff_of_false ?_ (not_turns_append hcalls)
    omega
  have hmoves := moves_next uuids traffic occurrence
  generalize traffic.next uuids occurrence = after at hmoves ⊢
  cases hmoves with
  | arrives rpc message => exact hidle rfl rfl
  | nobody => exact hidle rfl (List.append_nil _).symm
  | addCluster id => exact hidle (Store.infobaseCount_addCluster _ _ _) (List.append_nil _).symm
  | addSession | addInfobaseSession | addClusterAdmin =>
    refine hidle ?_ (List.append_nil _).symm
    apply Store.infobaseCount_modifyCluster
    intro cluster
    rfl
  | proceeds front call back withdrawn now hcalls =>
    have hmem : call ∈ traffic.calls := by simp [hcalls]
    have hbefore : traffic = ⟨traffic.service, front ++ call :: back⟩ := by rw [← hcalls]
    rw [hbefore, turns_proceeds_iff]
    simp only [count]
    rcases (h.honest call hmem).step_cases withdrawn now traffic.service clusterId with
      ⟨hcount, htells⟩ | ⟨change', hone, hcount, htells, hbound⟩
    · refine iff_of_false (by omega) ?_
      rintro ⟨hnot, hnow⟩
      exact hnot ((htells change hchange).mp hnow)
    · rw [hcount]
      constructor
      · intro hsame
        have heq : change' = change := by omega
        rw [← heq]
        exact ⟨hbound change' (by omega), htells⟩
      · rintro ⟨-, hnow⟩
        rw [hnow.eq htells]

end Occurrences

/-! ## The account of all calls -/

section Tally

open scoped Classical

/-- How many calls have a property. -/
noncomputable def tally (P : OpenCall → Prop) (traffic : Traffic) : Nat :=
  traffic.calls.countP fun call => P call

variable {uuids : Nat → String} {traffic : Traffic}

/-- A property that calls come in without and never lose is counted once for each call that comes to
have it. -/
theorem tally_next
    {P : OpenCall → Prop} (hstart : ∀ rpc message, ¬P (.start rpc message))
    (hkept : ∀ call withdrawn now service, P call → P (call.next uuids withdrawn now service))
    (occurrence : Occurrence) :
    (traffic.next uuids occurrence).tally P =
      traffic.tally P + if Turns P traffic (traffic.next uuids occurrence) then 1 else 0 := by
  have hidle {after : Traffic} (hcalls : after.calls = traffic.calls) :
      after.tally P = traffic.tally P + if Turns P traffic after then 1 else 0 := by
    have hsame : after.calls = traffic.calls ++ [] := by rw [hcalls, List.append_nil]
    rw [if_neg (not_turns_append hsame), tally, hcalls]
    rfl
  have hmoves := moves_next uuids traffic occurrence
  generalize traffic.next uuids occurrence = after at hmoves ⊢
  cases hmoves with
  | arrives rpc message =>
    rw [if_neg (not_turns_append rfl), tally, List.countP_append, List.countP_singleton]
    simp [hstart rpc message, tally]
  | proceeds front call back withdrawn now hcalls =>
    have hbefore : traffic = ⟨traffic.service, front ++ call :: back⟩ := by rw [← hcalls]
    rw [hbefore]
    simp only [turns_proceeds_iff, tally, List.countP_append, List.countP_cons]
    by_cases hcall : P call
    · have hlater := hkept call withdrawn now traffic.service hcall
      simp [hcall, hlater]
    · by_cases hlater : P (call.next uuids withdrawn now traffic.service)
      · simp [hcall, hlater]
        omega
      · simp [hcall, hlater]
  | _ => exact hidle rfl

/-- What one occurrence may do to the service. -/
structure Accounts (occurrence : Occurrence) (before after : Traffic) : Prop where
  /-- Calls add and remove no cluster and change neither what a cluster says about itself nor the
  lists of credentials. -/
  sameClusters : occurrence.isOfCall = true →
    before.service.store.SameClusters after.service.store
  gained_iff : ∀ clusterId, after.count clusterId = before.count clusterId + 1 ↔
    Turns (OpenCall.Created clusterId) before after
  lost_iff : ∀ clusterId, after.count clusterId + 1 = before.count clusterId ↔
    Turns (OpenCall.Dropped clusterId) before after
  otherwise : ∀ clusterId, ¬Turns (OpenCall.Created clusterId) before after →
    ¬Turns (OpenCall.Dropped clusterId) before after →
    after.count clusterId = before.count clusterId

theorem InOrder.accounts
    (h : traffic.InOrder uuids) (occurrence : Occurrence) :
    Accounts occurrence traffic (traffic.next uuids occurrence) where
  sameClusters := h.sameClusters_next
  gained_iff := by
    intro clusterId
    have hcreated : OpenCall.Created clusterId = OpenCall.Tells clusterId 1 :=
      funext fun call => propext (OpenCall.created_iff_tells clusterId call)
    rw [hcreated, ← h.count_next_iff occurrence clusterId (by decide)]
    omega
  lost_iff := by
    intro clusterId
    have hdropped : OpenCall.Dropped clusterId = OpenCall.Tells clusterId (-1) :=
      funext fun call => propext (OpenCall.dropped_iff_tells clusterId call)
    rw [hdropped, ← h.count_next_iff occurrence clusterId (by decide)]
    omega
  otherwise := by
    intro clusterId hcreated hdropped
    by_contra hchanged
    obtain ⟨change, hchange⟩ :
        ∃ change : Int, ((traffic.next uuids occurrence).count clusterId : Int) =
          traffic.count clusterId + change :=
      ⟨(traffic.next uuids occurrence).count clusterId - traffic.count clusterId, by omega⟩
    have hne : change ≠ 0 := by omega
    obtain ⟨position, call, call', hbefore, hafter, hnot, htells⟩ :=
      (h.count_next_iff occurrence clusterId hne).mp hchange
    rcases htells.cases_of_ne_zero hne with ⟨-, rfl⟩ | ⟨-, rfl⟩
    · rw [← OpenCall.created_iff_tells] at hnot htells
      exact hcreated ⟨position, call, call', hbefore, hafter, hnot, htells⟩
    · rw [← OpenCall.dropped_iff_tells] at hnot htells
      exact hdropped ⟨position, call, call', hbefore, hafter, hnot, htells⟩

/-- What holds of a service at all times, whatever happened to it since its start. -/
structure Accounted (uuids : Nat → String) (start : Service) (history : List Occurrence) :
    Prop where
  sound : (after uuids start history).service.store.Sound
  /-- Every infobase that is there or gone since the start is accounted for by one call. -/
  balanced : ∀ clusterId,
    (after uuids start history).count clusterId +
        (after uuids start history).tally (OpenCall.Dropped clusterId) =
      start.store.infobaseCount clusterId +
        (after uuids start history).tally (OpenCall.Created clusterId)
  next : ∀ occurrence,
    Accounts occurrence (after uuids start history) (after uuids start (history ++ [occurrence]))

/-- The number of infobases together with the removals grows as the creations do. -/
theorem InOrder.balance_next
    (huuids : ∀ n, uuids n ≠ "") (h : traffic.InOrder uuids) (occurrence : Occurrence)
    (clusterId : String) :
    (traffic.next uuids occurrence).count clusterId +
        (traffic.next uuids occurrence).tally (OpenCall.Dropped clusterId) +
        traffic.tally (OpenCall.Created clusterId) =
      traffic.count clusterId + traffic.tally (OpenCall.Dropped clusterId) +
        (traffic.next uuids occurrence).tally (OpenCall.Created clusterId) := by
  have hcreated : OpenCall.Created clusterId = OpenCall.Tells clusterId 1 :=
    funext fun call => propext (OpenCall.created_iff_tells clusterId call)
  have hdropped : OpenCall.Dropped clusterId = OpenCall.Tells clusterId (-1) :=
    funext fun call => propext (OpenCall.dropped_iff_tells clusterId call)
  have htally {change : Int} (hchange : change ≠ 0) :
      (traffic.next uuids occurrence).tally (OpenCall.Tells clusterId change) =
        traffic.tally (OpenCall.Tells clusterId change) +
          if Turns (OpenCall.Tells clusterId change) traffic (traffic.next uuids occurrence) then 1
          else 0 := by
    apply tally_next
    · intro rpc message
      exact (rpc.honest_serve huuids clusterId message).not_ends hchange
    · intro call withdrawn now service htells
      exact htells.step.1
  have haccounts := h.accounts occurrence
  have hgained := haccounts.gained_iff clusterId
  have hlost := haccounts.lost_iff clusterId
  have hotherwise := haccounts.otherwise clusterId
  rw [hcreated] at hgained hotherwise ⊢
  rw [hdropped] at hlost hotherwise ⊢
  rw [htally (by decide), htally (by decide)]
  by_cases hmore : Turns (OpenCall.Tells clusterId 1) traffic (traffic.next uuids occurrence)
  · have hcount := hgained.mpr hmore
    have hless :
        ¬Turns (OpenCall.Tells clusterId (-1)) traffic (traffic.next uuids occurrence) := by
      intro hturns
      have := hlost.mpr hturns
      omega
    rw [if_pos hmore, if_neg hless]
    omega
  · by_cases hless :
        Turns (OpenCall.Tells clusterId (-1)) traffic (traffic.next uuids occurrence)
    · have hcount := hlost.mpr hless
      rw [if_neg hmore, if_pos hless]
      omega
    · have hcount := hotherwise hmore hless
      rw [if_neg hmore, if_neg hless]
      omega

theorem inOrder_opening {service : Service} (hsound : service.store.Sound) :
    (opening service).InOrder uuids where
  sound := hsound
  keepsNames := by
    intro call hcall
    cases hcall
  honest := by
    intro call hcall
    cases hcall

/-- A service that started with a configuration is in order at all times. -/
theorem inOrder_after
    (huuids : ∀ n, uuids n ≠ "") {seed : StoreSeed} {start : Service}
    (hseed : Service.ofSeed uuids seed = .ok start) (history : List Occurrence) :
    (after uuids start history).InOrder uuids := by
  refine after_of_next (inOrder_opening (Service.sound_of_ofSeed hseed)) ?_
  intro traffic occurrence _ hinOrder
  exact hinOrder.next huuids occurrence

/-- From every configuration that is accepted, and however calls interleave with each other and with
what is added from outside: the store stays sound, calls change neither the clusters nor what stands
in them, and the number of infobases changes only as the answers of calls account for. -/
theorem accounted_after
    (uuids : Nat → String) (huuids : ∀ n, uuids n ≠ "") (seed : StoreSeed) (start : Service)
    (hseed : Service.ofSeed uuids seed = .ok start) (history : List Occurrence) :
    Accounted uuids start history := by
  have hinOrder := inOrder_after huuids hseed history
  refine ⟨hinOrder.sound, ?_, ?_⟩
  · intro clusterId
    refine And.right (after_of_next
      (P := fun traffic => traffic.InOrder uuids ∧
        traffic.count clusterId + traffic.tally (OpenCall.Dropped clusterId) =
          start.store.infobaseCount clusterId + traffic.tally (OpenCall.Created clusterId)) ?_ ?_)
    · exact ⟨inOrder_opening (Service.sound_of_ofSeed hseed), rfl⟩
    · rintro traffic occurrence - ⟨hbefore, hbalanced⟩
      have hbalance := hbefore.balance_next huuids occurrence clusterId
      exact ⟨hbefore.next huuids occurrence, by omega⟩
  · intro occurrence
    rw [after_concat]
    exact hinOrder.accounts occurrence

/-- Two creations of one name that come in together and take their steps in turn, so that neither
finds the infobase of the other. -/
def twoCreations : List Occurrence :=
  let creation : CreateInfobaseRequest :=
    ⟨"c-1", "trade", 2, "db-1", "trade", none, none, none, none, none, none, none, none, none, none⟩
  let turn : List Occurrence := [.proceeds 0 false ⟨0, 0⟩, .proceeds 1 false ⟨0, 0⟩]
  [.arrives .createInfobase creation, .arrives .createInfobase creation] ++
    (List.replicate 18 turn).flatten

/-- Of two creations that overlap, one is accounted for. -/
theorem accounted_after_two_creations :
    Service.ofSeed (fun _ => "ib-1") ⟨[⟨"c-1", none, none, none, [], [], [], []⟩], []⟩ =
        .ok (.withCluster "c-1") ∧
      Accounted (fun _ => "ib-1") (.withCluster "c-1") twoCreations ∧
      (after (fun _ => "ib-1") (.withCluster "c-1") twoCreations).count "c-1" = 1 := by
  have hseed := Service.ofSeed_withCluster (fun _ => "ib-1") "c-1"
  exact ⟨hseed, accounted_after (fun _ => "ib-1") (by simp) _ _ hseed twoCreations, rfl⟩

end Tally

end Traffic

end InfobaseGateway
