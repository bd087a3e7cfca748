import InfobaseGateway.Proofs.Classification.Taken
import InfobaseGateway.Proofs.Rpc.Ledger
import InfobaseGateway.Proofs.Service.Creation

/-!
# Creations that race for a name

A creation looks its name up and creates the infobase in two steps, and other creations of the same
name may come in between. The first one whose second request is answered takes the name. From then
on every other creation either finds the infobase, or has its second request rejected; how the
rejection reads to the caller depends on the name, because the text that is classified quotes it.
-/

namespace InfobaseGateway

/-! ## The parties -/

namespace CreateInfobase

/-- A message that asks for an infobase in the cluster under the name, and that is valid. -/
structure AsksUnder (clusterId name : String) (message : CreateInfobaseRequest)
    (request : CreateInfobase) : Prop where
  converts : ofMessage message = .ok request
  valid : request.Valid
  clusterId_eq : request.clusterId = clusterId
  name_eq : request.name = name

/-- The answer of the creation that made the infobase. -/
def Won (infobaseId name : String) (told : Except Status CreateInfobaseResponse) : Prop :=
  told = .ok ⟨infobaseId, name, "Infobase created successfully", true⟩

/-- The answer of a creation that came too late: the infobase, or a rejection. -/
def Lost (infobaseId name : String) (told : Except Status CreateInfobaseResponse) : Prop :=
  told = .ok ⟨infobaseId, name, "Infobase already exists (idempotent operation)", true⟩ ∨
    ∃ message, told = .error ⟨(Rejection.takenCode name).status, message⟩

/-- A rejection of the name is an answer of a creation that came too late. -/
theorem lost_of_taken (infobaseId : String) {name : String} (hname : IsName name) :
    Lost infobaseId name
      (answer (.error (.endpoint (.ofText (Rejection.nameTaken name).message)))) := by
  have hcode :
      (EndpointError.ofText (Rejection.nameTaken name).message).code =
        Rejection.takenCode name := by
    rw [EndpointError.code_ofText, Rejection.categoryOf_nameTaken hname]
  refine .inr ⟨(EndpointError.ofText (Rejection.nameTaken name).message).message, ?_⟩
  rw [← hcode]
  rfl

end CreateInfobase

namespace OpenCall

variable {clusterId name : String}

/-- A creation in the race that is not decided yet. -/
def Contends (clusterId name : String) : OpenCall → Prop
  | ⟨.createInfobase, message, rest⟩ =>
    ∃ request, CreateInfobase.AsksUnder clusterId name message request ∧
      (request.procedure.Looking CreateInfobase.answer request.search rest ∨
        request.procedure.Pending CreateInfobase.answer rest)
  | _ => False

/-- A creation that only ends any more, with an answer that has the property. -/
def Bound (P : Except Status CreateInfobaseResponse → Prop) : OpenCall → Prop
  | ⟨.createInfobase, _, rest⟩ => rest.Ends P
  | _ => False

/-- A creation that has ended with an answer that has the property. -/
def Answered (P : Except Status CreateInfobaseResponse → Prop) : OpenCall → Prop
  | ⟨.createInfobase, _, rest⟩ => ∃ told, rest = .done told ∧ P told
  | _ => False

/-- A creation that is not decided yet, or comes too late. -/
def Trails (clusterId infobaseId name : String) (call : OpenCall) : Prop :=
  call.Contends clusterId name ∨ call.Bound (CreateInfobase.Lost infobaseId name)

/-- Whether a call has ended. -/
def ended : OpenCall → Bool
  | ⟨_, _, .done _⟩ => true
  | _ => false

theorem contends_start
    {message : CreateInfobaseRequest} {request : CreateInfobase}
    (hasks : CreateInfobase.AsksUnder clusterId name message request) :
    (start .createInfobase message).Contends clusterId name :=
  ⟨request, hasks, .inl (CreateInfobase.looking_serve hasks.converts hasks.valid)⟩

theorem Contends.not_ended
    {call : OpenCall} (h : call.Contends clusterId name) : call.ended = false := by
  obtain ⟨rpc, message, rest⟩ := call
  cases rpc with
  | createInfobase =>
    obtain ⟨request, -, hway⟩ := h
    cases rest with
    | done told =>
      -- a program that has ended does not come to a request
      rcases hway with hlooking | hpending
      · cases hlooking
      · cases hpending
    | _ => rfl
  | _ => exact h.elim

theorem Bound.answered
    {P : Except Status CreateInfobaseResponse → Prop} {call : OpenCall} (h : call.Bound P)
    (hended : call.ended = true) : call.Answered P := by
  obtain ⟨rpc, message, rest⟩ := call
  cases rpc with
  | createInfobase =>
    have hends : rest.Ends P := h
    cases hends with
    | done hP => exact ⟨_, rfl, hP⟩
    | note | clock => cases hended
  | _ => exact h.elim

end OpenCall

/-! ## One step of a party -/

/-- The name is free in the cluster, in a sound store. -/
def Service.Offers (clusterId name : String) (service : Service) : Prop :=
  service.store.Sound ∧
    ∃ cluster, service.store.clusters.get? clusterId = some cluster ∧
      cluster.hasName name = false

/-- An infobase of the cluster has the name, in a sound store. -/
def Service.Has (clusterId infobaseId name : String) (service : Service) : Prop :=
  service.store.Sound ∧ service.store.Holds clusterId infobaseId name

namespace OpenCall

section Step

variable {uuids : Nat → String} {clusterId infobaseId name : String} {call : OpenCall}
  {service : Service} (now : Instant)

theorem Bound.next
    {P : Except Status CreateInfobaseResponse → Prop} (h : call.Bound P) :
    (call.next uuids false now service).Bound P ∧
      call.serviceAfter uuids false now service = service := by
  obtain ⟨rpc, message, rest⟩ := call
  cases rpc with
  | createInfobase => exact Operation.Ends.step h
  | _ => exact h.elim

/-- As long as the name is free, a creation is not decided by a step, or the step makes its
infobase. -/
theorem Contends.next_of_offers
    (huuids : ∀ n, uuids n ≠ "") (h : call.Contends clusterId name)
    (hoffers : service.Offers clusterId name) :
    ((call.next uuids false now service).Contends clusterId name ∧
        call.serviceAfter uuids false now service = service) ∨
      ∃ infobaseId,
        (call.next uuids false now service).Bound (CreateInfobase.Won infobaseId name) ∧
          (call.serviceAfter uuids false now service).Has clusterId infobaseId name := by
  obtain ⟨rpc, message, rest⟩ := call
  cases rpc with
  | createInfobase =>
    obtain ⟨request, hasks, hway⟩ := h
    obtain ⟨-, hvalid, rfl, rfl⟩ := id hasks
    obtain ⟨hsound, cluster, hget, hfree⟩ := hoffers
    have hnonempty := hvalid.name.nonempty
    rcases hway with hlooking | hpending
    · rcases Operation.Comes.step hlooking with ⟨hcloser, hsame⟩ | ⟨hlooked, hanswer⟩
      · exact .inl ⟨⟨request, hasks, .inl hcloser⟩, hsame⟩
      · have hpending := CreateInfobase.pending_of_free hget hnonempty hfree hlooked
        exact .inl ⟨⟨request, hasks, .inr hpending⟩,
          hanswer.trans (CreateInfobase.answer_lookup uuids service _)⟩
    · rcases Operation.Comes.step hpending with ⟨hcloser, hsame⟩ | ⟨hends, hanswer⟩
      · exact .inl ⟨⟨request, hasks, .inr hcloser⟩, hsame⟩
      · obtain ⟨hconclusion, hstore⟩ :=
          CreateInfobase.conclusion_of_free hget hfree (huuids service.issued)
        have hholds := CreateInfobase.holds_of_conclusion hconclusion
        refine .inr ⟨uuids service.issued, ?_, ?_⟩
        · refine hends.mono fun told htold => ?_
          rw [hconclusion] at htold
          exact htold
        · have hcluster := hsound _ cluster hget
          have hafter :
              (serviceAfter uuids false now ⟨.createInfobase, message, rest⟩ service) =
                (service.answer uuids request.procedure.envelope).2 := hanswer
          rw [hafter]
          refine ⟨?_, hholds⟩
          rw [hstore]
          exact hsound.putCluster (hcluster.append rfl (by simp) rfl hfree)
  | _ => exact h.elim

/-- Once the name is taken, a step of a creation changes nothing, and it may decide that the
creation comes too late. -/
theorem Trails.next
    (h : call.Trails clusterId infobaseId name) (hhas : service.Has clusterId infobaseId name) :
    (call.next uuids false now service).Trails clusterId infobaseId name ∧
      call.serviceAfter uuids false now service = service := by
  rcases h with hcontends | hbound
  · obtain ⟨rpc, message, rest⟩ := call
    cases rpc with
    | createInfobase =>
      obtain ⟨request, hasks, hway⟩ := hcontends
      obtain ⟨-, hvalid, rfl, rfl⟩ := id hasks
      obtain ⟨hsound, cluster, hget, hholds⟩ := hhas
      have hcluster := hsound _ cluster hget
      have hnonempty := hvalid.name.nonempty
      rcases hway with hlooking | hpending
      · rcases Operation.Comes.step hlooking with ⟨hcloser, hsame⟩ | ⟨hlooked, hanswer⟩
        · exact ⟨.inl ⟨request, hasks, .inl hcloser⟩, hsame⟩
        · have hends := CreateInfobase.ends_of_holds hget hcluster hnonempty hholds hlooked
          refine ⟨.inr (hends.mono fun told htold => .inl htold), ?_⟩
          exact hanswer.trans (CreateInfobase.answer_lookup uuids service _)
      · rcases Operation.Comes.step hpending with ⟨hcloser, hsame⟩ | ⟨hends, hanswer⟩
        · exact ⟨.inl ⟨request, hasks, .inr hcloser⟩, hsame⟩
        · obtain ⟨hconclusion, hsame⟩ :=
            CreateInfobase.conclusion_of_taken hget hholds.hasName
          refine ⟨.inr (hends.mono fun told htold => ?_), hanswer.trans hsame⟩
          rw [htold, hconclusion]
          exact CreateInfobase.lost_of_taken infobaseId hvalid.name
    | _ => exact hcontends.elim
  · obtain ⟨hlater, hsame⟩ := hbound.next now
    exact ⟨.inr hlater, hsame⟩

end Step

end OpenCall

/-! ## The race -/

/-- An occurrence of the race: another creation comes in, or one proceeds. Nobody withdraws. -/
def Occurrence.Races (clusterId name : String) : Occurrence → Prop
  | arrives .createInfobase message =>
    ∃ request, CreateInfobase.AsksUnder clusterId name message request
  | proceeds _ withdrawn _ => withdrawn = false
  | _ => False

namespace Traffic

/-- The race is open: the name is free, and no creation is decided. -/
structure Open (clusterId name : String) (traffic : Traffic) : Prop where
  offers : traffic.service.Offers clusterId name
  contends : ∀ call ∈ traffic.calls, call.Contends clusterId name

/-- The name is taken by an infobase, which the creation at the position of the winner made, if there
is a winner. All other creations trail. -/
structure Taken (clusterId infobaseId name : String) (winner : Option Nat) (traffic : Traffic) :
    Prop where
  has : traffic.service.Has clusterId infobaseId name
  won : ∀ position, winner = some position →
    ∃ call, traffic.calls[position]? = some call ∧
      call.Bound (CreateInfobase.Won infobaseId name)
  trails : ∀ position call, winner ≠ some position → traffic.calls[position]? = some call →
    call.Trails clusterId infobaseId name

section Next

variable {uuids : Nat → String} {clusterId infobaseId name : String} {traffic : Traffic}
  {occurrence : Occurrence}

theorem races_cases
    (uuids : Nat → String) (traffic : Traffic) (hraces : occurrence.Races clusterId name) :
    (∃ call, call.Contends clusterId name ∧
        traffic.next uuids occurrence = ⟨traffic.service, traffic.calls ++ [call]⟩) ∨
      (∃ position call now, traffic.calls[position]? = some call ∧
        traffic.next uuids occurrence =
          ⟨call.serviceAfter uuids false now traffic.service,
            traffic.calls.set position (call.next uuids false now traffic.service)⟩) ∨
      traffic.next uuids occurrence = traffic := by
  cases occurrence with
  | arrives rpc message =>
    cases rpc with
    | createInfobase =>
      obtain ⟨request, hasks⟩ := hraces
      exact .inl ⟨_, OpenCall.contends_start hasks, rfl⟩
    | _ => exact hraces.elim
  | proceeds position withdrawn now =>
    have hsteadfast : withdrawn = false := hraces
    subst hsteadfast
    simp only [next]
    cases hcall : traffic.calls[position]? with
    | none => exact .inr (.inr rfl)
    | some call => exact .inr (.inl ⟨position, call, now, hcall, rfl⟩)
  | _ => exact hraces.elim

/-- After one call is replaced, a call is the new one or was there before. -/
theorem getElem?_set_cases
    {calls : List OpenCall} {position place : Nat} {call placed : OpenCall}
    (hget : (calls.set position call)[place]? = some placed) :
    (place = position ∧ placed = call) ∨ (place ≠ position ∧ calls[place]? = some placed) := by
  by_cases hplace : place = position
  · subst hplace
    have hmem : (calls.set place call)[place]? = some call := by
      obtain ⟨hlength, -⟩ := List.getElem?_eq_some_iff.mp hget
      exact List.getElem?_set_self (by simpa using hlength)
    exact .inl ⟨rfl, Option.some.inj (hget.symm.trans hmem)⟩
  · rw [List.getElem?_set_ne (Ne.symm hplace)] at hget
    exact .inr ⟨hplace, hget⟩

/-- A race that is open stays open, or it is decided. -/
theorem Open.next
    (huuids : ∀ n, uuids n ≠ "") (h : traffic.Open clusterId name)
    (hraces : occurrence.Races clusterId name) :
    (traffic.next uuids occurrence).Open clusterId name ∨
      ∃ infobaseId winner,
        (traffic.next uuids occurrence).Taken clusterId infobaseId name (some winner) := by
  rcases races_cases uuids traffic hraces with
    ⟨call, hcall, hnext⟩ | ⟨position, call, now, hcall, hnext⟩ | hnext
  · rw [hnext]
    refine .inl ⟨h.offers, ?_⟩
    intro other hother
    rcases List.mem_append.mp hother with hold | hnew
    · exact h.contends other hold
    · rw [List.mem_singleton.mp hnew]
      exact hcall
  · rw [hnext]
    have hcontends := h.contends call (List.mem_of_getElem? hcall)
    rcases hcontends.next_of_offers now huuids h.offers with
      ⟨hlater, hsame⟩ | ⟨infobaseId, hwon, hhas⟩
    · rw [hsame]
      refine .inl ⟨h.offers, ?_⟩
      intro other hother
      rcases List.mem_or_eq_of_mem_set hother with hold | rfl
      · exact h.contends other hold
      · exact hlater
    · refine .inr ⟨infobaseId, position, hhas, ?_, ?_⟩
      · intro other hother
        cases hother
        obtain ⟨hposition, -⟩ := List.getElem?_eq_some_iff.mp hcall
        exact ⟨_, List.getElem?_set_self hposition, hwon⟩
      · intro place placed hplace hget
        rcases getElem?_set_cases hget with ⟨rfl, -⟩ | ⟨-, hold⟩
        · exact absurd rfl hplace
        · exact .inl (h.contends placed (List.mem_of_getElem? hold))
  · rw [hnext]
    exact .inl h

/-- A name that is taken stays taken by the same infobase, and the winner stays the same. -/
theorem Taken.next
    {winner : Option Nat} (h : traffic.Taken clusterId infobaseId name winner)
    (hraces : occurrence.Races clusterId name) :
    (traffic.next uuids occurrence).Taken clusterId infobaseId name winner := by
  rcases races_cases uuids traffic hraces with
    ⟨call, hcall, hnext⟩ | ⟨position, call, now, hcall, hnext⟩ | hnext
  · rw [hnext]
    refine ⟨h.has, ?_, ?_⟩
    · intro position hposition
      obtain ⟨winning, hget, hwon⟩ := h.won position hposition
      obtain ⟨hlength, -⟩ := List.getElem?_eq_some_iff.mp hget
      exact ⟨winning, (List.getElem?_append_left hlength).trans hget, hwon⟩
    · intro position other hposition hget
      by_cases hlength : position < traffic.calls.length
      · rw [List.getElem?_append_left hlength] at hget
        exact h.trails position other hposition hget
      · rw [List.getElem?_append_right (Nat.not_lt.mp hlength)] at hget
        have hnew := List.mem_of_getElem? hget
        rw [List.mem_singleton.mp hnew]
        exact .inl hcall
  · rw [hnext]
    obtain ⟨hsame, hwinner, hother⟩ :
        call.serviceAfter uuids false now traffic.service = traffic.service ∧
          (winner = some position →
            (call.next uuids false now traffic.service).Bound
              (CreateInfobase.Won infobaseId name)) ∧
          (winner ≠ some position →
            (call.next uuids false now traffic.service).Trails clusterId infobaseId name) := by
      by_cases hwinner : winner = some position
      · obtain ⟨winning, hget, hwon⟩ := h.won position hwinner
        cases hcall.symm.trans hget
        have hnextWon :
            (call.next uuids false now traffic.service).Bound
                (CreateInfobase.Won infobaseId name) ∧
              call.serviceAfter uuids false now traffic.service = traffic.service :=
          hwon.next now
        exact ⟨hnextWon.2, fun _ => hnextWon.1, fun hne => absurd hwinner hne⟩
      · have hnextTrails :
            (call.next uuids false now traffic.service).Trails clusterId infobaseId name ∧
              call.serviceAfter uuids false now traffic.service = traffic.service :=
          (h.trails position call hwinner hcall).next now h.has
        exact ⟨hnextTrails.2, fun heq => absurd heq hwinner, fun _ => hnextTrails.1⟩
    rw [hsame]
    refine ⟨h.has, ?_, ?_⟩
    · intro place hplace
      by_cases heq : place = position
      · subst heq
        obtain ⟨hlength, -⟩ := List.getElem?_eq_some_iff.mp hcall
        exact ⟨_, List.getElem?_set_self hlength, hwinner hplace⟩
      · rw [List.getElem?_set_ne (Ne.symm heq)]
        exact h.won place hplace
    · intro place placed hplace hget
      rcases getElem?_set_cases hget with ⟨rfl, rfl⟩ | ⟨hne, hold⟩
      · exact hother hplace
      · exact h.trails place placed hplace hold
  · rw [hnext]
    exact h

end Next

/-- How a race ended, in a cluster as it was before. -/
structure Settled (clusterId infobaseId name : String) (before : Cluster) (traffic : Traffic) :
    Prop where
  /-- There is exactly one infobase of the name. -/
  stored_once : ∃ cluster, traffic.service.store.clusters.get? clusterId = some cluster ∧
    cluster.Holds infobaseId name ∧
    (cluster.infobases.map fun record => record.name).count (some name) = 1
  /-- If there was none before, exactly one call answers that it created it. -/
  one_winner : before.hasName name = false → ∃ (winner : Nat) (call : OpenCall),
    traffic.calls[winner]? = some call ∧
      call.Answered (CreateInfobase.Won infobaseId name) ∧
      ∀ (position : Nat) (other : OpenCall), position ≠ winner →
        traffic.calls[position]? = some other →
          other.Answered (CreateInfobase.Lost infobaseId name)
  none_wins : before.hasName name = true → ∀ call ∈ traffic.calls,
    call.Answered (CreateInfobase.Lost infobaseId name)

theorem Taken.settled
    {clusterId infobaseId name : String} {winner : Option Nat} {traffic : Traffic}
    (h : traffic.Taken clusterId infobaseId name winner)
    (hended : ∀ call ∈ traffic.calls, call.ended = true) {before : Cluster}
    (hwinner : winner = none ↔ before.hasName name = true) :
    Settled clusterId infobaseId name before traffic := by
  have hlost (position : Nat) (call : OpenCall) (hposition : winner ≠ some position)
      (hget : traffic.calls[position]? = some call) :
      call.Answered (CreateInfobase.Lost infobaseId name) := by
    have hcall := hended call (List.mem_of_getElem? hget)
    rcases h.trails position call hposition hget with hcontends | hbound
    · rw [hcontends.not_ended] at hcall
      cases hcall
    · exact hbound.answered hcall
  refine ⟨?_, ?_, ?_⟩
  · obtain ⟨hsound, cluster, hget, hholds⟩ := h.has
    obtain ⟨record, hmem, -, hname⟩ := id hholds
    have hmapped : some name ∈ cluster.infobases.map fun record => record.name := by
      rw [← hname]
      exact List.mem_map_of_mem hmem
    exact ⟨cluster, hget, hholds,
      List.count_eq_one_of_mem (hsound _ cluster hget).names_nodup hmapped⟩
  · intro hfree
    cases winner with
    | none =>
      rw [hwinner.mp rfl] at hfree
      cases hfree
    | some position =>
      obtain ⟨call, hget, hwon⟩ := h.won position rfl
      refine ⟨position, call, hget, hwon.answered (hended call (List.mem_of_getElem? hget)), ?_⟩
      intro other otherCall hother hget'
      exact hlost other otherCall (fun hsame => hother (Option.some.inj hsame).symm) hget'
  · intro htaken call hmem
    obtain ⟨position, hget⟩ := List.getElem?_of_mem hmem
    have hnone := hwinner.mpr htaken
    exact hlost position call (by simp [hnone]) hget

/-- Creations that race for one name, in any number and with their steps in any order, and that all
come to their ends, leave exactly one infobase of the name. If there was none before, exactly one of
them answers that it created it. Every other one answers with that infobase or fails, and it fails
with `alreadyExists` unless the name has the word `unauthorized` in it. -/
theorem settled_of_race
    {uuids : Nat → String} (huuids : ∀ n, uuids n ≠ "") {start : Service}
    (hreached : start.Reachable uuids) {clusterId name : String} {before : Cluster}
    (hget : start.store.clusters.get? clusterId = some before) {history : List Occurrence}
    (hraces : ∀ occurrence ∈ history, occurrence.Races clusterId name)
    (hcalls : (after uuids start history).calls ≠ [])
    (hended : ∀ call ∈ (after uuids start history).calls, call.ended = true) :
    ∃ infobaseId, Settled clusterId infobaseId name before (after uuids start history) := by
  have hsound := hreached.sound
  cases hname : before.hasName name with
  | true =>
    obtain ⟨infobaseId, hholds⟩ := (hsound _ before hget).exists_holds_of_hasName hname
    have htaken : (after uuids start history).Taken clusterId infobaseId name none := by
      have hopening : (opening start).Taken clusterId infobaseId name none :=
        ⟨⟨hsound, before, hget, hholds⟩, fun _ hwinner => (nomatch hwinner),
          fun _ _ _ hcall => (nomatch hcall)⟩
      refine after_of_next hopening ?_
      intro traffic occurrence hmem htaken
      exact htaken.next (hraces occurrence hmem)
    exact ⟨infobaseId, htaken.settled hended (iff_of_true rfl hname)⟩
  | false =>
    have hphase :
        (after uuids start history).Open clusterId name ∨
          ∃ infobaseId winner,
            (after uuids start history).Taken clusterId infobaseId name (some winner) := by
      refine after_of_next
        (P := fun traffic => traffic.Open clusterId name ∨
          ∃ infobaseId winner, traffic.Taken clusterId infobaseId name (some winner)) ?_ ?_
      · exact .inl ⟨⟨hsound, before, hget, hname⟩, fun call hcall => nomatch hcall⟩
      · rintro traffic occurrence hmem (hopen | ⟨infobaseId, winner, htaken⟩)
        · exact hopen.next huuids (hraces occurrence hmem)
        · exact .inr ⟨infobaseId, winner, htaken.next (hraces occurrence hmem)⟩
    rcases hphase with hopen | ⟨infobaseId, winner, htaken⟩
    · obtain ⟨call, hcall⟩ := List.exists_mem_of_ne_nil _ hcalls
      have hnot := (hopen.contends call hcall).not_ended
      rw [hended call hcall] at hnot
      cases hnot
    · exact ⟨infobaseId, htaken.settled hended (iff_of_false nofun (by simp [hname]))⟩

/-- A creation of an infobase under the name. -/
def creationOf (name : String) : CreateInfobaseRequest :=
  ⟨"c-1", name, 2, "db-1", "db", none, none, none, none, none, none, none, none, none, none⟩

/-- Two creations of one name that come in together and take their steps in turn. -/
def twoForName (name : String) : List Occurrence :=
  [.arrives .createInfobase (creationOf name), .arrives .createInfobase (creationOf name)] ++
    (List.replicate 20 [.proceeds 0 false ⟨0, 0⟩, .proceeds 1 false ⟨0, 0⟩]).flatten

/-- The traffic after two creations of one name in an empty cluster. -/
def afterTwo (name : String) : Traffic :=
  after (fun _ => "ib-1") (.withCluster "c-1") (twoForName name)

theorem races_of_mem_twoForName
    {name : String} {request : CreateInfobase}
    (hasks : CreateInfobase.AsksUnder "c-1" name (creationOf name) request) {occurrence : Occurrence}
    (hmem : occurrence ∈ twoForName name) : occurrence.Races "c-1" name := by
  simp only [twoForName, List.mem_append, List.mem_flatten, List.mem_replicate, List.mem_pair]
    at hmem
  rcases hmem with (rfl | rfl) | ⟨turn, ⟨-, rfl⟩, hturn⟩
  · exact ⟨request, hasks⟩
  · exact ⟨request, hasks⟩
  · rcases List.mem_pair.mp hturn with rfl | rfl
    · exact rfl
    · exact rfl

theorem settled_of_race_two_trades :
    ∃ infobaseId, Settled "c-1" infobaseId "trade" (.new "c-1") (afterTwo "trade") := by
  have hreached : (Service.withCluster "c-1").Reachable fun _ => "ib-1" :=
    ⟨_, _, [], Service.ofSeed_withCluster (fun _ => "ib-1") "c-1", rfl⟩
  have hasks : ∃ request, CreateInfobase.AsksUnder "c-1" "trade" (creationOf "trade") request :=
    ⟨_, rfl, (CreateInfobase.exists_validate_eq_ok_iff _).mp ⟨_, rfl⟩, rfl, rfl⟩
  obtain ⟨request, hrequest⟩ := hasks
  have hcalls : (afterTwo "trade").calls.map OpenCall.ended = [true, true] := by decide +kernel
  refine settled_of_race (by simp) hreached rfl ?_ ?_ ?_
  · intro occurrence hmem
    exact races_of_mem_twoForName hrequest hmem
  · intro hnone
    have hempty : (afterTwo "trade").calls = [] := hnone
    rw [hempty] at hcalls
    cases hcalls
  · intro call hmem
    have hended := List.mem_map_of_mem (f := OpenCall.ended) hmem
    have hall : call.ended ∈ [true, true] := hcalls ▸ hended
    simpa using hall

/-- The code of a creation that has failed. -/
def failedWith? : OpenCall → Option StatusCode
  | ⟨.createInfobase, _, .done (.error status)⟩ => some status.code
  | _ => none

/-- Of two creations that race for the name `unauthorized`, the one that comes too late does not fail
with `alreadyExists`, but with `permissionDenied`. -/
theorem permissionDenied_of_race_for_unauthorized :
    (∀ occurrence ∈ twoForName "unauthorized", occurrence.Races "c-1" "unauthorized") ∧
      (afterTwo "unauthorized").calls.map OpenCall.ended = [true, true] ∧
      (afterTwo "unauthorized").calls.map failedWith? = [none, some .permissionDenied] := by
  have hasks :
      ∃ request, CreateInfobase.AsksUnder "c-1" "unauthorized" (creationOf "unauthorized") request :=
    ⟨_, rfl, (CreateInfobase.exists_validate_eq_ok_iff _).mp ⟨_, rfl⟩, rfl, rfl⟩
  obtain ⟨request, hrequest⟩ := hasks
  refine ⟨?_, ?_, ?_⟩
  · intro occurrence hmem
    exact races_of_mem_twoForName hrequest hmem
  · decide +kernel
  · decide +kernel

end Traffic

end InfobaseGateway
