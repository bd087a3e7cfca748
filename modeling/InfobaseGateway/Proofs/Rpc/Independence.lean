import InfobaseGateway.Proofs.Rpc.Contract
import InfobaseGateway.Proofs.Rpc.Effect
import InfobaseGateway.Proofs.Rpc.Record
import InfobaseGateway.Proofs.Service.Inquiry

/-!
# Calls that are independent

Calls about different clusters do not notice each other, and no call notices another one if it is
about no cluster at all. Whichever of two such calls comes first, both tell the same and the store
ends up the same. All that has to be equal besides is the uuid that a creation gets and the time
that a lock reads.
-/

namespace InfobaseGateway

/-- Stores with the same clusters and the same administrators are the same. -/
theorem Store.ext_get?
    {store other : Store}
    (hclusters : ∀ clusterId, store.clusters.get? clusterId = other.clusters.get? clusterId)
    (hadmins : store.agentAdmins = other.agentAdmins) : store = other := by
  obtain ⟨clusters, agentAdmins⟩ := store
  obtain ⟨clusters', agentAdmins'⟩ := other
  obtain rfl : clusters = clusters' := Keyed.ext_get? hclusters
  obtain rfl : agentAdmins = agentAdmins' := hadmins
  rfl

namespace Rpc

/-! ## The inquiry of a call -/

section Inquiry

variable {rpc : Rpc} {message : rpc.Request} {plan : rpc.Plan}

/-- The task of a call is about the cluster of its message. -/
theorem clusterId?_task (hplan : rpc.plan message = .ok plan) :
    plan.task.clusterId? = rpc.clusterId? message := by
  cases rpc with
  | createInfobase =>
    obtain ⟨request, hconverts, rfl⟩ := exists_of_map_eq_ok hplan
    exact congrArg some (CreateInfobase.ids_of_ofMessage hconverts).1
  | updateInfobase =>
    obtain ⟨request, hconverts, rfl⟩ := exists_of_map_eq_ok hplan
    simp only [UpdateInfobase.ofMessage, except_bind_eq_ok_iff] at hconverts
    obtain ⟨dbms, -, securityLevel, -, deniedFrom, -, deniedTo, -, hrequest⟩ := hconverts
    cases hrequest
    rfl
  | dropInfobase =>
    obtain ⟨request, hconverts, rfl⟩ := exists_of_map_eq_ok hplan
    exact congrArg some (DropInfobase.ids_of_ofMessage hconverts).1
  | lockInfobase =>
    obtain ⟨request, hconverts, rfl⟩ := exists_of_map_eq_ok hplan
    simp only [LockInfobase.ofMessage, except_bind_eq_ok_iff] at hconverts
    obtain ⟨deniedFrom, -, deniedTo, -, hrequest⟩ := hconverts
    cases hrequest
    rfl
  | _ =>
    cases hplan
    rfl

theorem eq_createInfobase_of_task
    (hplan : rpc.plan message = .ok plan) {request : CreateInfobase}
    (htask : plan.task = .create request) : rpc = .createInfobase := by
  cases rpc with
  | createInfobase => rfl
  | updateInfobase | dropInfobase | lockInfobase =>
    obtain ⟨request, -, rfl⟩ := exists_of_map_eq_ok hplan
    cases htask
  | _ =>
    cases hplan
    cases htask

theorem eq_lockInfobase_of_task
    (hplan : rpc.plan message = .ok plan) {request : LockInfobase}
    (htask : plan.task = .lock request) : rpc = .lockInfobase := by
  cases rpc with
  | lockInfobase => rfl
  | createInfobase | updateInfobase | dropInfobase =>
    obtain ⟨request, -, rfl⟩ := exists_of_map_eq_ok hplan
    cases htask
  | _ =>
    cases hplan
    cases htask

/-- What a call asks the service and what it tells its caller, if its task reads `now` first. -/
def inquiry (rpc : Rpc) (message : rpc.Request) (now : Instant) :
    Inquiry (Except Status rpc.Response) :=
  match rpc.plan message with
  | .ok plan => (plan.task.inquiry now).map plan.answer
  | .error error => .told (.error error.status)

variable (rpc) (message)

/-- To a caller who stays, a call amounts to its inquiry. -/
theorem amounts_serve (uuids : Nat → String) (clock : Nat → Instant) (s : Situation) :
    (rpc.serve message).Amounts uuids clock s
      (rpc.inquiry message (firstReading (.steadfast clock) s.moment)) := by
  unfold inquiry
  cases hplan : rpc.plan message with
  | error error =>
    have heval := eval_serve_of_plan_eq_error uuids (.steadfast clock) hplan s
    constructor
    · rw [heval]
      rfl
    · rw [heval]
      rfl
  | ok plan =>
    have heval := eval_serve_of_plan_eq_ok uuids (.steadfast clock) hplan s
    have htask : plan.task.perform.outcome.Amounts uuids clock (s.later 2) _ :=
      plan.task.amounts_perform
    constructor
    · rw [heval, Inquiry.eval_map]
      exact congrArg plan.answer htask.told
    · rw [heval, Inquiry.eval_map]
      exact htask.service

/-- A call asks about the cluster of its message, and only a creation asks for a new infobase. -/
theorem about_inquiry (now : Instant) :
    (rpc.inquiry message now).About (rpc.clusterId? message) (rpc = .createInfobase) := by
  unfold inquiry
  cases hplan : rpc.plan message with
  | error error => trivial
  | ok plan =>
    rw [← clusterId?_task hplan]
    refine ((plan.task.about_inquiry now).mono ?_).map plan.answer
    rintro ⟨request, htask⟩
    exact eq_createInfobase_of_task hplan htask

/-- Only a lock asks something that depends on the time. -/
theorem inquiry_of_ne_lock (hother : rpc ≠ .lockInfobase) (now now' : Instant) :
    rpc.inquiry message now = rpc.inquiry message now' := by
  unfold inquiry
  cases hplan : rpc.plan message with
  | error error => rfl
  | ok plan =>
    have hnotLock (request : LockInfobase) : plan.task ≠ .lock request :=
      fun htask => hother (eq_lockInfobase_of_task hplan htask)
    exact congrArg (Inquiry.map plan.answer) (GatewayTask.inquiry_of_not_lock hnotLock now now')

end Inquiry

/-! ## Calls whose callers stay -/

/-- The run of a call whose caller never withdraws. -/
def attended (uuids : Nat → String) (clock : Nat → Instant) (rpc : Rpc) (message : rpc.Request)
    (s : Situation) : Run Situation (Except Status rpc.Response) :=
  (rpc.serve message).run (Service.during uuids (.steadfast clock)) s

/-- What a call finds the same in two situations, whatever the service has stored: a creation would
get the same uuid, and a lock reads the same time. -/
structure SameChances (rpc : Rpc) (uuids uuids' : Nat → String) (clock clock' : Nat → Instant)
    (s s' : Situation) : Prop where
  uuid : rpc = .createInfobase → uuids s.service.issued = uuids' s'.service.issued
  reading : rpc = .lockInfobase →
    firstReading (.steadfast clock) s.moment = firstReading (.steadfast clock') s'.moment

section Attended

variable {uuids uuids' : Nat → String} {clock clock' : Nat → Instant} {s s' : Situation}

/-- A call tells the same at services that agree on its cluster, and they agree afterwards. -/
theorem attended_agree
    (rpc : Rpc) (message : rpc.Request)
    (hagree : s.service.store.AgreesOn s'.service.store (rpc.clusterId? message))
    (hchances : rpc.SameChances uuids uuids' clock clock' s s') :
    (∃ result, (rpc.attended uuids clock message s).outcome = some result ∧
        (rpc.attended uuids' clock' message s').outcome = some result) ∧
      (rpc.attended uuids clock message s).final.service.store.AgreesOn
        (rpc.attended uuids' clock' message s').final.service.store (rpc.clusterId? message) := by
  obtain ⟨houtcome, hfinal⟩ := (rpc.serve message).run_during uuids (.steadfast clock) s
  obtain ⟨houtcome', hfinal'⟩ := (rpc.serve message).run_during uuids' (.steadfast clock') s'
  have hamounts := rpc.amounts_serve message uuids clock s
  have hamounts' := rpc.amounts_serve message uuids' clock' s'
  have hinquiry :
      rpc.inquiry message (firstReading (.steadfast clock') s'.moment) =
        rpc.inquiry message (firstReading (.steadfast clock) s.moment) := by
    by_cases hlock : rpc = .lockInfobase
    · rw [hchances.reading hlock]
    · exact rpc.inquiry_of_ne_lock message hlock _ _
  rw [hinquiry] at hamounts'
  obtain ⟨htold, hafter⟩ :=
    (rpc.about_inquiry message _).eval_agree hagree hchances.uuid
  rw [attended, attended, houtcome, houtcome', hfinal, hfinal', hamounts.told, hamounts'.told,
    hamounts.service, hamounts'.service]
  exact ⟨⟨_, rfl, congrArg some htold.symm⟩, hafter⟩

/-- A call changes its cluster at most. -/
theorem changesInside_attended (rpc : Rpc) (message : rpc.Request) :
    Store.ChangesInside (rpc.clusterId? message) s.service.store
      (rpc.attended uuids clock message s).final.service.store := by
  rw [attended, ((rpc.serve message).run_during uuids (.steadfast clock) s).2,
    (rpc.amounts_serve message uuids clock s).service]
  exact (rpc.about_inquiry message _).changesInside uuids s.service

/-! ## Two calls in either order -/

/-- The two messages do not name one cluster: they name different ones, or one names none. -/
def Apart (first second : Rpc) (message : first.Request) (message' : second.Request) : Prop :=
  ∀ clusterId, first.clusterId? message = some clusterId →
    second.clusterId? message' ≠ some clusterId

theorem Apart.symm
    {first second : Rpc} {message : first.Request} {message' : second.Request}
    (h : Apart first second message message') : Apart second first message' message :=
  fun clusterId hsecond hfirst => h clusterId hfirst hsecond

/-- Independent calls commute. Two calls whose callers stay, and which are not about one cluster,
tell the same and leave the same store whichever comes first: every creation gets the same uuid in
both orders and every lock reads the same time. -/
theorem commute_of_apart
    {first second : Rpc} {message : first.Request} {message' : second.Request}
    (hapart : Apart first second message message')
    (hstore : s.service.store = s'.service.store)
    (hfirst : first.SameChances uuids uuids' clock clock' s
      (second.attended uuids' clock' message' s').final)
    (hsecond : second.SameChances uuids uuids' clock clock'
      (first.attended uuids clock message s).final s') :
    let early := first.attended uuids clock message s
    let late := second.attended uuids clock message' early.final
    let early' := second.attended uuids' clock' message' s'
    let late' := first.attended uuids' clock' message early'.final
    (∃ result, early.outcome = some result ∧ late'.outcome = some result) ∧
      (∃ result, late.outcome = some result ∧ early'.outcome = some result) ∧
      late.final.service.store = late'.final.service.store := by
  intro early late early' late'
  have hearly : Store.ChangesInside _ s.service.store early.final.service.store :=
    first.changesInside_attended message
  have hlate : Store.ChangesInside _ early.final.service.store late.final.service.store :=
    second.changesInside_attended message'
  have hearly' : Store.ChangesInside _ s'.service.store early'.final.service.store :=
    second.changesInside_attended message'
  have hlate' : Store.ChangesInside _ early'.final.service.store late'.final.service.store :=
    first.changesInside_attended message
  -- Neither call sees what the other one has changed before it.
  obtain ⟨houtcome, hfirstStore⟩ :=
    first.attended_agree message (hstore ▸ hearly'.agreesOn hapart) hfirst
  obtain ⟨houtcome', hsecondStore⟩ :=
    second.attended_agree message' (hstore ▸ (hearly.agreesOn hapart.symm).symm) hsecond
  refine ⟨houtcome, houtcome', Store.ext_get? (fun clusterId => ?_) ?_⟩
  · by_cases hmine : first.clusterId? message = some clusterId
    · rw [hmine] at hfirstStore
      rw [hlate.others clusterId (hapart clusterId hmine)]
      exact hfirstStore
    · rw [hlate'.others clusterId hmine]
      by_cases hother : second.clusterId? message' = some clusterId
      · rw [hother] at hsecondStore
        exact hsecondStore
      · rw [hlate.others clusterId hother, hearly.others clusterId hmine,
          hearly'.others clusterId hother, hstore]
  · rw [hlate.sameClusters.agentAdmins, hearly.sameClusters.agentAdmins,
      hlate'.sameClusters.agentAdmins, hearly'.sameClusters.agentAdmins, hstore]

end Attended

/-- A service with two clusters, and an infobase in the second one. -/
def twoClusters : Service where
  store := (Store.empty.addCluster "c-1").putCluster "c-2"
    { Cluster.new "c-2" with infobases := [{ clusterId := "c-2", uuid := some "ib-1" }] }
  issued := 0

/-- A creation in the first cluster. -/
def tradeFirst : createInfobase.Request :=
  ⟨"c-1", "trade", 2, "db-1", "trade", none, none, none, none, none, none, none, none, none, none⟩

/-- A lock in the second cluster, with a window that ends at some time. -/
def lockSecond : lockInfobase.Request :=
  ⟨"c-2", "ib-1", true, true, some ⟨0, 0⟩, some ⟨100, 0⟩, none, none, none, none⟩

/-- A clock that advances by a second with every moment. -/
def ticking (moment : Nat) : Instant :=
  ⟨moment, 0⟩

/-- The creation before the lock, and the lock after it. -/
def tradeEarly : Run Situation (Except Status createInfobase.Response) :=
  createInfobase.attended (fun _ => "ib-2") ticking tradeFirst ⟨twoClusters, 0⟩

def lockLate : Run Situation (Except Status lockInfobase.Response) :=
  lockInfobase.attended (fun _ => "ib-2") ticking lockSecond tradeEarly.final

/-- The lock before the creation, at the time that it reads after it. -/
def lockEarly : Run Situation (Except Status lockInfobase.Response) :=
  lockInfobase.attended (fun _ => "ib-2") ticking lockSecond
    ⟨twoClusters, tradeEarly.final.moment⟩

def tradeLate : Run Situation (Except Status createInfobase.Response) :=
  createInfobase.attended (fun _ => "ib-2") ticking tradeFirst lockEarly.final

/-- Both calls succeed, whichever comes first. -/
theorem commute_of_apart_create_and_lock :
    (tradeEarly.outcome =
          some (.ok ⟨"ib-2", "trade", "Infobase created successfully", true⟩) ∧
        tradeLate.outcome = tradeEarly.outcome) ∧
      (lockEarly.outcome = some (.ok ⟨"ib-1", "Infobase updated successfully", true⟩) ∧
        lockLate.outcome = lockEarly.outcome) ∧
      lockLate.final.service.store = tradeLate.final.service.store := by
  have hapart : Apart createInfobase lockInfobase tradeFirst lockSecond := by
    intro clusterId hfirst hsecond
    exact absurd (hfirst.trans hsecond.symm) (by decide)
  have hcreate : createInfobase.SameChances (fun _ => "ib-2") (fun _ => "ib-2") ticking ticking
      ⟨twoClusters, 0⟩ lockEarly.final := ⟨fun _ => rfl, nofun⟩
  have hlock : lockInfobase.SameChances (fun _ => "ib-2") (fun _ => "ib-2") ticking ticking
      tradeEarly.final ⟨twoClusters, tradeEarly.final.moment⟩ :=
    ⟨nofun, fun _ => by dsimp only⟩
  obtain ⟨⟨made, hmade, hmade'⟩, ⟨locked, hlocked, hlocked'⟩, hsame⟩ :=
    commute_of_apart hapart (by rfl) hcreate hlock
  have hfirst :
      tradeEarly.outcome =
        some (.ok ⟨"ib-2", "trade", "Infobase created successfully", true⟩) := rfl
  have hsecond :
      lockEarly.outcome = some (.ok ⟨"ib-1", "Infobase updated successfully", true⟩) := rfl
  exact ⟨⟨hfirst, hmade'.trans hmade.symm⟩, ⟨hsecond, hlocked.trans hlocked'.symm⟩, hsame⟩

end Rpc

end InfobaseGateway
