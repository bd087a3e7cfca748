import InfobaseGateway.Proofs.Chain.Standard
import InfobaseGateway.Proofs.Rpc.Plan
import InfobaseGateway.Proofs.Service.Settlement
import InfobaseGateway.Proofs.Store.Effect

/-!
# What a call does to the store

A call at the service in memory settles like the task of its plan, some moments later. So a call
that ends with an error has changed nothing, whatever made it fail and whenever its caller withdrew,
and a call that succeeds has the one effect of its method.
-/

namespace InfobaseGateway

/-! ## Calls at the service -/

namespace Chain

variable {α : Type} (uuids : Nat → String) (course : Course)

/-- The stages read the clock twice before the handler and twice after it. -/
theorem eval_serve_standardStages
    (call : Call) (handler : Operation (Except Status α)) (s : Situation) :
    (serve standardStages call handler).eval uuids course s =
      ((handler.eval uuids course (s.later 2)).1,
        (handler.eval uuids course (s.later 2)).2.later 2) := by
  rw [serve_standardStages]
  simp only [Operation.eval, Operation.eval_bind, Situation.later_later]

end Chain

namespace Rpc

variable (uuids : Nat → String) (course : Course)

/-- The time that the task of a call reads first, when the call comes in at a moment. -/
def firstReading (course : Course) (moment : Nat) : Instant :=
  course.clock (moment + 2)

/-- A call whose message does not convert. -/
theorem eval_serve_of_plan_eq_error
    {rpc : Rpc} {message : rpc.Request} {error : ConversionError}
    (hplan : rpc.plan message = .error error) (s : Situation) :
    (rpc.serve message).eval uuids course s = (.error error.status, s.later 4) := by
  rw [serve, outcome_handle, hplan, Chain.eval_serve_standardStages]
  simp only [perform?, Operation.eval, Situation.later_later]

/-- A call whose message converts. -/
theorem eval_serve_of_plan_eq_ok
    {rpc : Rpc} {message : rpc.Request} {plan : rpc.Plan}
    (hplan : rpc.plan message = .ok plan) (s : Situation) :
    (rpc.serve message).eval uuids course s =
      (plan.answer (plan.task.perform.evalAt uuids course (s.later 2)).1,
        (plan.task.perform.evalAt uuids course (s.later 2)).2.later 2) := by
  rw [serve, outcome_handle, hplan, Chain.eval_serve_standardStages]
  simp only [perform?, Operation.eval_bind, Operation.eval]
  rfl

/-- The task of a call that converts settles two moments after the call comes in. -/
theorem settles_of_plan_eq_ok
    {uuids : Nat → String} (huuids : ∀ n, uuids n ≠ "") (course : Course)
    {rpc : Rpc} (plan : rpc.Plan) (s : Situation) :
    plan.task.Settles uuids course (firstReading course s.moment) s.service
      (plan.task.perform.evalAt uuids course (s.later 2)) :=
  plan.task.settles huuids (s := s.later 2)

/-- What a message asks for, if it converts. -/
def AsksFor (rpc : Rpc) (message : rpc.Request) (task : GatewayTask) : Prop :=
  ∃ plan, rpc.plan message = .ok plan ∧ plan.task = task

end Rpc

/-! ## The effect of a task -/

/-- What a task does to the store when it succeeds. A new infobase gets `uuid`. -/
def GatewayTask.Effect (uuid : String) (before after : Store) : GatewayTask → Prop
  | create request =>
    after = before ∨
      before.Appends after request.clusterId { request.info with uuid := some uuid }
  | update request =>
    before.Patches after request.clusterId request.infobaseId request.info.toAttributes
  | lock request =>
    before.Patches after request.clusterId request.infobaseId request.update.info.toAttributes
  | unlock request =>
    before.Patches after request.clusterId request.infobaseId request.update.info.toAttributes
  | drop request => before.Removes after request.clusterId request.infobaseId
  | terminate request => before.EndsSession after request.clusterId request.sessionId
  | authenticate _ | clusters | cluster _ | sessions _ | infobases _ | infobaseSessions _ _ =>
    after = before

namespace GatewayTask

variable {uuids : Nat → String} {course : Course} {task : GatewayTask} {now : Instant}
  {before : Service} {after : Situation}

theorem effect_of_handle_eq_ok
    {uuid : String} {response : EndpointResponse} {store store' : Store}
    (hhandle : store.handle uuid task.envelope = .ok (response, store')) :
    task.Effect uuid store store' := by
  cases task with
  | create request => exact .inr (Store.appends_of_handle_eq_ok hhandle)
  | update request => exact Store.patches_of_handle_eq_ok rfl rfl hhandle
  | lock lock => exact Store.patches_of_handle_eq_ok rfl rfl hhandle
  | unlock unlock => exact Store.patches_of_handle_eq_ok rfl rfl hhandle
  | drop request => exact Store.removes_of_handle_eq_ok rfl hhandle
  | terminate request => exact Store.endsSession_of_handle_eq_ok hhandle
  | authenticate request => exact Store.eq_of_handle_eq_ok rfl hhandle
  | clusters => exact Store.eq_of_handle_eq_ok rfl hhandle
  | cluster clusterId => exact Store.eq_of_handle_eq_ok rfl hhandle
  | sessions clusterId => exact Store.eq_of_handle_eq_ok rfl hhandle
  | infobases clusterId => exact Store.eq_of_handle_eq_ok rfl hhandle
  | infobaseSessions clusterId infobaseId => exact Store.eq_of_handle_eq_ok rfl hhandle

theorem effect_self_of_isCreation
    (hcreation : task.envelope.IsCreation) (uuid : String) (store : Store) :
    task.Effect uuid store store := by
  cases task with
  | create request => exact .inl rfl
  | _ => exact hcreation.elim

/-- A task that succeeds has its effect. -/
theorem Settles.effect_of_ok
    {result : task.Result} (h : task.Settles uuids course now before (.ok result, after)) :
    task.Effect (uuids before.issued) before.store after.service.store := by
  rcases h.answered_or_found_of_ok with
    ⟨response, store, hhandle, hafter⟩ | ⟨hcreation, hsame⟩
  · rw [hafter]
    exact effect_of_handle_eq_ok hhandle
  · rw [hsame]
    exact effect_self_of_isCreation hcreation _ _

end GatewayTask

/-! ## The effect of a call -/

namespace Rpc

/-- The methods that only ask: queries and checks of credentials. -/
def asking : List Rpc :=
  [authenticateAgent, authenticateCluster, authenticateInfobase, getClusters, getClusterInfo,
    getSessions, getShortInfobases, getInfobaseSessions]

/-- What a call may do to the store of a service, given its result. -/
structure ActsOn (rpc : Rpc) (message : rpc.Request) (uuid : String) (before after : Store)
    (result : Except Status rpc.Response) : Prop where
  eq_of_error : ∀ status, result = .error status → after = before
  eq_of_asking : rpc ∈ asking → after = before
  effect_of_ok : ∀ response, result = .ok response →
    ∃ task, rpc.AsksFor message task ∧ task.Effect uuid before after

/-- The task of an asking method does not change the store. -/
theorem eq_of_effect_of_asking
    {rpc : Rpc} (hasking : rpc ∈ asking) {message : rpc.Request} {task : GatewayTask}
    (hasks : rpc.AsksFor message task) {uuid : String} {before after : Store}
    (heffect : task.Effect uuid before after) : after = before := by
  obtain ⟨plan, hplan, rfl⟩ := hasks
  cases rpc with
  | createInfobase | updateInfobase | dropInfobase => simp [asking] at hasking
  | lockInfobase | unlockInfobase | terminateSession => simp [asking] at hasking
  | _ =>
    cases hplan
    exact heffect

/-- A call at the service in memory comes back. An error leaves the store exactly as it was, for
every way to fail and every moment of withdrawal, and so do the asking methods; a success has the
one effect of its method and touches nothing else. -/
theorem run_serve_actsOn
    {uuids : Nat → String} (huuids : ∀ n, uuids n ≠ "") (course : Course)
    (rpc : Rpc) (message : rpc.Request) (s : Situation) :
    ∃ result, ((rpc.serve message).run (Service.during uuids course) s).outcome = some result ∧
      rpc.ActsOn message (uuids s.service.issued) s.service.store
        ((rpc.serve message).run (Service.during uuids course) s).final.service.store result := by
  obtain ⟨houtcome, hfinal⟩ := (rpc.serve message).run_during uuids course s
  refine ⟨_, houtcome, ?_⟩
  rw [hfinal]
  cases hplan : rpc.plan message with
  | error error =>
    rw [eval_serve_of_plan_eq_error uuids course hplan]
    exact ⟨fun _ _ => rfl, fun _ => rfl, nofun⟩
  | ok plan =>
    have hsettles := settles_of_plan_eq_ok huuids course plan s
    rw [eval_serve_of_plan_eq_ok uuids course hplan]
    generalize plan.task.perform.evalAt uuids course (s.later 2) = ended at hsettles ⊢
    obtain ⟨result, after⟩ := ended
    cases result with
    | error error =>
      have hsame : after.service = s.service := hsettles.service_eq_of_error
      have hstore : after.service.store = s.service.store := congrArg Service.store hsame
      exact ⟨fun _ _ => hstore, fun _ => hstore, nofun⟩
    | ok result =>
      have hasks : rpc.AsksFor message plan.task := ⟨plan, hplan, rfl⟩
      have heffect := hsettles.effect_of_ok
      exact ⟨nofun, fun hasking => eq_of_effect_of_asking hasking hasks heffect,
        fun _ _ => ⟨plan.task, hasks, heffect⟩⟩

/-- A call at the service in memory that succeeds has the effect of its task, if that settles. -/
theorem effect_of_success
    {uuids : Nat → String} {course : Course} {rpc : Rpc} {message : rpc.Request}
    {plan : rpc.Plan} (hplan : rpc.plan message = .ok plan) {s : Situation}
    (hsettles : plan.task.Settles uuids course (firstReading course s.moment) s.service
      (plan.task.perform.evalAt uuids course (s.later 2)))
    {response : rpc.Response}
    (hsuccess : ((rpc.serve message).run (Service.during uuids course) s).outcome =
      some (.ok response)) :
    plan.task.Effect (uuids s.service.issued) s.service.store
      ((rpc.serve message).run (Service.during uuids course) s).final.service.store := by
  obtain ⟨houtcome, hfinal⟩ := (rpc.serve message).run_during uuids course s
  have heval := eval_serve_of_plan_eq_ok uuids course hplan s
  rw [houtcome, heval] at hsuccess
  rw [hfinal, heval]
  obtain ⟨result, hok⟩ := exists_ok_of_answer_eq_ok (Option.some.inj hsuccess)
  have hended : plan.task.perform.evalAt uuids course (s.later 2) =
      (.ok result, (plan.task.perform.evalAt uuids course (s.later 2)).2) := Prod.ext hok rfl
  rw [hended] at hsettles
  exact hsettles.effect_of_ok

/-- A call at the service in memory that succeeds has a message that converts. -/
theorem exists_plan_of_success
    {uuids : Nat → String} {course : Course} {rpc : Rpc} {message : rpc.Request} {s : Situation}
    {response : rpc.Response}
    (hsuccess : ((rpc.serve message).run (Service.during uuids course) s).outcome =
      some (.ok response)) : ∃ plan, rpc.plan message = .ok plan := by
  cases hplan : rpc.plan message with
  | ok plan => exact ⟨plan, rfl⟩
  | error error =>
    obtain ⟨houtcome, -⟩ := (rpc.serve message).run_during uuids course s
    rw [houtcome, eval_serve_of_plan_eq_error uuids course hplan] at hsuccess
    cases hsuccess

/-- The first creation in a cluster has the effect of its task. -/
theorem run_serve_actsOn_first_creation :
    (∀ n : Nat, (fun _ => "ib-1" : Nat → String) n ≠ "") ∧
      ∃ task,
        createInfobase.AsksFor
            ⟨"c-1", "trade", 2, "db-1", "trade", none, none, none, none, none, none, none, none,
              none, none⟩ task ∧
          task.Effect "ib-1" (Store.empty.addCluster "c-1")
            ((createInfobase.serve
                ⟨"c-1", "trade", 2, "db-1", "trade", none, none, none, none, none, none, none,
                  none, none, none⟩).run
              (Service.during (fun _ => "ib-1") (Course.still ⟨0, 0⟩))
              ⟨⟨Store.empty.addCluster "c-1", 0⟩, 0⟩).final.service.store := by
  have huuids : ∀ n : Nat, (fun _ => "ib-1" : Nat → String) n ≠ "" := by simp
  obtain ⟨result, houtcome, hacts⟩ :=
    run_serve_actsOn huuids (Course.still ⟨0, 0⟩) createInfobase
      ⟨"c-1", "trade", 2, "db-1", "trade", none, none, none, none, none, none, none, none, none,
        none⟩
      ⟨⟨Store.empty.addCluster "c-1", 0⟩, 0⟩
  have hok : result = .ok ⟨"ib-1", "trade", "Infobase created successfully", true⟩ :=
    Option.some.inj (houtcome.symm.trans rfl)
  exact ⟨huuids, hacts.effect_of_ok _ hok⟩

end Rpc

end InfobaseGateway
