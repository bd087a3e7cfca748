import InfobaseGateway.Proofs.Operation.Warnings
import InfobaseGateway.Proofs.Request.Window
import InfobaseGateway.Proofs.Rpc.Dialogue
import InfobaseGateway.Proofs.Rpc.Effect

/-!
# Locks with a window

A call that locks an infobase converts its window, checks the ids, reads the clock and checks the
window against it. A window that is refused ends the call before any contact is made, with the words
of the first rule that it breaks. A window that passes and is shorter than a minute leaves one
warning, and the call goes on as the update that the lock stands for.
-/

namespace InfobaseGateway

/-! ## Calls with a window -/

namespace LockInfobase

/-- A lock with both ids reads the clock once and checks its window against it. -/
theorem outcome_perform
    {lock : LockInfobase} (hcluster : Filled lock.clusterId) (hinfobase : Filled lock.infobaseId) :
    lock.perform.outcome =
      .clock fun now =>
        match checkWindow lock.deniedFrom lock.deniedTo now with
        | .ok warnings =>
          (Operation.log warnings).bind fun _ =>
            .note (.event lock.requested) lock.update.perform.outcome
        | .error error => .done (.error (.validation error)) := by
  have hids : validateIds lock.clusterId lock.infobaseId = .ok () :=
    (validateIds_eq_ok_iff _ _ ()).mpr ⟨hcluster, hinfobase⟩
  rw [perform, hids, outcome_ensure_bind]
  dsimp only
  rw [outcome_now_bind]
  congr 1
  funext now
  rw [outcome_ensure_bind]
  cases checkWindow lock.deniedFrom lock.deniedTo now with
  | error error => rfl
  | ok warnings =>
    simp only [Attempt.outcome_log_bind]
    rfl

theorem plan_eq
    (message : LockInfobaseRequest) :
    Rpc.lockInfobase.plan message =
      (ofMessage message).map fun lock =>
        ⟨.lock lock, fun outcome => ⟨outcome.infobaseId, outcome.message, outcome.success⟩⟩ :=
  rfl

end LockInfobase

/-- The state in which the handler of a call starts: the stages around it have read the clock
twice. -/
def Surroundings.handling {σ : Type} (S : Surroundings σ) (s : σ) : σ :=
  (S.clock (S.clock s).2).2

/-- The time that a lock compares its window with. -/
def Surroundings.windowTime {σ : Type} (S : Surroundings σ) (s : σ) : Instant :=
  (S.clock (S.handling s)).1

section Calls

variable {σ : Type} (S : Surroundings σ) (s : σ)

/-- The stages around a handler do not warn, unless the call removes something. -/
theorem Rpc.ownWarnings_serve
    {rpc : Rpc} (hkeeps : rpc ≠ .dropInfobase) (message : rpc.Request) :
    (rpc.serve message).ownWarnings S s =
      (rpc.handle message).outcome.ownWarnings S (S.handling s) := by
  have hback (start : Instant) (result : Except Status rpc.Response) :
      (Chain.wayBack (rpc.call message) start result).LogsOnly Event.IsNoWarning := by
    refine .clock fun stop => .event ?_ (.note nofun (.clock fun _ => .note nofun (.done _)))
    rw [Rpc.auditEvent_call]
    exact fun hwarn => hkeeps ((rpc.recordLevel_iff result).2.1.mp hwarn).2
  have hreceived : (receivedEvent (rpc.call message)).IsNoWarning := nofun
  rw [Rpc.serve, Chain.serve_eq_wayBack, Operation.ownWarnings_note, Operation.ownWarnings_clock,
    Operation.ownWarnings_event S _ hreceived, Operation.ownWarnings_note,
    Operation.ownWarnings_clock, Operation.ownWarnings_note,
    Operation.ownWarnings_bind S _ _ (hback _)]
  rfl

/-- How a call ends that is refused before its handler makes any contact. -/
structure RefusesLock (message : LockInfobaseRequest) (text : String) : Prop where
  outcome : ((Rpc.lockInfobase.serve message).run S s).outcome =
    some (.error ⟨.invalidArgument, text⟩)
  silent : dialogueOf ((Rpc.lockInfobase.serve message).run S s).steps = []
  quiet : (Rpc.lockInfobase.serve message).ownWarnings S s = []

/-- How a call goes on whose window passes: like the update that the lock stands for, a reading of
the clock later. -/
structure ProceedsAs (message : LockInfobaseRequest) (lock : LockInfobase) : Prop where
  converts : LockInfobase.ofMessage message = .ok lock
  dialogue : dialogueOf ((Rpc.lockInfobase.serve message).run S s).steps =
    dialogueOf (lock.update.perform.outcome.run S (S.clock (S.handling s)).2).steps
  outcome : ((Rpc.lockInfobase.serve message).run S s).outcome =
    (lock.update.perform.outcome.run S (S.clock (S.handling s)).2).outcome.map fun result =>
      (result.mapError GatewayError.status).map fun done =>
        ⟨done.infobaseId, done.message, done.success⟩

variable {message : LockInfobaseRequest}

theorem refusesLock_of_ofMessage
    {error : ConversionError} (herror : LockInfobase.ofMessage message = .error error) :
    RefusesLock S s message error.message := by
  have hplan : Rpc.lockInfobase.plan message = .error error := by
    rw [LockInfobase.plan_eq, herror]
    rfl
  obtain ⟨hdialogue, houtcome⟩ := Rpc.run_serve_of_plan_eq_error hplan S s
  refine ⟨houtcome, hdialogue, ?_⟩
  rw [Rpc.ownWarnings_serve S s (by decide), Rpc.outcome_handle, hplan]
  rfl

section Converted

variable {lock : LockInfobase} (hconverts : LockInfobase.ofMessage message = .ok lock)
  (hcluster : Filled lock.clusterId) (hinfobase : Filled lock.infobaseId)

include hconverts in
/-- A call that converts talks, ends and warns as its lock does. -/
theorem run_serve_lockInfobase :
    dialogueOf ((Rpc.lockInfobase.serve message).run S s).steps =
        dialogueOf (lock.perform.outcome.run S (S.handling s)).steps ∧
      ((Rpc.lockInfobase.serve message).run S s).outcome =
        (lock.perform.outcome.run S (S.handling s)).outcome.map (fun result =>
          (result.mapError GatewayError.status).map fun done =>
            ⟨done.infobaseId, done.message, done.success⟩) ∧
      (Rpc.lockInfobase.serve message).ownWarnings S s =
        lock.perform.outcome.ownWarnings S (S.handling s) := by
  have hplan := LockInfobase.plan_eq message
  rw [hconverts] at hplan
  obtain ⟨hdialogue, houtcome⟩ := Rpc.run_serve_of_plan_eq_ok hplan S s
  refine ⟨hdialogue, houtcome, ?_⟩
  rw [Rpc.ownWarnings_serve S s (by decide), Rpc.outcome_handle, hplan]
  exact Operation.ownWarnings_bind S _ _ fun result => .done _

include hconverts hcluster hinfobase

theorem refusesLock_of_checkWindow
    {error : ValidationError}
    (hcheck : checkWindow lock.deniedFrom lock.deniedTo (S.windowTime s) = .error error) :
    RefusesLock S s message error.message := by
  obtain ⟨hdialogue, houtcome, hwarnings⟩ := run_serve_lockInfobase S s hconverts
  have hnow : (S.clock (S.handling s)).1 = S.windowTime s := rfl
  simp only [LockInfobase.outcome_perform hcluster hinfobase, Operation.run, Run.after_steps,
    Run.after_outcome, Operation.ownWarnings_clock, hnow, hcheck] at hdialogue houtcome hwarnings
  exact ⟨houtcome, hdialogue, hwarnings⟩

theorem proceedsAs_of_checkWindow
    {warnings : List Event}
    (hcheck : checkWindow lock.deniedFrom lock.deniedTo (S.windowTime s) = .ok warnings) :
    ProceedsAs S s message lock ∧
      (Rpc.lockInfobase.serve message).ownWarnings S s =
        warnings.filter fun event => event.level = .warn := by
  obtain ⟨hdialogue, houtcome, hwarnings⟩ := run_serve_lockInfobase S s hconverts
  have hnow : (S.clock (S.handling s)).1 = S.windowTime s := rfl
  have hrequested : lock.requested.IsNoWarning := nofun
  simp only [LockInfobase.outcome_perform hcluster hinfobase, Operation.run, Run.after_steps,
    Run.after_outcome, Operation.ownWarnings_clock, hnow, hcheck, Operation.run_log_bind,
    dialogueOf_append, dialogueOf_eventSteps, List.singleton_append, dialogueOf_note,
    dialogueOf_clock, List.nil_append, Operation.ownWarnings_log_bind,
    Operation.ownWarnings_event S _ hrequested,
    Operation.ownWarnings_eq_nil S _ lock.update.logsOnly_perform, List.append_nil]
    at hdialogue houtcome hwarnings
  exact ⟨⟨hconverts, hdialogue, houtcome⟩, hwarnings⟩

end Converted

end Calls

/-! ## The decision -/

namespace LockInfobaseRequest

/-- Converting the request and checking it at the given time both succeed. -/
def IsAcceptedAt (message : LockInfobaseRequest) (now : Instant) : Prop :=
  ∃ lock, LockInfobase.ofMessage message = .ok lock ∧
    validateIds lock.clusterId lock.infobaseId = .ok () ∧
    ∃ warnings, checkWindow lock.deniedFrom lock.deniedTo now = .ok warnings

/-- The request has a window that it may have and that is shorter than a minute. -/
def HasShortWindow (message : LockInfobaseRequest) (now : Instant) : Prop :=
  IsLockWindow now message.deniedFrom message.deniedTo ∧
    ∃ a ∈ message.deniedFrom, ∃ b ∈ message.deniedTo,
      b.instant.nanosSince a.instant < 60 * 1000000000

/-- What becomes of a lock request by its window. -/
structure DecidedByWindow {σ : Type} (message : LockInfobaseRequest) (S : Surroundings σ) (s : σ) :
    Prop where
  /-- It is accepted exactly if it may have its window. -/
  accepted_iff : ∀ now,
    message.IsAcceptedAt now ↔ IsLockWindow now message.deniedFrom message.deniedTo
  /-- A call with such a window goes on as an update. -/
  proceeds : IsLockWindow (S.windowTime s) message.deniedFrom message.deniedTo →
    ∃ lock, ProceedsAs S s message lock
  /-- Every other window breaks some rule first, -/
  broken : ¬IsLockWindow (S.windowTime s) message.deniedFrom message.deniedTo →
    ∃ rule : WindowRule,
      rule.IsFirstBroken (S.windowTime s) message.deniedFrom message.deniedTo
  /-- and that rule refuses the call. -/
  refused : ∀ rule : WindowRule,
    rule.IsFirstBroken (S.windowTime s) message.deniedFrom message.deniedTo →
      RefusesLock S s message rule.message
  /-- A short window leaves one warning, -/
  warned : ∀ a ∈ message.deniedFrom, ∀ b ∈ message.deniedTo,
    message.HasShortWindow (S.windowTime s) →
      (Rpc.lockInfobase.serve message).ownWarnings S s = [shortWindowEvent a.instant b.instant]
  /-- and nothing else leaves any. -/
  quiet : ¬message.HasShortWindow (S.windowTime s) →
    (Rpc.lockInfobase.serve message).ownWarnings S s = []
  /-- Between times that are not leap seconds, the length of a window is exact. -/
  exact : ∀ a ∈ message.deniedFrom, ∀ b ∈ message.deniedTo,
    a.Representable → b.Representable →
      a.nanos.toInt < 1000000000 → b.nanos.toInt < 1000000000 →
        b.instant.nanosSince a.instant =
          (b.seconds.toInt - a.seconds.toInt) * 1000000000 + (b.nanos.toInt - a.nanos.toInt)

variable {message : LockInfobaseRequest}

/-- A request that converts has instants for its ends. -/
theorem representable_of_ofMessage
    {lock : LockInfobase} (hconverts : LockInfobase.ofMessage message = .ok lock) :
    (∀ a ∈ message.deniedFrom, a.Representable) ∧ ∀ b ∈ message.deniedTo, b.Representable := by
  have hplan := LockInfobase.plan_eq message
  rw [hconverts] at hplan
  exact (Rpc.exists_plan_eq_ok_iff .lockInfobase message).mp ⟨_, hplan⟩

theorem isAcceptedAt_iff
    (hcluster : Filled message.clusterId) (hinfobase : Filled message.infobaseId)
    (now : Instant) :
    message.IsAcceptedAt now ↔ IsLockWindow now message.deniedFrom message.deniedTo := by
  constructor
  · rintro ⟨lock, hconverts, -, warnings, hcheck⟩
    obtain ⟨hstart, hstop⟩ := representable_of_ofMessage hconverts
    cases hconverts.symm.trans (LockInfobase.ofMessage_eq_ok hstart hstop)
    by_contra hnot
    obtain ⟨rule, hrule⟩ := exists_isFirstBroken hnot
    obtain ⟨error, herror, -⟩ := checkWindow_eq_error hrule hstart hstop
    cases hcheck.symm.trans herror
  · intro hwindow
    obtain ⟨warnings, hcheck, -⟩ := checkWindow_eq_ok hwindow
    exact ⟨message.lock,
      LockInfobase.ofMessage_eq_ok (hwindow.holds .startInRange) (hwindow.holds .stopInRange),
      (validateIds_eq_ok_iff _ _ ()).mpr ⟨hcluster, hinfobase⟩, warnings, hcheck⟩

section Calls

variable {σ : Type} (S : Surroundings σ) (s : σ)
  (hcluster : Filled message.clusterId) (hinfobase : Filled message.infobaseId)

include hcluster hinfobase

/-- The first rule that is broken refuses the call. -/
theorem refusesLock_of_isFirstBroken
    {rule : WindowRule}
    (hrule : rule.IsFirstBroken (S.windowTime s) message.deniedFrom message.deniedTo) :
    RefusesLock S s message rule.message := by
  by_cases hstart : ∀ a ∈ message.deniedFrom, a.Representable
  · by_cases hstop : ∀ b ∈ message.deniedTo, b.Representable
    · obtain ⟨error, hcheck, hmessage⟩ := checkWindow_eq_error hrule hstart hstop
      rw [← hmessage]
      exact refusesLock_of_checkWindow S s (LockInfobase.ofMessage_eq_ok hstart hstop) hcluster
        hinfobase hcheck
    · have hfirst :
          WindowRule.stopInRange.IsFirstBroken (S.windowTime s) message.deniedFrom
            message.deniedTo := by
        refine ⟨hstop, fun earlier hplace => ?_⟩
        cases earlier with
        | startInRange => exact hstart
        | _ => exact absurd hplace (by decide)
      obtain rfl := hrule.unique hfirst
      exact refusesLock_of_ofMessage S s (LockInfobase.ofMessage_of_stop hstart hstop)
  · have hfirst :
        WindowRule.startInRange.IsFirstBroken (S.windowTime s) message.deniedFrom
          message.deniedTo :=
      ⟨hstart, fun earlier hplace => absurd hplace (Nat.not_lt_zero _)⟩
    obtain rfl := hrule.unique hfirst
    exact refusesLock_of_ofMessage S s (LockInfobase.ofMessage_of_start hstart)

/-- A window that passes lets the call go on, and may leave a warning. -/
theorem proceedsAs_of_isLockWindow
    (hwindow : IsLockWindow (S.windowTime s) message.deniedFrom message.deniedTo) :
    (∃ lock, ProceedsAs S s message lock) ∧
      (∀ a ∈ message.deniedFrom, ∀ b ∈ message.deniedTo,
        b.instant.nanosSince a.instant < shortWindow →
          (Rpc.lockInfobase.serve message).ownWarnings S s =
            [shortWindowEvent a.instant b.instant]) ∧
      ((¬∃ a ∈ message.deniedFrom, ∃ b ∈ message.deniedTo,
          b.instant.nanosSince a.instant < shortWindow) →
        (Rpc.lockInfobase.serve message).ownWarnings S s = []) := by
  have hconverts : LockInfobase.ofMessage message = .ok message.lock :=
    LockInfobase.ofMessage_eq_ok (hwindow.holds .startInRange) (hwindow.holds .stopInRange)
  obtain ⟨warnings, hcheck, hshort, hlong⟩ := checkWindow_eq_ok hwindow
  obtain ⟨hproceeds, hwarnings⟩ :=
    proceedsAs_of_checkWindow S s hconverts hcluster hinfobase hcheck
  refine ⟨⟨message.lock, hproceeds⟩, fun a ha b hb hbelow => ?_, fun hnone => ?_⟩
  · rw [hwarnings, hshort a ha b hb hbelow]
    rfl
  · rw [hwarnings, hlong hnone]
    rfl

/-- A lock request with both ids is decided by its window: it is accepted exactly if it has no
window, or one of two points in time, the second after the first and not before the time of the
check. Every other window is refused by the first rule that it breaks, before any contact is made.
A warning is left exactly by a window that is accepted and shorter than a minute. -/
theorem decidedByWindow : message.DecidedByWindow S s where
  accepted_iff := isAcceptedAt_iff hcluster hinfobase
  proceeds hwindow := (proceedsAs_of_isLockWindow S s hcluster hinfobase hwindow).1
  broken := exists_isFirstBroken
  refused rule hrule := refusesLock_of_isFirstBroken S s hcluster hinfobase hrule
  warned a ha b hb := by
    rintro ⟨hwindow, a', ha', b', hb', hshort⟩
    cases Option.mem_unique ha ha'
    cases Option.mem_unique hb hb'
    exact (proceedsAs_of_isLockWindow S s hcluster hinfobase hwindow).2.1 a ha b hb hshort
  quiet hlong := by
    by_cases hwindow : IsLockWindow (S.windowTime s) message.deniedFrom message.deniedTo
    · refine (proceedsAs_of_isLockWindow S s hcluster hinfobase hwindow).2.2 fun hshort => ?_
      exact hlong ⟨hwindow, hshort⟩
    · obtain ⟨rule, hrule⟩ := exists_isFirstBroken hwindow
      exact (refusesLock_of_isFirstBroken S s hcluster hinfobase hrule).quiet
  exact a _ b _ hstart hstop ha hb := by
    have hnanos {t : Timestamp} (h : t.Representable) (hlast : t.nanos.toInt < 1000000000) :
        t.instant.nanos < Instant.second ∧ (t.instant.nanos : Int) = t.nanos.toInt := by
      have hparts : (t.instant.nanos : Int) = t.nanos.toInt := congrArg Prod.snd h.parts_instant
      have hsecond : (Instant.second : Int) = 1000000000 := rfl
      exact ⟨by omega, hparts⟩
    rw [Instant.nanosSince_of_nanos_lt (hnanos hstop hb).1 (hnanos hstart ha).1,
      (hnanos hstop hb).2, (hnanos hstart ha).2]
    rfl

end Calls

/-- A window of half a minute that lies ahead. -/
theorem decidedByWindow_half_minute :
    let message : LockInfobaseRequest :=
      ⟨"c-1", "ib-1", true, false, some ⟨100, 0⟩, some ⟨130, 0⟩, none, none, none, none⟩
    Filled message.clusterId ∧ Filled message.infobaseId ∧
      (Rpc.lockInfobase.serve message).ownWarnings Surroundings.echoing () =
        [shortWindowEvent ⟨100, 0⟩ ⟨130, 0⟩] := by
  intro message
  have hcluster : Filled message.clusterId := ⟨'c', by decide, by decide⟩
  have hinfobase : Filled message.infobaseId := ⟨'i', by decide, by decide⟩
  have hrepresentable {seconds : Int64} (h : seconds.toInt = 100 ∨ seconds.toInt = 130) :
      (⟨seconds, 0⟩ : Timestamp).Representable := by
    rcases h with h | h
    · simp [Timestamp.Representable, h, Instant.range, Instant.second]
    · simp [Timestamp.Representable, h, Instant.range, Instant.second]
  have hwindow : IsLockWindow (Surroundings.echoing.windowTime ()) message.deniedFrom
      message.deniedTo :=
    ⟨hrepresentable (.inl rfl), hrepresentable (.inr rfl),
      Prod.Lex.toLex_lt_toLex.mpr (.inl (by decide)),
      Prod.Lex.toLex_le_toLex.mpr (.inl (by decide))⟩
  have hdecided : message.DecidedByWindow Surroundings.echoing () :=
    decidedByWindow Surroundings.echoing () hcluster hinfobase
  have hstart : (⟨100, 0⟩ : Timestamp).instant = ⟨100, 0⟩ := by decide
  have hstop : (⟨130, 0⟩ : Timestamp).instant = ⟨130, 0⟩ := by decide
  have hshort : message.HasShortWindow (Surroundings.echoing.windowTime ()) := by
    refine ⟨hwindow, _, rfl, _, rfl, ?_⟩
    rw [hstart, hstop]
    decide
  have hwarned := hdecided.warned ⟨100, 0⟩ rfl ⟨130, 0⟩ rfl hshort
  rw [hstart, hstop] at hwarned
  exact ⟨hcluster, hinfobase, hwarned⟩

end LockInfobaseRequest

end InfobaseGateway
