import InfobaseGateway.Operation.Query
import InfobaseGateway.Operation.Removal
import InfobaseGateway.Operation.Session
import InfobaseGateway.Proofs.Operation.Preparation
import InfobaseGateway.Proofs.Operation.Task

/-!
# How the tasks prepare themselves

Every task checks its request and leaves a record of it. Two tasks read the clock for this: a lock
checks its window against the time, and a removal tells the time in its first record. The verdict of
a task is what its checks come to, and it says whether the request is valid and supported.
-/

namespace InfobaseGateway

/-- The verdict of a check. -/
def verdictOf {α : Type} : Except ValidationError α → Except GatewayError Unit
  | .ok _ => .ok ()
  | .error error => .error (.validation error)

section

open Operation

theorem prepares_ensure (check : Except ValidationError Unit) :
    (ensure check).outcome.Prepares false fun _ => verdictOf check := by
  cases check with
  | ok u => exact .passed fun _ => rfl
  | error error => exact .refused fun _ => rfl

/-- A check, and a record of what passed it. -/
theorem prepares_check {α : Type}
    (check : Except ValidationError α) {event : α → Event} (hmild : ∀ a, (event a).Mild) :
    (do let a ← ensure check; Attempt.log [event a] : GatewayAttempt Unit).outcome.Prepares false
      fun _ => verdictOf check := by
  cases check with
  | ok a => exact .record (hmild a) (.passed fun _ => rfl)
  | error error => exact .refused fun _ => rfl

end

/-! ## Preparations -/

def CreateInfobase.preparation (request : CreateInfobase) : GatewayAttempt Unit := do
  let dbms ← ensure request.validate
  Attempt.log [request.requested dbms]

def TerminateSession.preparation (request : TerminateSession) : GatewayAttempt Unit := do
  ensure request.validate
  Attempt.log [⟨.info, "TerminateSession request", request.fields⟩]

def Authenticate.preparation (request : Authenticate) : GatewayAttempt Unit := do
  ensure request.validate
  Attempt.log [⟨.info, "Authenticate request",
    request.fields ++ optionalField "user" request.credentials.user⟩]

namespace UpdateInfobase

variable (request : UpdateInfobase)

def preparation : GatewayAttempt Unit := do
  ensure (validateIds request.clusterId request.infobaseId)
  Attempt.log [request.requested]

theorem prepares :
    request.preparation.outcome.Prepares false fun _ =>
      verdictOf (validateIds request.clusterId request.infobaseId) :=
  prepares_check _ fun _ => Event.mild_of_info rfl rfl

end UpdateInfobase

namespace UnlockInfobase

variable (unlock : UnlockInfobase)

def preparation : GatewayAttempt Unit := do
  ensure (validateIds unlock.clusterId unlock.infobaseId)
  Attempt.log [unlock.requested]
  unlock.update.preparation

theorem prepares :
    unlock.preparation.outcome.Prepares false fun _ =>
      verdictOf (validateIds unlock.clusterId unlock.infobaseId) := by
  refine Operation.prepares_ensure_bind (fun error hids now => congrArg verdictOf hids) ?_
  intro u hids
  apply Operation.prepares_record_bind
  · exact Event.mild_of_info rfl rfl
  exact unlock.update.prepares

end UnlockInfobase

theorem mild_of_mem_checkWindow
    {start stop : Option Instant} {now : Instant} {warnings : List Event}
    (hcheck : checkWindow start stop now = .ok warnings) :
    ∀ event ∈ warnings, event.Mild := by
  have hshort (start stop : Instant) : (shortWindowEvent start stop).Mild := ⟨rfl, nofun⟩
  unfold checkWindow at hcheck
  split at hcheck
  · cases hcheck
    exact List.forall_mem_nil _
  · split at hcheck
    · cases hcheck
    · split at hcheck
      · cases hcheck
      · split at hcheck
        · cases hcheck
          exact List.forall_mem_singleton.mpr (hshort _ _)
        · cases hcheck
          exact List.forall_mem_nil _
  · cases hcheck

namespace LockInfobase

variable (lock : LockInfobase)

def preparation : GatewayAttempt Unit := do
  ensure (validateIds lock.clusterId lock.infobaseId)
  let now ← Operation.now
  let warnings ← ensure (checkWindow lock.deniedFrom lock.deniedTo now)
  Attempt.log warnings
  Attempt.log [lock.requested]
  lock.update.preparation

def admission (now : Instant) : Except GatewayError Unit :=
  match validateIds lock.clusterId lock.infobaseId with
  | .ok _ => verdictOf (checkWindow lock.deniedFrom lock.deniedTo now)
  | .error error => .error (.validation error)

/-- A lock whose window passes is admitted as its update is, which checks the ids again. -/
theorem admission_of_checkWindow
    {now : Instant} {warnings : List Event}
    (hwindow : checkWindow lock.deniedFrom lock.deniedTo now = .ok warnings) :
    lock.admission now =
      verdictOf (validateIds lock.update.clusterId lock.update.infobaseId) := by
  have hsame : validateIds lock.update.clusterId lock.update.infobaseId =
      validateIds lock.clusterId lock.infobaseId := rfl
  rw [admission, hwindow, hsame]
  cases validateIds lock.clusterId lock.infobaseId with
  | _ => rfl

theorem prepares : lock.preparation.outcome.Prepares true lock.admission := by
  refine Operation.prepares_ensure_bind (fun error hids now => by rw [admission, hids]) ?_
  intro u hids
  refine Operation.prepares_now_bind fun now => ?_
  refine Operation.prepares_ensure_bind
    (fun error hwindow _ => by rw [admission, hids, hwindow]; rfl) ?_
  intro warnings hwindow
  refine Operation.prepares_log_bind (mild_of_mem_checkWindow hwindow) ?_
  apply Operation.prepares_record_bind
  · exact Event.mild_of_info rfl rfl
  rw [lock.admission_of_checkWindow hwindow]
  exact lock.update.prepares

end LockInfobase

namespace DropInfobase

variable (request : DropInfobase)

def preparation : GatewayAttempt Unit := do
  let mode ← ensure request.validate
  if mode ≠ .unregisterOnly then
    Attempt.log [request.unsupported mode]
    throw (.unsupportedDropMode mode)
  let now ← Operation.now
  Attempt.log [request.requested mode now]

def admission : Except GatewayError Unit :=
  match request.validate with
  | .ok mode => if mode = .unregisterOnly then .ok () else .error (.unsupportedDropMode mode)
  | .error error => .error (.validation error)

theorem prepares : request.preparation.outcome.Prepares true fun _ => request.admission := by
  refine Operation.prepares_ensure_bind (fun error hfail now => by rw [admission, hfail]) ?_
  intro mode hmode
  by_cases hsupported : mode = .unregisterOnly
  · have hok : request.admission = .ok () := by rw [admission, hmode, hsupported]; rfl
    simp only [if_neg (not_not_intro hsupported)]
    refine Operation.prepares_now_bind fun now => ?_
    exact .record ⟨rfl, nofun⟩ (.passed fun _ => hok)
  · have herror : request.admission = .error (.unsupportedDropMode mode) := by
      rw [admission, hmode]
      exact if_neg hsupported
    simp only [if_pos hsupported]
    exact .record ⟨rfl, nofun⟩ (.refused fun _ => herror)

end DropInfobase

namespace GatewayTask

/-- What a task does before its first contact. -/
def preparation : GatewayTask → GatewayAttempt Unit
  | create request => request.preparation
  | update request => request.preparation
  | drop request => request.preparation
  | lock request => request.preparation
  | unlock request => request.preparation
  | terminate request => request.preparation
  | authenticate request => request.preparation
  | clusters => pure ()
  | cluster clusterId | sessions clusterId | infobases clusterId =>
    ensure (requireText "cluster_id" clusterId)
  | infobaseSessions clusterId infobaseId => ensure (validateIds clusterId infobaseId)

/-- Whether a task reads the clock before its first contact. -/
def readsClock : GatewayTask → Bool
  | drop _ | lock _ => true
  | _ => false

/-- The verdict on the request of a task at the time that it reads first. -/
def admission : GatewayTask → Instant → Except GatewayError Unit
  | create request, _ => verdictOf request.validate
  | update request, _ => verdictOf (validateIds request.clusterId request.infobaseId)
  | drop request, _ => request.admission
  | lock request, now => request.admission now
  | unlock request, _ => verdictOf (validateIds request.clusterId request.infobaseId)
  | terminate request, _ => verdictOf request.validate
  | authenticate request, _ => verdictOf request.validate
  | clusters, _ => .ok ()
  | cluster clusterId, _ | sessions clusterId, _ | infobases clusterId, _ =>
    verdictOf (requireText "cluster_id" clusterId)
  | infobaseSessions clusterId infobaseId, _ => verdictOf (validateIds clusterId infobaseId)

/-- The preparation of a task comes to the verdict on its request. -/
theorem prepares (task : GatewayTask) :
    task.preparation.outcome.Prepares task.readsClock task.admission := by
  cases task with
  | create request => exact prepares_check _ fun _ => Event.mild_of_info rfl rfl
  | update request => exact request.prepares
  | drop request => exact request.prepares
  | lock request => exact request.prepares
  | unlock request => exact request.prepares
  | terminate request => exact prepares_check _ fun _ => Event.mild_of_info rfl rfl
  | authenticate request => exact prepares_check _ fun _ => Event.mild_of_info rfl rfl
  | clusters => exact .passed fun _ => rfl
  | cluster clusterId | sessions clusterId | infobases clusterId => exact prepares_ensure _
  | infobaseSessions clusterId infobaseId => exact prepares_ensure _

end GatewayTask

/-! ## Verdicts -/

namespace GatewayTask

variable {task : GatewayTask} {now : Instant}

/-- What the verdict on a request says about it. -/
inductive Admits (task : GatewayTask) (now : Instant) : Except GatewayError Unit → Prop
  | admitted (hvalid : task.Valid now) (hsupported : ¬task.Unsupported) : Admits task now (.ok ())
  | invalid (hinvalid : ¬task.Valid now) (error : ValidationError) :
      Admits task now (.error (.validation error))
  | unsupported (hvalid : task.Valid now) (hunsupported : task.Unsupported) (mode : DropMode) :
      Admits task now (.error (.unsupportedDropMode mode))

theorem admits_verdictOf {α : Type} {check : Except ValidationError α}
    (hvalid : (∃ a, check = .ok a) ↔ task.Valid now) (hsupported : ¬task.Unsupported) :
    task.Admits now (verdictOf check) := by
  cases check with
  | ok a => exact .admitted (hvalid.mp ⟨a, rfl⟩) hsupported
  | error error =>
    refine .invalid (fun h => ?_) error
    obtain ⟨a, ha⟩ := hvalid.mpr h
    cases ha

theorem admits_lock (lock : LockInfobase) (now : Instant) :
    (GatewayTask.lock lock).Admits now (lock.admission now) := by
  rw [LockInfobase.admission]
  cases hids : validateIds lock.clusterId lock.infobaseId with
  | error error =>
    refine .invalid (fun hvalid => ?_) error
    cases hids.symm.trans ((validateIds_eq_ok_iff _ _ ()).mpr hvalid.1)
  | ok u =>
    have hfilled := (validateIds_eq_ok_iff _ _ u).mp hids
    refine admits_verdictOf ?_ id
    rw [exists_checkWindow_eq_ok_iff]
    exact ⟨fun hwindow => ⟨hfilled, hwindow⟩, fun hvalid => hvalid.2⟩

theorem admits_drop (request : DropInfobase) (now : Instant) :
    (drop request).Admits now request.admission := by
  rw [DropInfobase.admission]
  cases hvalidate : request.validate with
  | error error =>
    refine .invalid (fun hvalid => ?_) error
    obtain ⟨mode, hmode⟩ := request.exists_validate_eq_ok_iff.mpr hvalid
    cases hvalidate.symm.trans hmode
  | ok mode =>
    have hvalid : (drop request).Valid now :=
      request.exists_validate_eq_ok_iff.mp ⟨mode, hvalidate⟩
    have hmode := ((request.validate_eq_ok_iff mode).mp hvalidate).2.2
    by_cases hsupported : mode = .unregisterOnly
    · simp only [if_pos hsupported]
      exact .admitted hvalid fun h => h (hsupported ▸ hmode)
    · simp only [if_neg hsupported]
      refine .unsupported hvalid (fun hsame => ?_) mode
      exact hsupported (Option.some.inj (hmode.symm.trans hsame))

theorem admits_admission (task : GatewayTask) (now : Instant) :
    task.Admits now (task.admission now) := by
  cases task with
  | create request => exact admits_verdictOf request.exists_validate_eq_ok_iff id
  | drop request => exact admits_drop request now
  | lock request => exact admits_lock request now
  | terminate request => exact admits_verdictOf (exists_eq_ok_iff request.validate_eq_ok_iff) id
  | authenticate request =>
    exact admits_verdictOf (exists_eq_ok_iff request.validate_eq_ok_iff) id
  | clusters => exact .admitted trivial id
  | cluster clusterId | sessions clusterId | infobases clusterId =>
    exact admits_verdictOf (exists_eq_ok_iff (requireText_eq_ok_iff _ _)) id
  | update _ | unlock _ | infobaseSessions _ _ =>
    exact admits_verdictOf (exists_eq_ok_iff (validateIds_eq_ok_iff _ _)) id

/-- A task is turned down exactly if its verdict is a failure. -/
theorem refused_iff (task : GatewayTask) (now : Instant) :
    task.Refused now ↔ ∃ error, task.admission now = .error error := by
  have hadmits := task.admits_admission now
  unfold Refused
  cases hverdict : task.admission now with
  | ok u =>
    rw [hverdict] at hadmits
    cases hadmits with
    | admitted hvalid hsupported => simp [hvalid, hsupported]
  | error error =>
    rw [hverdict] at hadmits
    refine iff_of_true ?_ ⟨error, rfl⟩
    cases hadmits with
    | invalid hinvalid error => exact .inl hinvalid
    | unsupported hvalid hunsupported mode => exact .inr hunsupported

theorem admission_eq_ok (hadmitted : ¬task.Refused now) : task.admission now = .ok () := by
  cases hverdict : task.admission now with
  | ok u => rfl
  | error error => exact absurd ((task.refused_iff now).mpr ⟨error, hverdict⟩) hadmitted

end GatewayTask

end InfobaseGateway
