import InfobaseGateway.Proofs.Operation.Reporting

/-!
# System faults in the log

What it means for the runs of a task that its records agree with its result, whatever its
surroundings answer and whenever its caller withdraws: every system fault is in the log at error
level with its detail, and nothing else is. The exception is a creation that is answered without the
id of the new infobase.
-/

namespace InfobaseGateway

/-! ## What a run leaves in the log -/

namespace Operation.Reports

variable {σ α : Type} {excused : Prop} {told : Option String}
  {p : Operation (Except GatewayError α)} {S : Surroundings σ}

/-- A program writes none of the records of the stages. -/
theorem isOfStage_eq_false
    (h : p.Reports excused told) (s : σ) :
    ∀ event ∈ p.ownEvents S s, event.isOfStage = false := by
  induction h generalizing s with
  | silent hquiet => exact List.forall_mem_nil _
  | reported hreportable => exact List.forall_mem_nil _
  | mild hmild hnext ih =>
    rw [ownEvents_event]
    exact List.forall_mem_cons.mpr ⟨hmild.operation, ih s⟩
  | blame hblames hnext ih =>
    rw [ownEvents_event]
    exact List.forall_mem_cons.mpr ⟨hblames.operation, ih s⟩
  | clock hnext ih => exact ih _ _
  | checkpoint hnext ih => exact ih _ _
  | acquire habandoned hnext ih =>
    rw [ownEvents_acquire]
    cases (S.acquire s).1.reply with
    | none => exact fun event hevent => (habandoned event hevent).operation
    | some reply => exact ih reply _
  | send habandoned hnext ih =>
    rw [ownEvents_send]
    cases (S.send _ s).1.reply with
    | none => exact fun event hevent => (habandoned event hevent).operation
    | some reply => exact ih reply _

/-- A program that has reported something ends with a failure that is to be reported, and with the
detail that was reported last or with one that is still to come. -/
theorem exists_failure
    (h : p.Reports excused told) (htold : told ≠ none) (s : σ) :
    ∃ error, (p.run S s).outcome = some (.error error) ∧ error.IsReportable excused := by
  induction h generalizing s with
  | silent hquiet => exact absurd rfl htold
  | @reported error hreportable => exact ⟨error, rfl, hreportable⟩
  | mild hmild hnext ih => exact ih htold s
  | blame hblames hnext ih => exact ih nofun s
  | clock hnext ih => exact ih _ htold _
  | checkpoint hnext ih => exact absurd rfl htold
  | acquire habandoned hnext ih => exact absurd rfl htold
  | send habandoned hnext ih => exact absurd rfl htold

/-- A failure that is to be reported has been told, or a record of it is in the log. -/
theorem told_or_mem
    (h : p.Reports excused told) (s : σ) {error : GatewayError}
    (hreportable : error.IsReportable excused)
    (hfailed : (p.run S s).outcome = some (.error error)) :
    told = some error.logDetail ∨ ∃ event ∈ p.ownEvents S s, event.Blames error.logDetail := by
  induction h generalizing s with
  | silent hquiet =>
    cases hfailed
    exact absurd hreportable (hquiet error rfl)
  | reported _ =>
    cases hfailed
    exact .inl rfl
  | @mild told event next hmild hnext ih =>
    rw [ownEvents_event]
    rcases ih s hfailed with htold | ⟨record, hrecord, hblames⟩
    · exact .inl htold
    · exact .inr ⟨record, List.mem_cons_of_mem event hrecord, hblames⟩
  | @blame told detail event next hblames hnext ih =>
    rw [ownEvents_event]
    rcases ih s hfailed with htold | ⟨record, hrecord, hrecordBlames⟩
    · cases htold
      exact .inr ⟨event, List.mem_cons_self, hblames⟩
    · exact .inr ⟨record, List.mem_cons_of_mem event hrecord, hrecordBlames⟩
  | clock hnext ih => exact ih _ _ hfailed
  | checkpoint hnext ih => exact ih _ _ hfailed
  | acquire habandoned hnext ih =>
    rw [outcome_run_acquire] at hfailed
    rw [ownEvents_acquire]
    cases hreply : (S.acquire s).1.reply with
    | none =>
      rw [hreply] at hfailed
      cases hfailed
    | some reply =>
      rw [hreply] at hfailed
      exact ih reply _ hfailed
  | @send request abandoned next habandoned hnext ih =>
    rw [outcome_run_send] at hfailed
    rw [ownEvents_send]
    cases hreply : (S.send request s).1.reply with
    | none =>
      rw [hreply] at hfailed
      cases hfailed
    | some reply =>
      rw [hreply] at hfailed
      exact ih reply _ hfailed

/-- Without a failure that is to be reported, nothing is logged at error level. -/
theorem level_ne_error
    (h : p.Reports excused told) (s : σ)
    (hquiet : ∀ error, (p.run S s).outcome = some (.error error) → ¬error.IsReportable excused) :
    ∀ event ∈ p.ownEvents S s, event.level ≠ .error := by
  induction h generalizing s with
  | silent _ => exact List.forall_mem_nil _
  | reported _ => exact List.forall_mem_nil _
  | mild hmild hnext ih =>
    rw [ownEvents_event]
    exact List.forall_mem_cons.mpr ⟨hmild.level, ih s hquiet⟩
  | blame hblames hnext ih =>
    obtain ⟨error, hfailed, hreportable⟩ := hnext.exists_failure nofun s
    exact absurd hreportable (hquiet error hfailed)
  | clock hnext ih => exact ih _ _ hquiet
  | checkpoint hnext ih => exact ih _ _ hquiet
  | acquire habandoned hnext ih =>
    rw [outcome_run_acquire] at hquiet
    rw [ownEvents_acquire]
    cases hreply : (S.acquire s).1.reply with
    | none => exact fun event hevent => (habandoned event hevent).level
    | some reply =>
      rw [hreply] at hquiet
      exact ih reply _ hquiet
  | @send request abandoned next habandoned hnext ih =>
    rw [outcome_run_send] at hquiet
    rw [ownEvents_send]
    cases hreply : (S.send request s).1.reply with
    | none => exact fun event hevent => (habandoned event hevent).level
    | some reply =>
      rw [hreply] at hquiet
      exact ih reply _ hquiet

end Operation.Reports

namespace GatewayTask

/-- What a task has logged agrees with how it ended. -/
structure LogsFaults (task : GatewayTask) (events : List Event)
    (outcome : Option (Except GatewayError task.Result)) : Prop where
  /-- A system fault is in the log at error level, with its detail. A missing id is the exception. -/
  fault_logged : ∀ error, outcome = some (.error error) → error.isSystemFault = true →
    ¬(task.IsCreation ∧ error = .missingInfobaseId) →
      ∃ event ∈ events, event.level = .error ∧ event.field? "error" = some error.logDetail
  /-- A failure that is no system fault leaves nothing at error level. -/
  rejection_quiet : ∀ error, outcome = some (.error error) → error.isSystemFault = false →
    ∀ event ∈ events, event.level ≠ .error
  success_quiet : ∀ result, outcome = some (.ok result) → ∀ event ∈ events, event.level ≠ .error
  abandoned_quiet : outcome = none → ∀ event ∈ events, event.level ≠ .error
  missing_quiet : task.IsCreation → outcome = some (.error .missingInfobaseId) →
    ∀ event ∈ events, event.level ≠ .error

/-- In all surroundings, what a task logs itself at error level agrees with how it ends: its system
faults are there, with their details, and nothing else is. Only the missing id of a new infobase is
a system fault without a record. -/
theorem logsFaults {σ : Type} (task : GatewayTask) (S : Surroundings σ) (s : σ) :
    task.LogsFaults (task.perform.outcome.ownEvents S s) (task.perform.outcome.run S s).outcome := by
  have hreports := task.reports_perform
  have hquiet
      (hnone : ∀ error, (task.perform.outcome.run S s).outcome = some (.error error) →
        ¬error.IsReportable task.IsCreation) :
      ∀ event ∈ task.perform.outcome.ownEvents S s, event.level ≠ .error :=
    hreports.level_ne_error s hnone
  constructor
  · intro error hfailed hfault hexcused
    rcases hreports.told_or_mem s ⟨hfault, hexcused⟩ hfailed with htold | ⟨event, hevent, hblames⟩
    · cases htold
    · exact ⟨event, hevent, hblames.level, hblames.detail⟩
  · intro error hfailed hfault
    apply hquiet
    intro other hother hreportable
    rw [hfailed] at hother
    cases hother
    rw [hreportable.1] at hfault
    cases hfault
  · intro result hsuccess
    apply hquiet
    intro error hfailed
    rw [hsuccess] at hfailed
    cases hfailed
  · intro habandoned
    apply hquiet
    intro error hfailed
    rw [habandoned] at hfailed
    cases hfailed
  · intro hcreation hmissing
    apply hquiet
    intro error hfailed hreportable
    rw [hmissing] at hfailed
    cases hfailed
    exact hreportable.2 ⟨hcreation, rfl⟩

end GatewayTask

/-- Surroundings whose endpoint lists no infobases, and sends the record of a new one back as it got
it. -/
def Surroundings.echoing : Surroundings Unit where
  cancelled _ := false
  clock _ := (⟨0, 0⟩, ())
  acquire _ := ({ reply := some (.ok ()) }, ())
  send
    | .createInfobase info, _ => ({ reply := some (.ok (.infobase info)) }, ())
    | _, _ => ({ reply := some (.ok (.infobaseSummaries [])) }, ())

namespace GatewayTask

/-- A creation whose record comes back without an id fails with a system fault and logs nothing at
error level. -/
theorem missing_id_not_logged :
    let creation := create (.bare "c-1" "accounting")
    (creation.perform.outcome.run Surroundings.echoing ()).outcome =
        some (.error .missingInfobaseId) ∧
      GatewayError.missingInfobaseId.isSystemFault = true ∧
      ∀ event ∈ creation.perform.outcome.ownEvents Surroundings.echoing (),
        event.level ≠ .error := by
  refine ⟨rfl, rfl, ?_⟩
  have hlog :
      (create (.bare "c-1" "accounting")).perform.outcome.ownEvents Surroundings.echoing () =
        [(CreateInfobase.bare "c-1" "accounting").requested .postgreSql] := rfl
  rw [hlog]
  exact List.forall_mem_singleton.mpr nofun

end GatewayTask

end InfobaseGateway
