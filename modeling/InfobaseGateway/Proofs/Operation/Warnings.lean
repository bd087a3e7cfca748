import InfobaseGateway.Proofs.Operation.OwnEvents
import InfobaseGateway.Proofs.Operation.Performance

/-!
# Warnings

The warnings among the events that a program logs itself. Programs without any are composed of parts
without any, and an update is one of them.
-/

namespace InfobaseGateway

/-- An event that is not a warning. -/
def Event.IsNoWarning (event : Event) : Prop :=
  event.level ≠ .warn

/-- The warnings that a program logs itself. -/
def Operation.ownWarnings {σ α : Type} (p : Operation α) (S : Surroundings σ) (s : σ) :
    List Event :=
  (p.ownEvents S s).filter fun event => event.level = .warn

theorem isNoWarning_requestFailure
    (operation clusterId : String) (infobaseId : Option String) (error : GatewayError) :
    (requestFailure operation clusterId infobaseId error).IsNoWarning := by
  unfold requestFailure
  cases error.isSystemFault with
  | _ => exact nofun

section Warnings

open Operation

variable {α : Type}

theorem Closing.logsOnly
    {good : Event → Prop} {closing : Closing α} (hrecords : closing.records.All good) :
    closing.program.LogsOnly good := by
  refine .log_bind hrecords.events ?_
  cases hstamped : closing.records.stamped? with
  | none => exact .done _
  | some record => exact .clock fun now => .event (hrecords.stamped record hstamped now) (.done _)

namespace Procedure

variable {good : Event → Prop} {procedure : Procedure α}

theorem logsOnly_looking
    (hsetback : ∀ setback, (procedure.setbackRecords setback).All good) (look : Look)
    {next : Operation (Except GatewayError α)} (hnext : next.LogsOnly good) :
    (procedure.looking look next).LogsOnly good := by
  refine .checkpoint fun withdrawn => ?_
  cases withdrawn with
  | true => exact Closing.logsOnly (hsetback _)
  | false => exact hnext

/-- An operation without a search logs only what its procedure has it log. -/
theorem logsOnly_program
    (hsearch : procedure.search? = none) (habandoned : ∀ event ∈ procedure.abandoned, good event)
    (hsetback : ∀ setback, (procedure.setbackRecords setback).All good)
    (hanswered : ∀ content, (procedure.conclude content).records.All good) :
    procedure.program.LogsOnly good := by
  refine logsOnly_looking hsetback _ (.acquire habandoned fun reply => ?_)
  cases reply with
  | error text => exact Closing.logsOnly (hsetback _)
  | ok =>
    simp only [searching, hsearch]
    refine logsOnly_looking hsetback _ (.send habandoned fun reply => Closing.logsOnly ?_)
    rw [closing]
    cases Dispatch.receive procedure.envelope reply with
    | ok content => exact hanswered content
    | error error => exact hsetback _

end Procedure

theorem UpdateInfobase.logsOnly_program (request : UpdateInfobase) :
    request.procedure.program.LogsOnly Event.IsNoWarning := by
  have hinfo : Level.info ≠ Level.warn := by decide
  have herror : Level.error ≠ Level.warn := by decide
  refine Procedure.logsOnly_program rfl (List.forall_mem_nil _) ?_ fun content => ?_
  · intro setback
    cases setback with
    | withdrawn look => exact Records.all_nil
    | unequipped text => exact Records.all_singleton herror
    | unanswered error => exact Records.all_singleton (isNoWarning_requestFailure _ _ _ error)
  · exact Records.all_singleton hinfo

/-- An update never warns. -/
theorem UpdateInfobase.logsOnly_perform (request : UpdateInfobase) :
    request.perform.outcome.LogsOnly Event.IsNoWarning := by
  have hrequested : Level.info ≠ Level.warn := by decide
  rw [outcome_perform, Operation.followedBy, preparation, outcome_ensure_bind]
  cases validateIds request.clusterId request.infobaseId with
  | ok u => exact .event hrequested request.logsOnly_program
  | error error => exact .done _

end Warnings

namespace Operation

variable {σ α β : Type} (S : Surroundings σ) (s : σ)

theorem ownWarnings_eq_nil {p : Operation α} (h : p.LogsOnly Event.IsNoWarning) :
    p.ownWarnings S s = [] := by
  rw [ownWarnings, List.filter_eq_nil_iff]
  intro event hevent
  have hlevel := h.of_mem_ownEvents S s event hevent
  simpa [Event.IsNoWarning] using hlevel

theorem ownWarnings_clock (next : Instant → Operation α) :
    (clock next).ownWarnings S s = (next (S.clock s).1).ownWarnings S (S.clock s).2 :=
  rfl

theorem ownWarnings_note (n : Note) (next : Operation α) :
    (note n next).ownWarnings S s =
      (eventsOf [.note n]).filter (fun event => event.level = .warn) ++ next.ownWarnings S s := by
  rw [ownWarnings, ownEvents_note, List.filter_append]
  rfl

theorem ownWarnings_event
    {event : Event} (hquiet : event.IsNoWarning) (next : Operation α) :
    (note (.event event) next).ownWarnings S s = next.ownWarnings S s := by
  have hnone : (eventsOf [.note (.event event)]).filter (fun event => event.level = .warn) = [] :=
    List.filter_eq_nil_iff.mpr
      (List.forall_mem_singleton.mpr (by simpa [Event.IsNoWarning] using hquiet))
  rw [ownWarnings_note, hnone, List.nil_append]

theorem ownWarnings_log_bind (events : List Event) (f : Unit → Operation α) :
    ((log events).bind f).ownWarnings S s =
      events.filter (fun event => event.level = .warn) ++ (f ()).ownWarnings S s := by
  induction events with
  | nil => rfl
  | cons event events ih =>
    have hfirst :
        ((log (event :: events)).bind f).ownWarnings S s =
          [event].filter (fun event => event.level = .warn) ++
            ((log events).bind f).ownWarnings S s :=
      ownWarnings_note S s (.event event) ((log events).bind f)
    rw [hfirst, ih, ← List.append_assoc, ← List.filter_append]
    rfl

/-- A second part that does not warn leaves the warnings of the first part. -/
theorem ownWarnings_bind
    (p : Operation α) {f : α → Operation β} (hf : ∀ a, (f a).LogsOnly Event.IsNoWarning) :
    (p.bind f).ownWarnings S s = p.ownWarnings S s := by
  rw [ownWarnings, ownEvents_bind, List.filter_append, ownWarnings]
  cases (p.run S s).outcome with
  | none => simp
  | some result =>
    have hrest := ownWarnings_eq_nil S (p.run S s).final (hf result)
    rw [ownWarnings] at hrest
    simp only [hrest, List.append_nil]

end Operation

end InfobaseGateway
