import InfobaseGateway.Proofs.Operation.Script

/-!
# What a program logs itself

A run records the events of the program together with those of the provider and the endpoint, who
may log on their own while they answer. The events of the program alone are the ones that are left
when the surroundings keep silent, and silence changes nothing else.
-/

namespace InfobaseGateway

/-- The same surroundings without the events that they log. -/
def Surroundings.silenced {σ : Type} (S : Surroundings σ) : Surroundings σ where
  cancelled := S.cancelled
  clock := S.clock
  acquire s := ({ reply := (S.acquire s).1.reply }, (S.acquire s).2)
  send request s := ({ reply := (S.send request s).1.reply }, (S.send request s).2)

section Silenced

variable {σ : Type} (S : Surroundings σ) (s : σ)

@[simp]
theorem Surroundings.silenced_cancelled : S.silenced.cancelled s = S.cancelled s :=
  rfl

@[simp]
theorem Surroundings.silenced_clock : S.silenced.clock s = S.clock s :=
  rfl

@[simp]
theorem Surroundings.silenced_acquire :
    S.silenced.acquire s = ({ reply := (S.acquire s).1.reply }, (S.acquire s).2) :=
  rfl

@[simp]
theorem Surroundings.silenced_send (request : EndpointRequest) :
    S.silenced.send request s =
      ({ reply := (S.send request s).1.reply }, (S.send request s).2) :=
  rfl

end Silenced

/-- The event that a step leaves in the log, if it leaves one. -/
def Step.event? : Step → Option Event
  | .note (.event event) => some event
  | _ => none

/-- The events among a list of steps. -/
def eventsOf (steps : List Step) : List Event :=
  steps.filterMap Step.event?

theorem Run.events_eq_eventsOf {σ α : Type} (run : Run σ α) : run.events = eventsOf run.steps := by
  rw [events, notes, List.filterMap_filterMap, eventsOf]
  congr 1
  funext step
  cases step with
  | note n =>
    cases n with
    | _ => rfl
  | _ => rfl

section EventsOf

variable (steps : List Step)

@[simp]
theorem eventsOf_append (first second : List Step) :
    eventsOf (first ++ second) = eventsOf first ++ eventsOf second :=
  List.filterMap_append

@[simp]
theorem eventsOf_eventSteps (events : List Event) : eventsOf (eventSteps events) = events := by
  induction events with
  | nil => rfl
  | cons event events ih => exact congrArg (event :: ·) ih

@[simp]
theorem eventsOf_event (event : Event) :
    eventsOf (.note (.event event) :: steps) = event :: eventsOf steps :=
  rfl

@[simp]
theorem eventsOf_checkpoint (cancelled : Bool) :
    eventsOf (.checkpoint cancelled :: steps) = eventsOf steps :=
  rfl

@[simp]
theorem eventsOf_clock (now : Instant) : eventsOf (.clock now :: steps) = eventsOf steps :=
  rfl

@[simp]
theorem eventsOf_acquire (cancelled : Bool) (reply : Option (Except String Unit)) :
    eventsOf (.acquire cancelled reply :: steps) = eventsOf steps :=
  rfl

@[simp]
theorem eventsOf_send
    (request : EndpointRequest) (cancelled : Bool)
    (reply : Option (Except String EndpointResponse)) :
    eventsOf (.send request cancelled reply :: steps) = eventsOf steps :=
  rfl

end EventsOf

namespace Operation

variable {σ α : Type}

/-- The events that a program logs itself, those of its abandonment included. -/
def ownEvents (p : Operation α) (S : Surroundings σ) (s : σ) : List Event :=
  (p.run S.silenced s).events

/-- Silence of the surroundings changes nothing but the log: the dialogue, the outcome and the
state are the same, and what the program logs itself is part of the whole log in the same order. -/
theorem run_silenced (p : Operation α) (S : Surroundings σ) (s : σ) :
    dialogueOf (p.run S.silenced s).steps = dialogueOf (p.run S s).steps ∧
      (p.run S.silenced s).outcome = (p.run S s).outcome ∧
      (p.run S.silenced s).final = (p.run S s).final ∧
      (p.ownEvents S s).Sublist (p.run S s).events := by
  simp only [ownEvents, Run.events_eq_eventsOf]
  induction p generalizing s with
  | done result => exact ⟨rfl, rfl, rfl, List.Sublist.refl _⟩
  | note n next ih =>
    obtain ⟨hdialogue, houtcome, hfinal, hevents⟩ := ih s
    refine ⟨hdialogue, houtcome, hfinal, ?_⟩
    simp only [run, Run.after_steps, eventsOf_append]
    exact hevents.append_left _
  | checkpoint next ih =>
    obtain ⟨hdialogue, houtcome, hfinal, hevents⟩ := ih (S.cancelled s) s
    exact ⟨congrArg (_ :: ·) hdialogue, houtcome, hfinal, hevents⟩
  | clock next ih => exact ih (S.clock s).1 (S.clock s).2
  | acquire abandoned next ih =>
    simp only [run, Surroundings.silenced_cancelled, Surroundings.silenced_acquire]
    cases (S.acquire s).1.reply with
    | none => simp
    | some reply =>
      obtain ⟨hdialogue, houtcome, hfinal, hevents⟩ := ih reply (S.acquire s).2
      refine ⟨by simpa using hdialogue, houtcome, hfinal, ?_⟩
      simpa using List.sublist_append_of_sublist_right hevents
  | send request abandoned next ih =>
    simp only [run, Surroundings.silenced_cancelled, Surroundings.silenced_send]
    cases (S.send request s).1.reply with
    | none => simp
    | some reply =>
      obtain ⟨hdialogue, houtcome, hfinal, hevents⟩ := ih reply (S.send request s).2
      refine ⟨by simpa using hdialogue, houtcome, hfinal, ?_⟩
      simpa using List.sublist_append_of_sublist_right hevents

/-! ## The log of a program, step by step -/

section Steps

variable (S : Surroundings σ) (s : σ)

@[simp]
theorem ownEvents_done (result : α) : (done result).ownEvents S s = [] :=
  rfl

theorem ownEvents_note (n : Note) (next : Operation α) :
    (note n next).ownEvents S s = eventsOf [.note n] ++ next.ownEvents S s := by
  simp only [ownEvents, Run.events_eq_eventsOf, run, Run.after_steps, eventsOf_append]

@[simp]
theorem ownEvents_event (event : Event) (next : Operation α) :
    (note (.event event) next).ownEvents S s = event :: next.ownEvents S s :=
  ownEvents_note S s (.event event) next

@[simp]
theorem ownEvents_checkpoint (next : Bool → Operation α) :
    (checkpoint next).ownEvents S s = (next (S.cancelled s)).ownEvents S s :=
  rfl

@[simp]
theorem ownEvents_clock (next : Instant → Operation α) :
    (clock next).ownEvents S s = (next (S.clock s).1).ownEvents S (S.clock s).2 :=
  rfl

theorem ownEvents_acquire
    (abandoned : List Event) (next : Except String Unit → Operation α) :
    (acquire abandoned next).ownEvents S s =
      match (S.acquire s).1.reply with
      | some reply => (next reply).ownEvents S (S.acquire s).2
      | none => abandoned := by
  simp only [ownEvents, Run.events_eq_eventsOf, run, Surroundings.silenced_cancelled,
    Surroundings.silenced_acquire]
  cases (S.acquire s).1.reply with
  | none => simp
  | some reply => simp

theorem ownEvents_send
    (request : EndpointRequest) (abandoned : List Event)
    (next : Except String EndpointResponse → Operation α) :
    (send request abandoned next).ownEvents S s =
      match (S.send request s).1.reply with
      | some reply => (next reply).ownEvents S (S.send request s).2
      | none => abandoned := by
  simp only [ownEvents, Run.events_eq_eventsOf, run, Surroundings.silenced_cancelled,
    Surroundings.silenced_send]
  cases (S.send request s).1.reply with
  | none => simp
  | some reply => simp

/-- A program in two parts logs what its parts log, unless the first one is abandoned. -/
theorem ownEvents_bind {β : Type} (p : Operation α) (f : α → Operation β) :
    (p.bind f).ownEvents S s =
      p.ownEvents S s ++
        match (p.run S s).outcome with
        | some result => (f result).ownEvents S (p.run S s).final
        | none => [] := by
  obtain ⟨-, houtcome, hfinal, -⟩ := p.run_silenced S s
  rw [ownEvents, run_bind, Run.andThen, houtcome, hfinal]
  cases (p.run S s).outcome with
  | none => simp only [ownEvents, Run.events_eq_eventsOf, List.append_nil]
  | some result =>
    simp only [ownEvents, Run.events_eq_eventsOf, Run.after_steps, eventsOf_append]

end Steps

/-! ## Programs that log only events of a kind -/

/-- Whatever it is told, the program logs no events but those with the property, also when it is
abandoned. -/
inductive LogsOnly (good : Event → Prop) : Operation α → Prop
  | done (result : α) : LogsOnly good (.done result)
  | note {n : Note} {next : Operation α} (hgood : ∀ event, n = .event event → good event)
      (hnext : LogsOnly good next) : LogsOnly good (.note n next)
  | checkpoint {next : Bool → Operation α} (hnext : ∀ withdrawn, LogsOnly good (next withdrawn)) :
      LogsOnly good (.checkpoint next)
  | clock {next : Instant → Operation α} (hnext : ∀ now, LogsOnly good (next now)) :
      LogsOnly good (.clock next)
  | acquire {abandoned : List Event} {next : Except String Unit → Operation α}
      (habandoned : ∀ event ∈ abandoned, good event)
      (hnext : ∀ reply, LogsOnly good (next reply)) : LogsOnly good (.acquire abandoned next)
  | send {request : EndpointRequest} {abandoned : List Event}
      {next : Except String EndpointResponse → Operation α}
      (habandoned : ∀ event ∈ abandoned, good event)
      (hnext : ∀ reply, LogsOnly good (next reply)) : LogsOnly good (.send request abandoned next)

section LogsOnly

variable {good : Event → Prop}

theorem LogsOnly.event {event : Event} {next : Operation α} (hgood : good event)
    (hnext : next.LogsOnly good) : (Operation.note (.event event) next).LogsOnly good := by
  refine .note ?_ hnext
  rintro _ ⟨⟩
  exact hgood

theorem LogsOnly.log_bind
    {β : Type} {events : List Event} (hevents : ∀ event ∈ events, good event)
    {f : Unit → Operation β} (hrest : (f ()).LogsOnly good) :
    ((log events).bind f).LogsOnly good := by
  induction events with
  | nil => exact hrest
  | cons event events ih =>
    obtain ⟨hevent, hothers⟩ := List.forall_mem_cons.mp hevents
    exact .event hevent (ih hothers)

/-- The events that such a program logs all have the property. -/
theorem LogsOnly.of_mem_ownEvents
    {p : Operation α} (h : p.LogsOnly good) (S : Surroundings σ) (s : σ) :
    ∀ event ∈ p.ownEvents S s, good event := by
  induction h generalizing s with
  | done result => exact List.forall_mem_nil _
  | @note n next hgood hnext ih =>
    rw [ownEvents_note, List.forall_mem_append]
    refine ⟨?_, ih s⟩
    cases n with
    | event event => exact List.forall_mem_singleton.mpr (hgood event rfl)
    | _ => exact List.forall_mem_nil _
  | checkpoint hnext ih => exact ih (S.cancelled s) s
  | clock hnext ih => exact ih (S.clock s).1 (S.clock s).2
  | acquire habandoned hnext ih =>
    rw [ownEvents_acquire]
    cases (S.acquire s).1.reply with
    | none => exact habandoned
    | some reply => exact ih reply (S.acquire s).2
  | @send request abandoned next habandoned hnext ih =>
    rw [ownEvents_send]
    cases (S.send request s).1.reply with
    | none => exact habandoned
    | some reply => exact ih reply (S.send request s).2

end LogsOnly

end Operation

end InfobaseGateway
