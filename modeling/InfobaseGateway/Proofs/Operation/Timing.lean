import InfobaseGateway.Proofs.Operation.Performance

/-!
# Programs in time

Neither provider nor endpoint nor caller notices when a program looks at the clock. So surroundings
can be put together from a peer, which answers and withdraws, and a clock, which goes on by itself.

A run in time shows the run of another program at the peer alone, if the two differ only in what
they log and in when they look at the clock: they have the same dialogue and the same outcome, and
they leave the peer in the same state. A program that never looks at the clock shows itself, and so
it does after any preparations that come to the verdict of its own.
-/

namespace InfobaseGateway

/-- A peer in time. Reading the clock changes nothing for the peer, whose own clock is not read. -/
def Surroundings.timedBy {σ κ : Type} (peer : Surroundings σ) (clock : κ → Instant × κ) :
    Surroundings (σ × κ) where
  cancelled s := peer.cancelled s.1
  clock s := ((clock s.2).1, (s.1, (clock s.2).2))
  acquire s := ((peer.acquire s.1).1, ((peer.acquire s.1).2, s.2))
  send request s := ((peer.send request s.1).1, ((peer.send request s.1).2, s.2))

namespace Run

variable {σ κ α β : Type}

/-- A run in time that shows what a run at the peer alone shows. -/
structure Shows (run : Run (σ × κ) α) (plain : Run σ α) : Prop where
  dialogue : dialogueOf run.steps = dialogueOf plain.steps
  outcome : run.outcome = plain.outcome
  final : run.final.1 = plain.final

variable {run other : Run (σ × κ) α} {plain plain' : Run σ α}

/-- Runs that show the same cannot be told apart by what else they show. -/
theorem Shows.of_same (h : run.Shows plain) (hother : other.Shows plain)
    (hshows : other.Shows plain') : run.Shows plain' where
  dialogue := h.dialogue.trans (hother.dialogue.symm.trans hshows.dialogue)
  outcome := h.outcome.trans (hother.outcome.symm.trans hshows.outcome)
  final := h.final.trans (hother.final.symm.trans hshows.final)

theorem Shows.after (h : run.Shows plain) (steps : List Step) :
    (run.after steps).Shows (plain.after steps) where
  dialogue := by rw [after_steps, after_steps, dialogueOf_append, dialogueOf_append, h.dialogue]
  outcome := h.outcome
  final := h.final

/-- What goes before without a contact does not show. -/
theorem Shows.after_quiet
    (h : run.Shows plain) {steps : List Step} (hquiet : dialogueOf steps = []) :
    (run.after steps).Shows plain where
  dialogue := by rw [after_steps, dialogueOf_append, hquiet, h.dialogue, List.nil_append]
  outcome := h.outcome
  final := h.final

/-- A run whose result is put into other words. -/
theorem Shows.map (h : run.Shows plain) (f : α → β) :
    (⟨run.steps, run.outcome.map f, run.final⟩ : Run (σ × κ) β).Shows
      ⟨plain.steps, plain.outcome.map f, plain.final⟩ where
  dialogue := h.dialogue
  outcome := congrArg (Option.map f) h.outcome
  final := h.final

/-- Runs that go on with runs of which one shows the other. -/
theorem Shows.andThen
    (h : run.Shows plain) {next : α → σ × κ → Run (σ × κ) β} {next' : α → σ → Run σ β}
    (hnext : ∀ result s k, (next result (s, k)).Shows (next' result s)) :
    (run.andThen next).Shows (plain.andThen next') := by
  rw [Run.andThen, Run.andThen, ← h.outcome]
  cases run.outcome with
  | none => exact ⟨h.dialogue, rfl, h.final⟩
  | some result =>
    rw [← h.final]
    obtain ⟨hdialogue, houtcome, hfinal⟩ := hnext result run.final.1 run.final.2
    refine ⟨?_, houtcome, hfinal⟩
    rw [after_steps, after_steps, dialogueOf_append, dialogueOf_append, h.dialogue]
    exact congrArg _ hdialogue

/-- A run that ends without a further contact. -/
theorem Shows.andThen_quiet
    (h : run.Shows plain) {next : α → σ × κ → Run (σ × κ) α}
    (hnext : ∀ result s,
      dialogueOf (next result s).steps = [] ∧ (next result s).outcome = some result ∧
        (next result s).final.1 = s.1) :
    (run.andThen next).Shows plain := by
  rw [Run.andThen]
  cases houtcome : run.outcome with
  | none => exact ⟨h.dialogue, houtcome.symm.trans h.outcome, h.final⟩
  | some result =>
    obtain ⟨hquiet, hsame, hstays⟩ := hnext result run.final
    refine ⟨?_, ?_, hstays.trans h.final⟩
    · rw [after_steps, dialogueOf_append, hquiet, List.append_nil, h.dialogue]
    · rw [after_outcome, hsame, ← houtcome, h.outcome]

end Run

namespace Operation

variable {σ κ α β : Type}

/-- A program that never looks at the clock. -/
def Timeless : Operation α → Prop
  | done _ => True
  | note _ next => next.Timeless
  | checkpoint next => ∀ cancelled, (next cancelled).Timeless
  | clock _ => False
  | acquire _ next => ∀ reply, (next reply).Timeless
  | send _ _ next => ∀ reply, (next reply).Timeless

theorem Timeless.bind
    {p : Operation α} (h : p.Timeless) {f : α → Operation β} (hrest : ∀ a, (f a).Timeless) :
    (p.bind f).Timeless := by
  induction p with
  | done result => exact hrest result
  | note n next ih => exact ih h
  | checkpoint next ih => exact fun cancelled => ih cancelled (h cancelled)
  | clock next ih => exact h.elim
  | acquire abandoned next ih => exact fun reply => ih reply (h reply)
  | send request abandoned next ih => exact fun reply => ih reply (h reply)

theorem timeless_log (events : List Event) : (log events).Timeless := by
  induction events with
  | nil => trivial
  | cons event events ih => exact ih

/-- A program that never looks at the clock shows itself. -/
theorem Timeless.shows
    {p : Operation α} (h : p.Timeless) (peer : Surroundings σ) (clock : κ → Instant × κ)
    (s : σ) (k : κ) : (p.run (peer.timedBy clock) (s, k)).Shows (p.run peer s) := by
  induction p generalizing s with
  | done result => exact ⟨rfl, rfl, rfl⟩
  | note n next ih => exact (ih h s).after _
  | checkpoint next ih =>
    have hnext := h (peer.cancelled s)
    exact (ih _ hnext s).after _
  | clock next ih => exact h.elim
  | acquire abandoned next ih =>
    simp only [run, Surroundings.timedBy]
    cases (peer.acquire s).1.reply with
    | none => exact ⟨rfl, rfl, rfl⟩
    | some reply => exact (ih reply (h reply) (peer.acquire s).2).after _
  | send request abandoned next ih =>
    simp only [run, Surroundings.timedBy]
    cases (peer.send request s).1.reply with
    | none => exact ⟨rfl, rfl, rfl⟩
    | some reply => exact (ih reply (h reply) (peer.send request s).2).after _

end Operation

/-! ## Preparations in time -/

section Preparations

variable {σ κ α : Type} {reads reads' : Bool}
  {verdict verdict' : Instant → Except GatewayError Unit}
  {checks checks' : Operation (Except GatewayError Unit)} {peer : Surroundings σ}
  {clock : κ → Instant × κ} {s : σ} {k : κ}

/-- A preparation in time shows its verdict. -/
theorem Operation.Prepares.shows
    (h : checks.Prepares reads verdict) (peer : Surroundings σ) (clock : κ → Instant × κ) (s : σ)
    (k : κ) :
    (checks.run (peer.timedBy clock) (s, k)).Shows ⟨[], some (verdict (clock k).1), s⟩ := by
  induction h generalizing k with
  | passed hpassed => exact ⟨rfl, congrArg some (hpassed _).symm, rfl⟩
  | refused hrefused => exact ⟨rfl, congrArg some (hrefused _).symm, rfl⟩
  | record hmild hnext ih => exact (ih k).after_quiet (dialogueOf_note [] _)
  | clock hnext ih => exact (ih (clock k).1 (clock k).2).after_quiet (dialogueOf_clock [] _)

/-- What goes on without the clock shows the same after all preparations that come to one verdict
when they look at it. -/
theorem Operation.Prepares.shows_bind
    (h : checks.Prepares reads verdict) (h' : checks'.Prepares reads' verdict')
    (hverdicts : verdict (clock k).1 = verdict' (clock k).1)
    {f : Except GatewayError Unit → Operation α} (hf : ∀ outcome, (f outcome).Timeless)
    {plain : Run σ α} (hshows : ((checks'.bind f).run (peer.timedBy clock) (s, k)).Shows plain) :
    ((checks.bind f).run (peer.timedBy clock) (s, k)).Shows plain := by
  have hgoes (outcome : Except GatewayError Unit) (s : σ) (k : κ) :
      ((f outcome).run (peer.timedBy clock) (s, k)).Shows ((f outcome).run peer s) :=
    (hf outcome).shows peer clock s k
  have hfirst := (h.shows peer clock s k).andThen hgoes
  have hsecond := (h'.shows peer clock s k).andThen hgoes
  rw [← hverdicts] at hsecond
  rw [run_bind] at hshows ⊢
  exact hfirst.of_same hsecond hshows

end Preparations

/-! ## Timeless operations -/

section Timeless

open Operation

variable {α : Type}

/-- A preparation that does not read the clock. -/
theorem Operation.Prepares.timeless
    {p : Operation (Except GatewayError Unit)} {verdict : Instant → Except GatewayError Unit}
    (h : p.Prepares false verdict) : p.Timeless := by
  generalize hreads : false = reads at h
  induction h with
  | passed hpassed => trivial
  | refused hrefused => trivial
  | record hmild hnext ih => exact ih hreads
  | clock hnext ih => cases hreads

theorem Closing.timeless {closing : Closing α} (hstamped : closing.records.stamped? = none) :
    closing.program.Timeless := by
  refine (timeless_log _).bind fun _ => ?_
  rw [hstamped]
  trivial

theorem Procedure.timeless_roundTrip
    (operation : String) (envelope : EndpointRequest) (failureEvents : GatewayError → List Event)
    (events : List Event) (word : envelope.expects.Content → α) :
    (roundTrip operation envelope failureEvents events word).program.Timeless := by
  intro withdrawn
  cases withdrawn with
  | true => exact Closing.timeless rfl
  | false =>
    intro reply
    cases reply with
    | error text => exact Closing.timeless rfl
    | ok =>
      intro withdrawn
      cases withdrawn with
      | true => exact Closing.timeless rfl
      | false =>
        intro reply
        refine Closing.timeless ?_
        rw [closing]
        cases Dispatch.receive _ reply with
        | ok content => rfl
        | error error => rfl

/-- An update never looks at the clock. -/
theorem UpdateInfobase.timeless_perform (request : UpdateInfobase) :
    request.perform.outcome.Timeless := by
  rw [outcome_perform]
  refine request.prepares.timeless.bind fun verdict => ?_
  cases verdict with
  | ok => exact Procedure.timeless_roundTrip _ _ _ _ _
  | error error => trivial

/-- A program that follows the procedure of an update shows the update, if its preparation comes to
the same verdict. -/
theorem UpdateInfobase.shows_followedBy
    {σ κ : Type} (request : UpdateInfobase) {reads : Bool}
    {verdict : Instant → Except GatewayError Unit} {checks : Operation (Except GatewayError Unit)}
    (h : checks.Prepares reads verdict) (peer : Surroundings σ) (clock : κ → Instant × κ) (s : σ)
    (k : κ)
    (hverdict :
      verdict (clock k).1 = verdictOf (validateIds request.clusterId request.infobaseId)) :
    ((checks.followedBy request.procedure.program).run (peer.timedBy clock) (s, k)).Shows
      (request.perform.outcome.run peer s) := by
  have hupdate := request.timeless_perform.shows peer clock s k
  rw [outcome_perform] at hupdate ⊢
  refine h.shows_bind request.prepares hverdict (fun outcome => ?_) hupdate
  cases outcome with
  | ok => exact Procedure.timeless_roundTrip _ _ _ _ _
  | error error => trivial

end Timeless

end InfobaseGateway
