import InfobaseGateway.Proofs.Operation.Reporting
import InfobaseGateway.Proofs.Rpc.Plan
import Mathlib.Data.List.Infix

/-!
# The nesting of stages

A call goes through any list of stages to any handler: each stage may answer it, or run the rest of
the chain and make what it likes of the result. The stages that are entered are the first ones of
the list, and they are left in the reverse order. The handler runs once if every stage runs the
rest, and not at all otherwise. What the caller gets is decided by what the outermost stage returns
and by what the handler returned.

A stage that always runs the rest and returns its result, as the standard stages do, can be inserted
anywhere without a trace in what the caller gets or in the nesting of the other stages. But it reads
the clock, so the handler may start later.
-/

namespace InfobaseGateway

/-! ## Marks -/

/-- The mark of a chain that a step is: an entry, an exit, or the start of the handler. -/
def Step.mark? : Step → Option Note
  | .note (.event _) => none
  | .note n => some n
  | _ => none

/-- The marks among a list of steps. -/
def marksOf (steps : List Step) : List Note :=
  steps.filterMap Step.mark?

section MarksOf

variable (steps : List Step)

@[simp]
theorem marksOf_nil : marksOf [] = [] :=
  rfl

@[simp]
theorem marksOf_append (first second : List Step) :
    marksOf (first ++ second) = marksOf first ++ marksOf second :=
  List.filterMap_append

@[simp]
theorem marksOf_eventSteps (events : List Event) : marksOf (eventSteps events) = [] := by
  induction events with
  | nil => rfl
  | cons event events ih => exact ih

@[simp]
theorem marksOf_event (event : Event) :
    marksOf (.note (.event event) :: steps) = marksOf steps :=
  rfl

@[simp]
theorem marksOf_entered (position : Nat) :
    marksOf (.note (.entered position) :: steps) = .entered position :: marksOf steps :=
  rfl

@[simp]
theorem marksOf_handled : marksOf (.note .handled :: steps) = .handled :: marksOf steps :=
  rfl

@[simp]
theorem marksOf_left (position : Nat) :
    marksOf (.note (.left position) :: steps) = .left position :: marksOf steps :=
  rfl

@[simp]
theorem marksOf_clock (now : Instant) : marksOf (.clock now :: steps) = marksOf steps :=
  rfl

@[simp]
theorem marksOf_checkpoint (cancelled : Bool) :
    marksOf (.checkpoint cancelled :: steps) = marksOf steps :=
  rfl

@[simp]
theorem marksOf_acquire (cancelled : Bool) (reply : Option (Except String Unit)) :
    marksOf (.acquire cancelled reply :: steps) = marksOf steps :=
  rfl

@[simp]
theorem marksOf_send
    (request : EndpointRequest) (cancelled : Bool)
    (reply : Option (Except String EndpointResponse)) :
    marksOf (.send request cancelled reply :: steps) = marksOf steps :=
  rfl

end MarksOf

namespace Operation

variable {σ α β : Type}

/-- A program that leaves no marks of a chain, as handlers do. -/
def Unmarked : Operation α → Prop
  | done _ => True
  | note n next => (∃ event, n = .event event) ∧ next.Unmarked
  | checkpoint next => ∀ cancelled, (next cancelled).Unmarked
  | clock next => ∀ now, (next now).Unmarked
  | acquire _ next => ∀ reply, (next reply).Unmarked
  | send _ _ next => ∀ reply, (next reply).Unmarked

theorem Unmarked.marksOf_run
    {p : Operation α} (h : p.Unmarked) (S : Surroundings σ) (s : σ) :
    marksOf (p.run S s).steps = [] := by
  induction p generalizing s with
  | done result => rfl
  | note n next ih =>
    obtain ⟨⟨event, rfl⟩, hnext⟩ := h
    simpa [run] using ih hnext s
  | checkpoint next ih => simpa [run] using ih _ (h _) s
  | clock next ih => simpa [run] using ih _ (h _) _
  | acquire abandoned next ih =>
    simp only [run]
    cases (S.acquire s).1.reply with
    | none => simp
    | some reply => simpa using ih _ (h _) _
  | send request abandoned next ih =>
    simp only [run]
    cases (S.send request s).1.reply with
    | none => simp
    | some reply => simpa using ih _ (h _) _

theorem Unmarked.bind
    {p : Operation α} (h : p.Unmarked) {f : α → Operation β} (hrest : ∀ a, (f a).Unmarked) :
    (p.bind f).Unmarked := by
  induction p with
  | done result => exact hrest result
  | note n next ih => exact ⟨h.1, ih h.2⟩
  | checkpoint next ih => exact fun cancelled => ih cancelled (h cancelled)
  | clock next ih => exact fun now => ih now (h now)
  | acquire abandoned next ih => exact fun reply => ih reply (h reply)
  | send request abandoned next ih => exact fun reply => ih reply (h reply)

/-- A program that reports its failures leaves nothing but events. -/
theorem Reports.unmarked
    {excused : Prop} {told : Option String} {p : Operation (Except GatewayError α)}
    (h : p.Reports excused told) : p.Unmarked := by
  induction h with
  | silent => trivial
  | reported => trivial
  | mild hmild hnext ih => exact ⟨⟨_, rfl⟩, ih⟩
  | blame hblames hnext ih => exact ⟨⟨_, rfl⟩, ih⟩
  | clock hnext ih => exact ih
  | checkpoint hnext ih => exact ih
  | acquire habandoned hnext ih => exact ih
  | send habandoned hnext ih => exact ih

theorem run_log_bind
    (events : List Event) (f : Unit → Operation α) (S : Surroundings σ) (s : σ) :
    ((log events).bind f).run S s = ((f ()).run S s).after (eventSteps events) := by
  induction events with
  | nil => rfl
  | cons event events ih =>
    simp only [log, bind, run, ih]
    rfl

theorem run_bind_done
    (p : Operation α) (f : α → β) (S : Surroundings σ) (s : σ) :
    (p.bind fun a => .done (f a)).run S s =
      ⟨(p.run S s).steps, (p.run S s).outcome.map f, (p.run S s).final⟩ := by
  rw [run_bind, Run.andThen]
  cases houtcome : (p.run S s).outcome with
  | none => rfl
  | some result => simp [run, Run.after]

end Operation

/-- The handlers of the gateway leave no marks. -/
theorem Rpc.unmarked_handle (rpc : Rpc) (message : rpc.Request) :
    (rpc.handle message).outcome.Unmarked := by
  rw [outcome_handle]
  cases rpc.plan message with
  | error error => trivial
  | ok plan => exact plan.task.reports_perform.unmarked.bind fun _ => trivial

/-- The state after a number of readings of the clock. -/
def Surroundings.elapse {σ : Type} (S : Surroundings σ) : (readings : Nat) → σ → σ
  | 0, s => s
  | readings + 1, s => S.elapse readings (S.clock s).2

/-! ## What stages do to a call -/

namespace Chain

/-- Every stage runs the rest of the chain. -/
def Reaches (call : Call) (stages : List Stage) : Prop :=
  ∀ stage ∈ stages, stage.shortcut call = none

instance (call : Call) (stages : List Stage) : Decidable (Reaches call stages) :=
  decidable_of_iff (∀ stage ∈ stages, (stage.shortcut call).isNone) (by simp [Reaches])

/-- How many stages a call enters: all up to the first one that answers it. -/
def depth (call : Call) : List Stage → Nat
  | [] => 0
  | stage :: stages => if stage.shortcut call = none then depth call stages + 1 else 1

/-- What the outermost stage returns, or the handler if there is no stage, given what the handler
returns. Nothing is returned while the handler has not. -/
def returned (call : Call) : List Stage → (inner : Option Passage) → Option Passage
  | [], inner => inner
  | stage :: stages, inner =>
    match stage.shortcut call with
    | some answer => some answer
    | none => (returned call stages inner).map (stage.result call)

/-- The marks of the stages that are entered, from a position on. -/
def enters (position depth : Nat) : List Note :=
  (List.range' position depth).map .entered

/-- The marks of the stages that are left again, the last one first. -/
def leaves (position depth : Nat) : List Note :=
  ((List.range' position depth).map Note.left).reverse

theorem enters_succ (position depth : Nat) :
    enters position (depth + 1) = .entered position :: enters (position + 1) depth :=
  rfl

theorem leaves_succ (position depth : Nat) :
    leaves position (depth + 1) = leaves (position + 1) depth ++ [.left position] := by
  simp [leaves, List.range'_succ]

section

variable {call : Call} {stage : Stage} {stages : List Stage}

theorem reaches_cons_iff :
    Reaches call (stage :: stages) ↔ stage.shortcut call = none ∧ Reaches call stages :=
  List.forall_mem_cons

theorem depth_le_length (call : Call) (stages : List Stage) :
    depth call stages ≤ stages.length := by
  induction stages with
  | nil => exact le_rfl
  | cons stage stages ih =>
    simp only [depth, List.length_cons]
    split
    · omega
    · omega

theorem Reaches.depth_eq (h : Reaches call stages) : depth call stages = stages.length := by
  induction stages with
  | nil => rfl
  | cons stage stages ih =>
    obtain ⟨hstage, hrest⟩ := reaches_cons_iff.mp h
    simp only [depth, if_pos hstage, ih hrest, List.length_cons]

end

/-! ## Runs -/

section Run

variable {σ α : Type} {call : Call} {stage : Stage}

/-- What a stage does when the rest of the chain has returned. -/
def leave (call : Call) (stage : Stage) (position : Nat) (start : Instant)
    (rest : Passage × Option (Except Status α)) : Operation (Passage × Option (Except Status α)) :=
  .clock fun stop =>
    (Operation.log (stage.leaving call rest.1 (millisBetween start stop))).bind fun _ =>
      .note (.left position) (.done (stage.result call rest.1, rest.2))

theorem run_leave
    (call : Call) (stage : Stage) (position : Nat) (start : Instant)
    (rest : Passage × Option (Except Status α)) (S : Surroundings σ) (s : σ) :
    (leave call stage position start rest).run S s =
      ⟨.clock (S.clock s).1 ::
        eventSteps (stage.leaving call rest.1 (millisBetween start (S.clock s).1)) ++
          [.note (.left position)],
        some (stage.result call rest.1, rest.2), (S.clock s).2⟩ := by
  simp only [leave, Operation.run, Operation.run_log_bind]
  simp [Run.after]

variable (handler : Operation (Except Status α)) (position : Nat) (stages : List Stage)

theorem run_nil :
    run call handler position [] =
      .note .handled (handler.bind fun result => .done (passage result, some result)) := by
  simp only [run, Operation.bind_eq_bind, Operation.mark, Operation.bind, Operation.pure_eq_done]

/-- A stage that answers the call. -/
theorem run_cons_of_shortcut {answer : Passage} (hanswer : stage.shortcut call = some answer) :
    run call handler position (stage :: stages) =
      .note (.entered position) (.clock fun _ =>
        (Operation.log (stage.entering call)).bind fun _ =>
          .note (.left position) (.done (answer, none))) := by
  simp only [run, Operation.bind_eq_bind, Operation.mark, Operation.now, Operation.bind,
    Operation.pure_eq_done, hanswer]

/-- A stage that runs the rest of the chain. -/
theorem run_cons_of_passing (hpassing : stage.shortcut call = none) :
    run call handler position (stage :: stages) =
      .note (.entered position) (.clock fun start =>
        (Operation.log (stage.entering call)).bind fun _ =>
          (run call handler (position + 1) stages).bind (leave call stage position start)) := by
  simp only [run, Operation.bind_eq_bind, Operation.mark, Operation.now, Operation.bind,
    Operation.pure_eq_done, hpassing]
  rfl

/-- The steps and the end of a stage that runs the rest of the chain. -/
theorem runs_passing
    (hpassing : stage.shortcut call = none) (S : Surroundings σ) (s : σ) :
    let rest := (run call handler (position + 1) stages).run S (S.clock s).2
    let whole := (run call handler position (stage :: stages)).run S s
    ∃ onWay back,
      whole.steps = .note (.entered position) :: onWay ++ rest.steps ++ back ∧
        marksOf onWay = [] ∧
        marksOf back = (if rest.outcome.isSome then [.left position] else []) ∧
        whole.outcome = rest.outcome.map fun ended => (stage.result call ended.1, ended.2) := by
  intro rest whole
  have hwhole : whole =
      (rest.andThen fun ended state =>
        (leave call stage position (S.clock s).1 ended).run S state).after
          (.note (.entered position) :: .clock (S.clock s).1 ::
            eventSteps (stage.entering call)) := by
    simp only [whole, run_cons_of_passing handler position stages hpassing, Operation.run]
    rw [Operation.run_log_bind, Operation.run_bind]
    rfl
  refine ⟨.clock (S.clock s).1 :: eventSteps (stage.entering call), ?_⟩
  rw [hwhole]
  cases houtcome : rest.outcome with
  | none =>
    refine ⟨[], ?_⟩
    simp [Run.andThen, houtcome]
  | some ended =>
    refine ⟨((leave call stage position (S.clock s).1 ended).run S rest.final).steps, ?_⟩
    simp [Run.andThen, houtcome, run_leave]

/-- The run of the stages ends with what the outermost one returns, and with what the handler
returned if every stage runs the rest. -/
theorem outcome_run (S : Surroundings σ) (s : σ) :
    let inner := handler.run S (S.elapse stages.length s)
    ((run call handler position stages).run S s).outcome =
      (returned call stages (inner.outcome.map passage)).map fun answer =>
        (answer, if Reaches call stages then inner.outcome else none) := by
  induction stages generalizing position s with
  | nil =>
    intro inner
    have hreaches : Reaches call [] := List.forall_mem_nil _
    rw [run_nil, returned, if_pos hreaches]
    simp only [Operation.run, Operation.run_bind_done, Run.after_outcome]
    cases houtcome : (handler.run S s).outcome with
    | none => simp [inner, Surroundings.elapse, houtcome]
    | some result => simp [inner, Surroundings.elapse, houtcome]
  | cons stage stages ih =>
    intro inner
    cases hshortcut : stage.shortcut call with
    | some answer =>
      have hcut : ¬Reaches call (stage :: stages) := by simp [reaches_cons_iff, hshortcut]
      simp [run_cons_of_shortcut handler position stages hshortcut, Operation.run,
        Operation.run_log_bind, returned, hshortcut, hcut]
    | none =>
      obtain ⟨onWay, back, -, -, -, houtcome⟩ :=
        runs_passing handler position stages hshortcut S s
      rw [houtcome, ih]
      simp [returned, reaches_cons_iff, hshortcut, inner, Surroundings.elapse, Function.comp_def]

/-- The marks of a run: the stages are entered in order, and left in the reverse order unless the
run was abandoned inside them. -/
theorem marksOf_run (S : Surroundings σ) (s : σ) :
    let inner := handler.run S (S.elapse stages.length s)
    let whole := (run call handler position stages).run S s
    marksOf whole.steps =
      enters position (depth call stages) ++
        (if Reaches call stages then .handled :: marksOf inner.steps else []) ++
        (if whole.outcome.isSome then leaves position (depth call stages) else []) := by
  induction stages generalizing position s with
  | nil =>
    intro inner whole
    have hreaches : Reaches call [] := List.forall_mem_nil _
    simp [whole, run_nil, Operation.run, Operation.run_bind_done, if_pos hreaches, depth, enters,
      leaves, inner, Surroundings.elapse]
  | cons stage stages ih =>
    intro inner whole
    cases hshortcut : stage.shortcut call with
    | some answer =>
      have hcut : ¬Reaches call (stage :: stages) := by simp [reaches_cons_iff, hshortcut]
      simp [whole, run_cons_of_shortcut handler position stages hshortcut, Operation.run,
        Operation.run_log_bind, hshortcut, hcut, depth, enters, leaves]
    | none =>
      obtain ⟨onWay, back, hsteps, honWay, hback, houtcome⟩ :=
        runs_passing handler position stages hshortcut S s
      have hdepth : depth call (stage :: stages) = depth call stages + 1 := if_pos hshortcut
      have hreaches : Reaches call (stage :: stages) ↔ Reaches call stages := by
        simp [reaches_cons_iff, hshortcut]
      have hrest := ih (position + 1) (S.clock s).2
      simp only [whole, inner, hsteps, houtcome, hdepth, hreaches, enters_succ, leaves_succ,
        Option.isSome_map, marksOf_append, List.cons_append, marksOf_entered, honWay, hrest, hback,
        List.nil_append, List.append_assoc, List.length_cons, Surroundings.elapse]
      -- The exits of the rest and the own exit are there together or not at all.
      cases ((run call handler (position + 1) stages).run S (S.clock s).2).outcome.isSome with
      | true => simp
      | false => simp

/-- The run of the handler is part of the run if every stage runs the rest. -/
theorem infix_steps_run (hreaches : Reaches call stages) (S : Surroundings σ) (s : σ) :
    .note .handled :: (handler.run S (S.elapse stages.length s)).steps <:+:
      ((run call handler position stages).run S s).steps := by
  induction stages generalizing position s with
  | nil =>
    simp only [run_nil, Operation.run, Operation.run_bind_done]
    exact List.infix_rfl
  | cons stage stages ih =>
    obtain ⟨hpassing, hrest⟩ := reaches_cons_iff.mp hreaches
    obtain ⟨onWay, back, hsteps, -⟩ := runs_passing handler position stages hpassing S s
    rw [hsteps]
    exact (ih (position + 1) hrest (S.clock s).2).trans (List.infix_append _ _ _)

/-- A served call has the steps of its stages, and its outcome is the answer to its caller. -/
theorem run_serve (stages : List Stage) (call : Call) (S : Surroundings σ) (s : σ) :
    let whole := (run call handler 0 stages).run S s
    ((serve stages call handler).run S s).steps = whole.steps ∧
      ((serve stages call handler).run S s).outcome =
        whole.outcome.map fun ended => answer call ended.1 ended.2 := by
  intro whole
  have hserve : serve stages call handler =
      (run call handler 0 stages).bind fun ended => .done (answer call ended.1 ended.2) := rfl
  rw [hserve, Operation.run_bind_done]
  exact ⟨rfl, rfl⟩

theorem outcome_serve (stages : List Stage) (call : Call) (S : Surroundings σ) (s : σ) :
    let inner := handler.run S (S.elapse stages.length s)
    ((serve stages call handler).run S s).outcome =
      (returned call stages (inner.outcome.map passage)).map fun result =>
        answer call result (if Reaches call stages then inner.outcome else none) := by
  intro inner
  rw [(run_serve handler stages call S s).2, outcome_run, Option.map_map]
  rfl

theorem marksOf_serve
    {handler : Operation (Except Status α)} (hhandler : handler.Unmarked)
    (stages : List Stage) (call : Call) (S : Surroundings σ) (s : σ) :
    let whole := (serve stages call handler).run S s
    marksOf whole.steps =
      enters 0 (depth call stages) ++ (if Reaches call stages then [.handled] else []) ++
        (if whole.outcome.isSome then leaves 0 (depth call stages) else []) := by
  intro whole
  obtain ⟨hsteps, houtcome⟩ := run_serve handler stages call S s
  rw [hsteps, houtcome, marksOf_run, hhandler.marksOf_run, Option.isSome_map]

end Run

/-! ## Stages that change nothing -/

end Chain

/-- A stage that always runs the rest of the chain and returns its result. -/
def Stage.IsTransparent (stage : Stage) : Prop :=
  ∀ call, stage.shortcut call = none ∧ stage.result call = id

theorem isTransparent_of_mem_standardStages :
    ∀ stage ∈ standardStages, stage.IsTransparent := by
  intro stage hstage call
  simp only [standardStages, List.mem_cons, List.not_mem_nil, or_false] at hstage
  rcases hstage with rfl | rfl
  · exact ⟨rfl, rfl⟩
  · exact ⟨rfl, rfl⟩

/-- The position of a stage when the stage at another position is taken away. -/
def positionWithout (removed position : Nat) : Option Nat :=
  if position = removed then none
  else some (if removed < position then position - 1 else position)

/-- A mark as it is when the stage at a position is taken away. -/
def Note.without (removed : Nat) : Note → Option Note
  | .entered position => (positionWithout removed position).map .entered
  | .left position => (positionWithout removed position).map .left
  | n => some n

theorem filterMap_positionWithout (removed n : Nat) :
    (List.range' 0 n).filterMap (positionWithout removed) =
      List.range' 0 (if removed < n then n - 1 else n) := by
  simp only [← List.range_eq_range']
  induction n with
  | zero => rfl
  | succ n ih =>
    rw [List.range_succ, List.filterMap_append, ih]
    rcases lt_trichotomy n removed with hbefore | rfl | hbehind
    · have hhere : positionWithout removed n = some n := by
        rw [positionWithout, if_neg hbefore.ne, if_neg hbefore.not_gt]
      have hkept : [n].filterMap (positionWithout removed) = [n] :=
        List.filterMap_cons_some hhere
      rw [hkept, if_neg hbefore.not_gt, if_neg (by omega), List.range_succ]
    · have hhere : positionWithout n n = none := if_pos rfl
      have hgone : [n].filterMap (positionWithout n) = [] := List.filterMap_cons_none hhere
      rw [hgone, List.append_nil, if_neg (lt_irrefl n), if_pos n.lt_succ_self]
      rfl
    · have hhere : positionWithout removed n = some (n - 1) := by
        rw [positionWithout, if_neg hbehind.ne', if_pos hbehind]
      have hmoved : [n].filterMap (positionWithout removed) = [n - 1] :=
        List.filterMap_cons_some hhere
      obtain ⟨n, rfl⟩ : ∃ m, n = m + 1 := ⟨n - 1, by omega⟩
      rw [hmoved, if_pos hbehind, if_pos (by omega)]
      exact List.range_succ.symm

namespace Chain

section

variable {call : Call} {added : Stage}

theorem reaches_append_iff (before after : List Stage) :
    Reaches call (before ++ after) ↔ Reaches call before ∧ Reaches call after :=
  List.forall_mem_append

theorem depth_append (before after : List Stage) :
    depth call (before ++ after) =
      if Reaches call before then before.length + depth call after else depth call before := by
  induction before with
  | nil => simp [Reaches]
  | cons stage before ih =>
    rw [List.cons_append, depth, depth, ih]
    by_cases hpassing : stage.shortcut call = none
    · have hreaches : Reaches call (stage :: before) ↔ Reaches call before := by
        simp [reaches_cons_iff, hpassing]
      simp only [if_pos hpassing, hreaches, List.length_cons]
      split
      · omega
      · rfl
    · have hcut : ¬Reaches call (stage :: before) := by simp [reaches_cons_iff, hpassing]
      rw [if_neg hpassing, if_neg hcut, if_neg hpassing]

theorem reaches_insert_iff (hadded : added.IsTransparent) (before after : List Stage) :
    Reaches call (before ++ added :: after) ↔ Reaches call (before ++ after) := by
  rw [reaches_append_iff, reaches_append_iff, reaches_cons_iff]
  simp [(hadded call).1]

theorem returned_insert
    (hadded : added.IsTransparent) (before after : List Stage) (inner : Option Passage) :
    returned call (before ++ added :: after) inner = returned call (before ++ after) inner := by
  induction before with
  | nil => simp [returned, (hadded call).1, (hadded call).2]
  | cons stage before ih => simp only [List.cons_append, returned, ih]

/-- What the outermost stage returns does not depend on a handler that does not run. -/
theorem returned_of_not_reaches
    {stages : List Stage} (hcut : ¬Reaches call stages) (inner inner' : Option Passage) :
    returned call stages inner = returned call stages inner' := by
  induction stages with
  | nil => exact absurd (List.forall_mem_nil _) hcut
  | cons stage stages ih =>
    cases hshortcut : stage.shortcut call with
    | some answer => simp only [returned, hshortcut]
    | none =>
      have hrest : ¬Reaches call stages := by simpa [reaches_cons_iff, hshortcut] using hcut
      simp only [returned, hshortcut, ih hrest]

/-- The stage that is added is entered if all stages before it run the rest. -/
theorem depth_eq_of_insert (hadded : added.IsTransparent) (before after : List Stage) :
    depth call (before ++ after) =
      if before.length < depth call (before ++ added :: after)
      then depth call (before ++ added :: after) - 1
      else depth call (before ++ added :: after) := by
  have hdepth : depth call (added :: after) = depth call after + 1 := if_pos (hadded call).1
  rw [depth_append, depth_append, hdepth]
  by_cases hreaches : Reaches call before
  · rw [if_pos hreaches, if_pos hreaches, if_pos (by omega)]
    omega
  · rw [if_neg hreaches, if_neg hreaches, if_neg (depth_le_length call before).not_gt]

theorem enters_without (hadded : added.IsTransparent) (before after : List Stage) :
    (enters 0 (depth call (before ++ added :: after))).filterMap (Note.without before.length) =
      enters 0 (depth call (before ++ after)) := by
  rw [depth_eq_of_insert hadded before after, enters, enters, ← filterMap_positionWithout,
    List.filterMap_map, List.map_filterMap]
  rfl

theorem leaves_without (hadded : added.IsTransparent) (before after : List Stage) :
    (leaves 0 (depth call (before ++ added :: after))).filterMap (Note.without before.length) =
      leaves 0 (depth call (before ++ after)) := by
  rw [depth_eq_of_insert hadded before after, leaves, leaves, ← filterMap_positionWithout,
    List.filterMap_reverse, List.filterMap_map, List.map_filterMap]
  rfl

end

/-! ## The whole chain -/

/-- How a call goes through its stages, told from the run of its handler. -/
structure Nested {σ α : Type} (call : Call) (stages : List Stage)
    (inner whole : Run σ (Except Status α)) : Prop where
  /-- The handler runs once if every stage runs the rest of the chain, and else not at all. -/
  handled : (marksOf whole.steps).count .handled = if Reaches call stages then 1 else 0
  within : Reaches call stages → .note .handled :: inner.steps <:+: whole.steps
  /-- The stages are left in the reverse order, unless the handler never returns. -/
  marks : marksOf whole.steps =
    enters 0 (depth call stages) ++ (if Reaches call stages then [.handled] else []) ++
      (if whole.outcome.isSome then leaves 0 (depth call stages) else [])
  depth_le : depth call stages ≤ stages.length
  depth_eq : Reaches call stages → depth call stages = stages.length
  ok_iff : ∀ value, whole.outcome = some (.ok value) ↔
    Reaches call stages ∧ inner.outcome = some (.ok value) ∧
      returned call stages (inner.outcome.map passage) = some (.ok ())
  error : ∀ status, returned call stages (inner.outcome.map passage) = some (.error status) →
    whole.outcome = some (.error status)
  unhandled : returned call stages (inner.outcome.map passage) = some (.ok ()) →
    ¬(Reaches call stages ∧ ∃ value, inner.outcome = some (.ok value)) →
      whole.outcome = some (.error ⟨.internal, call.method ++ " was not handled"⟩)
  unreturned : returned call stages (inner.outcome.map passage) = none → whole.outcome = none

section

variable {σ α : Type} {call : Call}

theorem count_handled_enters (position depth : Nat) :
    (enters position depth).count .handled = 0 := by
  simp [enters, List.count_eq_zero]

theorem count_handled_leaves (position depth : Nat) :
    (leaves position depth).count .handled = 0 := by
  simp [leaves, List.count_eq_zero]

theorem answer_eq_ok_iff
    (result : Passage) (handled : Option (Except Status α)) (value : α) :
    answer call result handled = .ok value ↔ result = .ok () ∧ handled = some (.ok value) := by
  rcases result with status | ⟨⟩
  · simp [answer]
  · rcases handled with _ | status | value'
    · simp [answer]
    · simp [answer]
    · simp [answer]

theorem answer_ok_of_not_handled
    {handled : Option (Except Status α)} (hfailed : ¬∃ value, handled = some (.ok value)) :
    answer call (.ok ()) handled =
      .error ⟨.internal, call.method ++ " was not handled"⟩ := by
  rcases handled with _ | status | value
  · rfl
  · rfl
  · exact absurd ⟨value, rfl⟩ hfailed

theorem nested_of_unmarked
    (stages : List Stage) {handler : Operation (Except Status α)} (hhandler : handler.Unmarked)
    (S : Surroundings σ) (s : σ) :
    let inner := handler.run S (S.elapse stages.length s)
    let whole := (serve stages call handler).run S s
    Nested call stages inner whole := by
  intro inner whole
  have hmarks := marksOf_serve hhandler stages call S s
  have houtcome : whole.outcome =
      (returned call stages (inner.outcome.map passage)).map fun result =>
        answer call result (if Reaches call stages then inner.outcome else none) :=
    outcome_serve handler stages call S s
  constructor
  case handled =>
    have hback (ended : Prop) [Decidable ended] :
        (if ended then leaves 0 (depth call stages) else []).count .handled = 0 := by
      split
      · exact count_handled_leaves _ _
      · rfl
    rw [hmarks, List.count_append, List.count_append, count_handled_enters, hback, Nat.zero_add,
      Nat.add_zero]
    split
    · rfl
    · rfl
  case within =>
    intro hreaches
    rw [(run_serve handler stages call S s).1]
    exact infix_steps_run handler 0 stages hreaches S s
  case marks => exact hmarks
  case depth_le => exact depth_le_length call stages
  case depth_eq => exact Reaches.depth_eq
  case ok_iff =>
    intro value
    have hhandled : (if Reaches call stages then inner.outcome else none) = some (.ok value) ↔
        Reaches call stages ∧ inner.outcome = some (.ok value) := Option.ite_none_right_eq_some
    rw [houtcome, ← and_assoc, ← hhandled, Option.map_eq_some_iff]
    constructor
    · rintro ⟨result, hreturned, hanswer⟩
      obtain ⟨rfl, hok⟩ := (answer_eq_ok_iff _ _ _).mp hanswer
      exact ⟨hok, hreturned⟩
    · rintro ⟨hok, hreturned⟩
      exact ⟨_, hreturned, (answer_eq_ok_iff _ _ _).mpr ⟨rfl, hok⟩⟩
  case error =>
    intro status hreturned
    rw [houtcome, hreturned]
    rfl
  case unhandled =>
    intro hreturned hfailed
    rw [houtcome, hreturned, Option.map_some, answer_ok_of_not_handled]
    simpa only [Option.ite_none_right_eq_some, exists_and_left] using hfailed
  case unreturned =>
    intro hreturned
    rw [houtcome, hreturned]
    rfl

/-- Two handlers that return the same, should they run, make a chain return the same with a
transparent stage and without it. -/
theorem returned_insert_of_same
    {added : Stage} (hadded : added.IsTransparent) (before after : List Stage)
    {first second : Option (Except Status α)}
    (hsame : Reaches call (before ++ after) → first = second) :
    (returned call (before ++ added :: after) (first.map passage)).map (fun result =>
        answer call result (if Reaches call (before ++ added :: after) then first else none)) =
      (returned call (before ++ after) (second.map passage)).map fun result =>
        answer call result (if Reaches call (before ++ after) then second else none) := by
  simp only [reaches_insert_iff hadded, returned_insert hadded]
  by_cases hreaches : Reaches call (before ++ after)
  · rw [hsame hreaches]
  · rw [if_neg hreaches, if_neg hreaches,
      returned_of_not_reaches hreaches (first.map passage) (second.map passage)]

end

/-- How stages nest, and that the standard ones can be inserted. Every list of stages and every
handler is covered; the handler starts after one reading of the clock for each stage. A sanitizing
or audit stage may be inserted anywhere: if the handler, should it run, ends as it did without the
stage, then the caller gets the same, and the other stages are entered and left as before. -/
theorem nested_serve {σ α : Type}
    (call : Call) (stages : List Stage) {handler : Operation (Except Status α)}
    (hhandler : handler.Unmarked) (S : Surroundings σ) (s : σ) :
    let inner := handler.run S (S.elapse stages.length s)
    let whole := (serve stages call handler).run S s
    Nested call stages inner whole ∧
      ∀ before after, stages = before ++ after → ∀ added ∈ standardStages,
        ∀ (S' : Surroundings σ) (s' : σ),
          let longer := before ++ added :: after
          let inner' := handler.run S' (S'.elapse longer.length s')
          let whole' := (serve longer call handler).run S' s'
          (Reaches call stages → inner'.outcome = inner.outcome) →
            whole'.outcome = whole.outcome ∧
              (marksOf whole'.steps).filterMap (Note.without before.length) =
                marksOf whole.steps := by
  intro inner whole
  refine ⟨nested_of_unmarked stages hhandler S s, ?_⟩
  rintro before after rfl added hmem S' s' longer inner' whole' hsame
  have hadded := isTransparent_of_mem_standardStages added hmem
  have houtcome : whole'.outcome = whole.outcome := by
    rw [outcome_serve, outcome_serve]
    exact returned_insert_of_same hadded before after hsame
  refine ⟨houtcome, ?_⟩
  have hreaches : Reaches call longer ↔ Reaches call (before ++ after) :=
    reaches_insert_iff hadded before after
  have hmiddle : (if Reaches call longer then [Note.handled] else []).filterMap
      (Note.without before.length) = if Reaches call (before ++ after) then [.handled] else [] := by
    simp only [hreaches]
    split
    · rfl
    · rfl
  have hback : (if whole'.outcome.isSome then leaves 0 (depth call longer) else []).filterMap
      (Note.without before.length) =
        if whole.outcome.isSome then leaves 0 (depth call (before ++ after)) else [] := by
    rw [houtcome]
    split
    · exact leaves_without hadded before after
    · rfl
  rw [marksOf_serve hhandler, marksOf_serve hhandler, List.filterMap_append,
    List.filterMap_append, enters_without hadded, hmiddle, hback]

/-- A stage that reports success, whatever the rest of the chain returns. -/
def forgivingStage : Stage where
  name := "forgiving"
  kind := .other
  entering _ := []
  shortcut _ := none
  leaving _ _ _ := []
  result _ _ := .ok ()

/-- A clock that counts its readings, and no endpoint. -/
def ticking : Surroundings Nat where
  cancelled _ := false
  clock readings := (⟨readings, 0⟩, readings + 1)
  acquire readings := (⟨none, []⟩, readings)
  send _ readings := (⟨none, []⟩, readings)

/-- A removal in an unknown mode that is forgiven is no success, also behind a sanitizing stage. -/
theorem nested_serve_forgiving :
    let message : DropInfobaseRequest := ⟨"c-1", "ib-1", 9, none, none⟩
    let call := Rpc.dropInfobase.call message
    let handler := (Rpc.dropInfobase.handle message).outcome
    let lost : Status := ⟨.internal, Rpc.dropInfobase.path ++ " was not handled"⟩
    handler.Unmarked ∧
      ((serve [forgivingStage] call handler).run ticking 0).outcome = some (.error lost) ∧
      ((serve [sanitizeStage, forgivingStage] call handler).run ticking 5).outcome =
        some (.error lost) := by
  intro message call handler lost
  have hhandler : handler.Unmarked := Rpc.unmarked_handle _ _
  obtain ⟨hnested, hinserted⟩ := nested_serve call [forgivingStage] hhandler ticking 0
  have hlost : ((serve [forgivingStage] call handler).run ticking 0).outcome =
      some (.error lost) := by
    refine hnested.unhandled rfl ?_
    rintro ⟨-, response, hresponse⟩
    cases hresponse
  have hsanitize : sanitizeStage ∈ standardStages := List.mem_cons_self
  obtain ⟨hsame, -⟩ :=
    hinserted [] [forgivingStage] rfl sanitizeStage hsanitize ticking 5 fun _ => rfl
  exact ⟨hhandler, hlost, hsame.trans hlost⟩

end Chain

end InfobaseGateway
