import InfobaseGateway.Proofs.Endpoint
import InfobaseGateway.Proofs.Operation.Laws
import Mathlib.Data.List.Infix

/-!
# Scripts of operations

An operation contacts its surroundings in an order that is fixed by a script: it looks whether its
caller withdrew, it acquires an endpoint, it sends an envelope. A program follows a script if it
makes its contacts in that order and breaks off only in the ways that the script allows. What a
program leaves in the log and how often it reads the clock is not part of a script.

The file separates two questions. Whether a program follows a script is decided along the tree of
the program, without any surroundings. What the dialogue of a run looks like then follows from the
script alone, for all surroundings.
-/

namespace InfobaseGateway

/-! ## Contacts and scripts -/

/-- A place in a script. After a request the script goes on if the reply lets it. -/
inductive Cue
  | checkpoint
  | acquire
  | send (request : EndpointRequest) (proceeds : Except String EndpointResponse → Prop)

namespace Operation

variable {ε α : Type}

/-- A program that follows a script. It may fail anywhere, and it succeeds only while `answered`
holds, which says that the last request was answered as it asked. After a withdrawal, after an
endpoint that could not be had and after a reply that does not let it proceed it makes no further
contact. -/
inductive Follows : Prop → List Cue → Operation (Except ε α) → Prop
  | failed (answered : Prop) (script : List Cue) (error : ε) :
      Follows answered script (.done (.error error))
  | succeeded {answered : Prop} (script : List Cue) (result : α) (hanswered : answered) :
      Follows answered script (.done (.ok result))
  | note {answered : Prop} {script : List Cue} (n : Note) {next : Operation (Except ε α)}
      (hnext : Follows answered script next) :
      Follows answered script (.note n next)
  | clock {answered : Prop} {script : List Cue} {next : Instant → Operation (Except ε α)}
      (hnext : ∀ now, Follows answered script (next now)) :
      Follows answered script (.clock next)
  | checkpoint {answered : Prop} {script : List Cue} {next : Bool → Operation (Except ε α)}
      (hwithdrawn : Follows False [] (next true))
      (hnext : Follows answered script (next false)) :
      Follows answered (.checkpoint :: script) (.checkpoint next)
  | acquire {answered : Prop} {script : List Cue} {abandoned : List Event}
      {next : Except String Unit → Operation (Except ε α)}
      (hfailed : ∀ text, Follows False [] (next (.error text)))
      (hnext : Follows answered script (next (.ok ()))) :
      Follows answered (.acquire :: script) (.acquire abandoned next)
  | send {answered : Prop} {script : List Cue} {request : EndpointRequest}
      {proceeds : Except String EndpointResponse → Prop} {abandoned : List Event}
      {next : Except String EndpointResponse → Operation (Except ε α)}
      (hnext : ∀ reply, proceeds reply →
        Follows (request.AnsweredBy reply) script (next reply))
      (hstop : ∀ reply, ¬proceeds reply →
        Follows (request.AnsweredBy reply) [] (next reply)) :
      Follows answered (.send request proceeds :: script) (.send request abandoned next)

/-- A program without contacts follows every script. -/
theorem Follows.of_nil
    {answered : Prop} {p : Operation (Except ε α)} (h : p.Follows answered [])
    (script : List Cue) : p.Follows answered script := by
  induction p with
  | done result =>
    cases h with
    | failed answered nothing error => exact .failed answered script error
    | succeeded nothing result hanswered => exact .succeeded script result hanswered
  | note n next ih =>
    cases h with
    | note n hnext => exact .note n (ih hnext)
  | clock next ih =>
    cases h with
    | clock hnext => exact .clock fun now => ih now (hnext now)
  | checkpoint next ih => cases h
  | acquire abandoned next ih => cases h
  | send request abandoned next ih => cases h

/-- A request with the rest of its program: for each reply the rest follows the script, if the reply
lets it, or it makes no further contact. -/
theorem Follows.send_or
    {answered : Prop} {script : List Cue} {request : EndpointRequest}
    {proceeds : Except String EndpointResponse → Prop} {abandoned : List Event}
    {next : Except String EndpointResponse → Operation (Except ε α)}
    (h : ∀ reply,
      (proceeds reply ∧ (next reply).Follows (request.AnsweredBy reply) script) ∨
        (next reply).Follows (request.AnsweredBy reply) []) :
    (Operation.send request abandoned next).Follows answered
      (.send request proceeds :: script) := by
  refine .send (fun reply _ => ?_) (fun reply hstop => ?_)
  · rcases h reply with ⟨-, hnext⟩ | hquiet
    · exact hnext
    · exact hquiet.of_nil script
  · rcases h reply with ⟨hproceeds, -⟩ | hquiet
    · exact absurd hproceeds hstop
    · exact hquiet

end Operation

/-! ## Dialogues -/

/-- Whether a step is a contact that scripts speak of. -/
def Step.isContact : Step → Bool
  | .checkpoint _ | .acquire _ _ | .send _ _ _ => true
  | .note _ | .clock _ => false

/-- The contacts among a list of steps. -/
def dialogueOf (steps : List Step) : List Step :=
  steps.filter Step.isContact

section

variable (steps : List Step)

@[simp]
theorem dialogueOf_append (first second : List Step) :
    dialogueOf (first ++ second) = dialogueOf first ++ dialogueOf second :=
  List.filter_append ..

@[simp]
theorem dialogueOf_eventSteps (events : List Event) : dialogueOf (eventSteps events) = [] := by
  simp [dialogueOf, eventSteps, Step.isContact]

@[simp]
theorem dialogueOf_note (n : Note) : dialogueOf (.note n :: steps) = dialogueOf steps :=
  rfl

@[simp]
theorem dialogueOf_clock (now : Instant) :
    dialogueOf (.clock now :: steps) = dialogueOf steps :=
  rfl

@[simp]
theorem dialogueOf_checkpoint (cancelled : Bool) :
    dialogueOf (.checkpoint cancelled :: steps) = .checkpoint cancelled :: dialogueOf steps :=
  rfl

@[simp]
theorem dialogueOf_acquire (cancelled : Bool) (reply : Option (Except String Unit)) :
    dialogueOf (.acquire cancelled reply :: steps) =
      .acquire cancelled reply :: dialogueOf steps :=
  rfl

@[simp]
theorem dialogueOf_send
    (request : EndpointRequest) (cancelled : Bool)
    (reply : Option (Except String EndpointResponse)) :
    dialogueOf (.send request cancelled reply :: steps) =
      .send request cancelled reply :: dialogueOf steps :=
  rfl

end

namespace Operation

variable {σ α : Type} (S : Surroundings σ) (s : σ)

/-! ### The dialogue of a run, contact by contact -/

theorem dialogueOf_run_checkpoint (next : Bool → Operation α) :
    dialogueOf ((checkpoint next).run S s).steps =
      .checkpoint (S.cancelled s) :: dialogueOf ((next (S.cancelled s)).run S s).steps :=
  rfl

theorem dialogueOf_run_acquire
    (abandoned : List Event) (next : Except String Unit → Operation α) :
    dialogueOf ((acquire abandoned next).run S s).steps =
      .acquire (S.cancelled s) (S.acquire s).1.reply ::
        match (S.acquire s).1.reply with
        | some reply => dialogueOf ((next reply).run S (S.acquire s).2).steps
        | none => [] := by
  simp only [run]
  cases (S.acquire s).1.reply with
  | none => simp
  | some reply => simp

theorem dialogueOf_run_send
    (request : EndpointRequest) (abandoned : List Event)
    (next : Except String EndpointResponse → Operation α) :
    dialogueOf ((send request abandoned next).run S s).steps =
      .send request (S.cancelled s) (S.send request s).1.reply ::
        match (S.send request s).1.reply with
        | some reply => dialogueOf ((next reply).run S (S.send request s).2).steps
        | none => [] := by
  simp only [run]
  cases (S.send request s).1.reply with
  | none => simp
  | some reply => simp

end Operation

/-- A dialogue that a script allows, with the outcome of its run. A run that was abandoned has no
outcome. -/
inductive Allows {ε α : Type} : Prop → List Cue → List Step → Option (Except ε α) → Prop
  | failed (answered : Prop) (script : List Cue) (error : ε) :
      Allows answered script [] (some (.error error))
  | succeeded {answered : Prop} (script : List Cue) (result : α) (hanswered : answered) :
      Allows answered script [] (some (.ok result))
  | withdrawn (answered : Prop) (script : List Cue) (error : ε) :
      Allows answered (.checkpoint :: script) [.checkpoint true] (some (.error error))
  | checkpoint {answered : Prop} {script : List Cue} {dialogue : List Step}
      {outcome : Option (Except ε α)} (hrest : Allows answered script dialogue outcome) :
      Allows answered (.checkpoint :: script) (.checkpoint false :: dialogue) outcome
  | acquireAbandoned (answered : Prop) (script : List Cue) (cancelled : Bool) :
      Allows answered (.acquire :: script) [.acquire cancelled none] none
  | acquireFailed (answered : Prop) (script : List Cue) (cancelled : Bool) (text : String)
      (error : ε) :
      Allows answered (.acquire :: script) [.acquire cancelled (some (.error text))]
        (some (.error error))
  | acquire {answered : Prop} {script : List Cue} {dialogue : List Step}
      {outcome : Option (Except ε α)} (cancelled : Bool)
      (hrest : Allows answered script dialogue outcome) :
      Allows answered (.acquire :: script) (.acquire cancelled (some (.ok ())) :: dialogue)
        outcome
  | sendAbandoned (answered : Prop) (script : List Cue) (request : EndpointRequest)
      (proceeds : Except String EndpointResponse → Prop) (cancelled : Bool) :
      Allows answered (.send request proceeds :: script) [.send request cancelled none] none
  | stopped {answered : Prop} {script : List Cue} {request : EndpointRequest}
      {proceeds : Except String EndpointResponse → Prop} {outcome : Option (Except ε α)}
      (cancelled : Bool) (reply : Except String EndpointResponse)
      (hrest : Allows (request.AnsweredBy reply) [] [] outcome) :
      Allows answered (.send request proceeds :: script)
        [.send request cancelled (some reply)] outcome
  | proceeded {answered : Prop} {script : List Cue} {request : EndpointRequest}
      {proceeds : Except String EndpointResponse → Prop} {dialogue : List Step}
      {outcome : Option (Except ε α)} (cancelled : Bool)
      (reply : Except String EndpointResponse) (hproceeds : proceeds reply)
      (hrest : Allows (request.AnsweredBy reply) script dialogue outcome) :
      Allows answered (.send request proceeds :: script)
        (.send request cancelled (some reply) :: dialogue) outcome

theorem Allows.of_nil {ε α : Type}
    {answered : Prop} {dialogue : List Step} {outcome : Option (Except ε α)}
    (h : Allows answered [] dialogue outcome) :
    dialogue = [] ∧ ((∃ error, outcome = some (.error error)) ∨ answered) := by
  cases h with
  | failed answered script error => exact ⟨rfl, .inl ⟨error, rfl⟩⟩
  | succeeded script result hanswered => exact ⟨rfl, .inr hanswered⟩

/-- Every run of a program that follows a script has a dialogue that the script allows. -/
theorem Operation.Follows.allows {ε α σ : Type}
    {answered : Prop} {script : List Cue} {p : Operation (Except ε α)}
    (h : p.Follows answered script) (S : Surroundings σ) (s : σ) :
    Allows answered script (dialogueOf (p.run S s).steps) (p.run S s).outcome := by
  induction h generalizing s with
  | failed answered script error => exact .failed answered script error
  | succeeded script result hanswered => exact .succeeded script result hanswered
  | note n hnext ih => exact ih s
  | clock hnext ih => exact ih (S.clock s).1 (S.clock s).2
  | @checkpoint answered script next hwithdrawn hnext ihWithdrawn ih =>
    simp only [run, Run.after_steps, Run.after_outcome, List.singleton_append,
      dialogueOf_checkpoint]
    cases S.cancelled s with
    | true =>
      obtain ⟨hquiet, ⟨error, herror⟩ | hfalse⟩ := (ihWithdrawn s).of_nil
      · rw [hquiet, herror]
        exact .withdrawn answered script error
      · exact hfalse.elim
    | false => exact .checkpoint (ih s)
  | @acquire answered script abandoned next hfailed hnext ihFailed ih =>
    simp only [run]
    cases (S.acquire s).1.reply with
    | none =>
      simp only [List.cons_append, dialogueOf_acquire, dialogueOf_append, dialogueOf_eventSteps,
        List.append_nil]
      exact .acquireAbandoned answered script (S.cancelled s)
    | some reply =>
      simp only [Run.after_steps, Run.after_outcome, List.cons_append, dialogueOf_acquire,
        dialogueOf_append, dialogueOf_eventSteps, List.nil_append]
      cases reply with
      | ok => exact .acquire (S.cancelled s) (ih (S.acquire s).2)
      | error text =>
        obtain ⟨hquiet, ⟨error, herror⟩ | hfalse⟩ := (ihFailed text (S.acquire s).2).of_nil
        · rw [hquiet, herror]
          exact .acquireFailed answered script (S.cancelled s) text error
        · exact hfalse.elim
  | @send answered script request proceeds abandoned next hnext hstop ihNext ihStop =>
    simp only [run]
    cases (S.send request s).1.reply with
    | none =>
      simp only [List.cons_append, dialogueOf_send, dialogueOf_append, dialogueOf_eventSteps,
        List.append_nil]
      exact .sendAbandoned answered script request proceeds (S.cancelled s)
    | some reply =>
      simp only [Run.after_steps, Run.after_outcome, List.cons_append, dialogueOf_send,
        dialogueOf_append, dialogueOf_eventSteps, List.nil_append]
      by_cases hproceeds : proceeds reply
      · exact .proceeded (S.cancelled s) reply hproceeds
          (ihNext reply hproceeds (S.send request s).2)
      · have hrest := ihStop reply hproceeds (S.send request s).2
        have hquiet := hrest.of_nil.1
        rw [hquiet] at hrest ⊢
        exact .stopped (S.cancelled s) reply hrest

/-! ## Conversations -/

/-- What the provider of endpoints and the endpoint see of an operation. -/
inductive Contact
  | acquire
  | send (request : EndpointRequest)
  deriving DecidableEq

def Contact.request? : Contact → Option EndpointRequest
  | .acquire => none
  | .send request => some request

/-- A step as provider and endpoint see it. -/
def Step.contact? : Step → Option Contact
  | .acquire _ _ => some .acquire
  | .send request _ _ => some (.send request)
  | _ => none

def Step.request? : Step → Option EndpointRequest
  | .send request _ _ => some request
  | _ => none

/-- What a step learned about its caller, if it looked. -/
def Step.checkpoint? : Step → Option Bool
  | .checkpoint cancelled => some cancelled
  | _ => none

/-- A cue as provider and endpoint see it. -/
def Cue.contact? : Cue → Option Contact
  | .checkpoint => none
  | .acquire => some .acquire
  | .send request _ => some (.send request)

/-- The conversation with provider and endpoint in a list of steps. -/
def conversationOf (steps : List Step) : List Contact :=
  steps.filterMap Step.contact?

def sentOf (steps : List Step) : List EndpointRequest :=
  steps.filterMap Step.request?

/-- What the checkpoints in a list of steps saw. -/
def checkpointsOf (steps : List Step) : List Bool :=
  steps.filterMap Step.checkpoint?

/-- The conversation of a script that is played to its end. -/
def contactsOf (script : List Cue) : List Contact :=
  script.filterMap Cue.contact?

/-- The part of a script before its checkpoint number `n`, counted from 0. -/
def scriptBefore : (n : Nat) → List Cue → List Cue
  | _, [] => []
  | 0, .checkpoint :: _ => []
  | n + 1, .checkpoint :: script => .checkpoint :: scriptBefore n script
  | n, .acquire :: script => .acquire :: scriptBefore n script
  | n, .send request proceeds :: script => .send request proceeds :: scriptBefore n script

theorem mem_conversationOf_cons_iff (step : Step) (steps : List Step) (contact : Contact) :
    contact ∈ conversationOf (step :: steps) ↔
      step.contact? = some contact ∨ contact ∈ conversationOf steps := by
  simp [conversationOf]

theorem mem_contactsOf_cons_iff (cue : Cue) (script : List Cue) (contact : Contact) :
    contact ∈ contactsOf (cue :: script) ↔
      cue.contact? = some contact ∨ contact ∈ contactsOf script := by
  simp [contactsOf]

theorem conversationOf_dialogueOf (steps : List Step) :
    conversationOf (dialogueOf steps) = conversationOf steps := by
  induction steps with
  | nil => rfl
  | cons step steps ih =>
    cases step with
    | note n => exact ih
    | clock now => exact ih
    | checkpoint cancelled => exact ih
    | acquire cancelled reply => exact congrArg (Contact.acquire :: ·) ih
    | send request cancelled reply => exact congrArg (Contact.send request :: ·) ih

theorem sentOf_dialogueOf (steps : List Step) :
    sentOf (dialogueOf steps) = sentOf steps := by
  induction steps with
  | nil => rfl
  | cons step steps ih =>
    cases step with
    | send request cancelled reply => exact congrArg (request :: ·) ih
    | _ => exact ih

/-- The requests are the part of a conversation that the endpoint sees. -/
theorem sentOf_eq_filterMap (steps : List Step) :
    sentOf steps = (conversationOf steps).filterMap Contact.request? := by
  induction steps with
  | nil => rfl
  | cons step steps ih =>
    cases step with
    | send request cancelled reply => exact congrArg (request :: ·) ih
    | _ => exact ih

theorem mem_sentOf_iff (steps : List Step) (request : EndpointRequest) :
    request ∈ sentOf steps ↔ .send request ∈ conversationOf steps := by
  rw [sentOf_eq_filterMap, List.mem_filterMap]
  constructor
  · rintro ⟨contact, hcontact, hrequest⟩
    cases contact with
    | acquire => cases hrequest
    | send sent =>
      cases hrequest
      exact hcontact
  · intro hcontact
    exact ⟨_, hcontact, rfl⟩

theorem checkpointsOf_dialogueOf (steps : List Step) :
    checkpointsOf (dialogueOf steps) = checkpointsOf steps := by
  induction steps with
  | nil => rfl
  | cons step steps ih =>
    cases step with
    | checkpoint cancelled => exact congrArg (cancelled :: ·) ih
    | _ => exact ih

namespace Allows

variable {ε α : Type} {answered : Prop} {script : List Cue} {dialogue : List Step}
  {outcome : Option (Except ε α)}

/-- The conversation of a dialogue is as much of the script as was played. -/
theorem prefix_conversation (h : Allows answered script dialogue outcome) :
    conversationOf dialogue <+: contactsOf script := by
  induction h with
  | failed answered script error => exact List.nil_prefix
  | succeeded script result hanswered => exact List.nil_prefix
  | withdrawn answered script error => exact List.nil_prefix
  | checkpoint hrest ih => exact ih
  | acquireAbandoned answered script cancelled =>
    exact List.cons_prefix_cons.mpr ⟨rfl, List.nil_prefix⟩
  | acquireFailed answered script cancelled text error =>
    exact List.cons_prefix_cons.mpr ⟨rfl, List.nil_prefix⟩
  | acquire cancelled hrest ih => exact List.cons_prefix_cons.mpr ⟨rfl, ih⟩
  | sendAbandoned answered script request proceeds cancelled =>
    exact List.cons_prefix_cons.mpr ⟨rfl, List.nil_prefix⟩
  | stopped cancelled reply hrest => exact List.cons_prefix_cons.mpr ⟨rfl, List.nil_prefix⟩
  | proceeded cancelled reply hproceeds hrest ih => exact List.cons_prefix_cons.mpr ⟨rfl, ih⟩

/-- A checkpoint that finds the caller withdrawn ends the conversation. -/
theorem prefix_conversation_of_withdrawn
    (h : Allows answered script dialogue outcome)
    {n : Nat} (hwithdrawn : (checkpointsOf dialogue)[n]? = some true) :
    conversationOf dialogue <+: contactsOf (scriptBefore n script) := by
  induction h generalizing n with
  | failed answered script error => exact List.nil_prefix
  | succeeded script result hanswered => exact List.nil_prefix
  | withdrawn answered script error => exact List.nil_prefix
  | checkpoint hrest ih =>
    cases n with
    | zero => cases hwithdrawn
    | succ n => exact ih hwithdrawn
  | acquireAbandoned answered script cancelled => cases hwithdrawn
  | acquireFailed answered script cancelled text error => cases hwithdrawn
  | acquire cancelled hrest ih =>
    rw [scriptBefore]
    exact List.cons_prefix_cons.mpr ⟨rfl, ih hwithdrawn⟩
  | sendAbandoned answered script request proceeds cancelled => cases hwithdrawn
  | stopped cancelled reply hrest => cases hwithdrawn
  | proceeded cancelled reply hproceeds hrest ih =>
    rw [scriptBefore]
    exact List.cons_prefix_cons.mpr ⟨rfl, ih hwithdrawn⟩

/-- Nothing follows an endpoint that could not be had. -/
theorem quiet_of_acquireFailed
    (h : Allows answered script dialogue outcome)
    {before after : List Step} {cancelled : Bool} {text : String}
    (hsplit : dialogue = before ++ .acquire cancelled (some (.error text)) :: after) :
    after = [] := by
  induction h generalizing before with
  | failed answered script error => simp at hsplit
  | succeeded script result hanswered => simp at hsplit
  | withdrawn answered script error => simp [List.cons_eq_append_iff] at hsplit
  | checkpoint hrest ih =>
    obtain ⟨rfl, hcons⟩ | ⟨rest, rfl, hrest⟩ := List.cons_eq_append_iff.mp hsplit
    · cases hcons
    · exact ih hrest
  | acquireAbandoned answered script cancelled => simp [List.cons_eq_append_iff] at hsplit
  | acquireFailed answered script cancelled text error =>
    obtain ⟨rfl, hcons⟩ | ⟨rest, rfl, hrest⟩ := List.cons_eq_append_iff.mp hsplit
    · cases hcons
      rfl
    · simp at hrest
  | acquire cancelled hrest ih =>
    obtain ⟨rfl, hcons⟩ | ⟨rest, rfl, hrest⟩ := List.cons_eq_append_iff.mp hsplit
    · cases hcons
    · exact ih hrest
  | sendAbandoned answered script request proceeds cancelled =>
    simp [List.cons_eq_append_iff] at hsplit
  | stopped cancelled reply hrest => simp [List.cons_eq_append_iff] at hsplit
  | proceeded cancelled reply hproceeds hrest ih =>
    obtain ⟨rfl, hcons⟩ | ⟨rest, rfl, hrest⟩ := List.cons_eq_append_iff.mp hsplit
    · cases hcons
    · exact ih hrest

/-- After a success, the last request was answered as it asked. -/
theorem answered_of_success
    (h : Allows answered script dialogue outcome)
    {result : α} (hsuccess : outcome = some (.ok result)) :
    (answered ∧ sentOf dialogue = []) ∨
      ∃ before request cancelled reply after,
        dialogue = before ++ .send request cancelled (some reply) :: after ∧
          request.AnsweredBy reply ∧ sentOf after = [] := by
  induction h with
  | failed answered script error => cases hsuccess
  | succeeded script result hanswered => exact .inl ⟨hanswered, rfl⟩
  | withdrawn answered script error => cases hsuccess
  | checkpoint hrest ih =>
    obtain hquiet | ⟨before, request, cancelled, reply, after, rfl, hlast⟩ := ih hsuccess
    · exact .inl hquiet
    · exact .inr ⟨.checkpoint false :: before, request, cancelled, reply, after, rfl, hlast⟩
  | acquireAbandoned answered script cancelled => cases hsuccess
  | acquireFailed answered script cancelled text error => cases hsuccess
  | acquire cancelled hrest ih =>
    obtain hquiet | ⟨before, request, withdrawn, reply, after, rfl, hlast⟩ := ih hsuccess
    · exact .inl hquiet
    · exact .inr ⟨.acquire cancelled (some (.ok ())) :: before, request, withdrawn, reply, after,
        rfl, hlast⟩
  | sendAbandoned answered script request proceeds cancelled => cases hsuccess
  | @stopped answered script request proceeds outcome cancelled reply hrest =>
    obtain ⟨-, ⟨error, herror⟩ | hanswered⟩ := hrest.of_nil
    · cases herror.symm.trans hsuccess
    · exact .inr ⟨[], request, cancelled, reply, [], rfl, hanswered, rfl⟩
  | @proceeded answered script request proceeds dialogue outcome cancelled reply hproceeds
      hrest ih =>
    obtain ⟨hanswered, hquiet⟩ | ⟨before, last, withdrawn, lastReply, after, rfl, hlast⟩ :=
      ih hsuccess
    · exact .inr ⟨[], request, cancelled, reply, dialogue, rfl, hanswered, hquiet⟩
    · exact .inr ⟨.send request cancelled (some reply) :: before, last, withdrawn, lastReply,
        after, rfl, hlast⟩

/-- What a script has after a request is only reached if the reply to the request let it. -/
theorem early_or_proceeded_of_mem
    {before after : List Cue} {request : EndpointRequest}
    {proceeds : Except String EndpointResponse → Prop}
    (h : Allows answered (before ++ .send request proceeds :: after) dialogue outcome)
    {contact : Contact} (hmem : contact ∈ conversationOf dialogue) :
    contact ∈ contactsOf (before ++ [.send request proceeds]) ∨
      ∃ cancelled reply, .send request cancelled (some reply) ∈ dialogue ∧ proceeds reply := by
  induction before generalizing answered dialogue with
  | nil =>
    cases h with
    | failed => cases hmem
    | succeeded => cases hmem
    | sendAbandoned => exact .inl hmem
    | stopped => exact .inl hmem
    | proceeded cancelled reply hproceeds hrest =>
      exact .inr ⟨cancelled, reply, List.mem_cons_self, hproceeds⟩
  | cons cue before ih =>
    -- The first step makes the contact of the cue, and the rest is a dialogue of the rest.
    have hgoesOn {answered' : Prop} {step : Step} {rest : List Step}
        (hstep : step.contact? = cue.contact?)
        (hrest : Allows answered' (before ++ .send request proceeds :: after) rest outcome)
        (hmem : contact ∈ conversationOf (step :: rest)) :
        contact ∈ contactsOf (cue :: before ++ [.send request proceeds]) ∨
          ∃ cancelled reply,
            .send request cancelled (some reply) ∈ step :: rest ∧ proceeds reply := by
      rw [List.cons_append, mem_contactsOf_cons_iff, ← hstep]
      rcases (mem_conversationOf_cons_iff step rest contact).mp hmem with hfirst | hlater
      · exact .inl (.inl hfirst)
      · rcases ih hrest hlater with hearly | ⟨cancelled, reply, hsent, hproceeds⟩
        · exact .inl (.inr hearly)
        · exact .inr ⟨cancelled, reply, List.mem_cons_of_mem _ hsent, hproceeds⟩
    have hstops {step : Step} (hstep : step.contact? = cue.contact?)
        (hmem : contact ∈ conversationOf [step]) :
        contact ∈ contactsOf (cue :: before ++ [.send request proceeds]) := by
      rw [List.cons_append, mem_contactsOf_cons_iff, ← hstep]
      rcases (mem_conversationOf_cons_iff step [] contact).mp hmem with hfirst | hlater
      · exact .inl hfirst
      · cases hlater
    cases h with
    | failed => cases hmem
    | succeeded => cases hmem
    | withdrawn => exact .inl (hstops rfl hmem)
    | checkpoint hrest => exact hgoesOn rfl hrest hmem
    | acquireAbandoned => exact .inl (hstops rfl hmem)
    | acquireFailed => exact .inl (hstops rfl hmem)
    | acquire cancelled hrest => exact hgoesOn rfl hrest hmem
    | sendAbandoned => exact .inl (hstops rfl hmem)
    | stopped => exact .inl (hstops rfl hmem)
    | proceeded cancelled reply hproceeds hrest => exact hgoesOn rfl hrest hmem

end Allows

end InfobaseGateway
