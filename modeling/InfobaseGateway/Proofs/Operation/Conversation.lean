import InfobaseGateway.Proofs.Classification
import InfobaseGateway.Proofs.Operation.Performance

/-!
# The conversation of a task

Every task follows one script: it looks whether its caller withdrew, acquires an endpoint, looks
again and sends its envelope. A creation looks up the names of its cluster between the endpoint and
the second checkpoint, and goes on only if the lookup finds no infobase of the requested name.

What a provider and an endpoint can see of a task follows from its script. The last theorem collects
it for all tasks in all surroundings.
-/

namespace InfobaseGateway

/-! ## Every procedure follows its script -/

theorem Operation.quiet_follows {ε α : Type} (answered : Prop) (script : List Cue) :
    Quiet (Follows answered script : Operation (Except ε α) → Prop) :=
  ⟨.note, .clock⟩

/-- Only an answer of the right kind has content. -/
theorem Dispatch.answeredBy_of_receive
    {request : EndpointRequest} {reply : Except String EndpointResponse}
    {content : request.expects.Content} (hreceive : receive request reply = .ok content) :
    request.AnsweredBy reply := by
  cases reply with
  | error text => cases hreceive
  | ok response =>
    refine ⟨response, rfl, (response.exists_content?_eq_some_iff _).mp ?_⟩
    cases hcontent : response.content? request.expects with
    | none => simp [receive, hcontent] at hreceive
    | some content => exact ⟨content, rfl⟩

section Procedure

variable {α : Type} {answered : Prop}

theorem Closing.follows
    {script : List Cue} {closing : Closing α}
    (h : answered ∨ ∃ error, closing.result = .error error) :
    closing.program.Follows answered script := by
  refine closing.ends.of_quiet (Operation.quiet_follows answered script) ?_
  rintro result rfl
  cases hresult : closing.result with
  | error error => exact .failed answered script error
  | ok value =>
    rcases h with hanswered | ⟨error, herror⟩
    · exact .succeeded script value hanswered
    · cases hresult.symm.trans herror

/-- The reply to a search lets the operation go on. -/
def Search.Leaves (search : Search α) (reply : Except String EndpointResponse) : Prop :=
  search.closing? reply = none

/-- A search that ends its operation was answered as it asked, or it failed. -/
theorem Search.answered_or_failed
    {search : Search α} {reply : Except String EndpointResponse} {closing : Closing α}
    (hclosing : search.closing? reply = some closing) :
    search.envelope.AnsweredBy reply ∨ ∃ error, closing.result = .error error := by
  rcases closing?_cases hclosing with ⟨content, hreceive, -⟩ | ⟨error, -, -, rfl⟩
  · exact .inl (Dispatch.answeredBy_of_receive hreceive)
  · exact .inr ⟨error, rfl⟩

namespace Procedure

variable (procedure : Procedure α)

theorem answered_or_failed (reply : Except String EndpointResponse) :
    procedure.envelope.AnsweredBy reply ∨
      ∃ error, (procedure.closing reply).result = .error error := by
  rw [closing]
  cases hreceive : Dispatch.receive procedure.envelope reply with
  | ok content => exact .inl (Dispatch.answeredBy_of_receive hreceive)
  | error error => exact .inr ⟨error, rfl⟩

/-- The script of a procedure. It goes on after its search if that leaves it something to ask. -/
def script : List Cue :=
  [.checkpoint, .acquire] ++
    (procedure.search?.map fun search => .send search.envelope search.Leaves).toList ++
    [.checkpoint, .send procedure.envelope fun _ => True]

theorem follows_setback {script : List Cue} (setback : Setback) :
    (procedure.setback setback).program.Follows answered script :=
  Closing.follows (.inr ⟨_, rfl⟩)

theorem follows_asking :
    procedure.asking.Follows answered
      [.checkpoint, .send procedure.envelope fun _ => True] := by
  refine .checkpoint (procedure.follows_setback _) (.send (fun reply _ => ?_) ?_)
  · exact Closing.follows (procedure.answered_or_failed reply)
  · exact fun reply hstop => absurd trivial hstop

theorem follows_program : procedure.program.Follows answered procedure.script := by
  refine .checkpoint (procedure.follows_setback _) (.acquire (fun text => ?_) ?_)
  · exact procedure.follows_setback _
  dsimp only
  rw [searching]
  cases procedure.search? with
  | none => exact procedure.follows_asking
  | some search =>
    refine .send_or fun reply => ?_
    rw [Search.onwards]
    cases hclosing : search.closing? reply with
    | none => exact .inl ⟨hclosing, procedure.follows_asking⟩
    | some closing => exact .inr (Closing.follows (Search.answered_or_failed hclosing))

end Procedure

end Procedure

/-! ## Every task follows its script -/

namespace CreateInfobase

/-- A reply to the lookup after which a creation goes on: a listing without an infobase of exactly
the requested name, or a failure that says that something was not found. -/
inductive FindsNone (request : CreateInfobase) : Except String EndpointResponse → Prop
  | listing (infobases : List InfobaseShort)
      (habsent : ∀ infobase ∈ infobases, infobase.name ≠ request.name) :
      FindsNone request (.ok (.infobaseSummaries infobases))
  | notFound (text : String) (hcategory : categoryOf text = .notFound) :
      FindsNone request (.error text)

theorem eq_of_receive_getInfobasesShort
    {clusterId : String} {reply : Except String EndpointResponse}
    {infobases : List InfobaseShort}
    (hreceive : Dispatch.receive (.getInfobasesShort clusterId) reply = .ok infobases) :
    reply = .ok (.infobaseSummaries infobases) := by
  cases reply with
  | error text => cases hreceive
  | ok response =>
    cases response with
    | infobaseSummaries content =>
      cases hreceive
      rfl
    | _ => cases hreceive

/-- A lookup that fails with "not found" was answered so: a response of the wrong kind is another
failure. -/
theorem findsNone_of_receive_eq_error
    {request : CreateInfobase} {reply : Except String EndpointResponse} {error : GatewayError}
    (hreceive : Dispatch.receive (.getInfobasesShort request.clusterId) reply = .error error)
    (hcode : error.code = .notFound) : request.FindsNone reply := by
  cases reply with
  | error text =>
    cases hreceive
    exact .notFound text ((EndpointError.code_ofText text).symm.trans hcode)
  | ok response =>
    cases response with
    | infobaseSummaries infobases => cases hreceive
    | _ =>
      cases hreceive
      cases hcode

/-- The lookup leaves something to ask if it finds nothing. -/
theorem findsNone_of_leaves
    {request : CreateInfobase} {reply : Except String EndpointResponse}
    (hleaves : request.search.Leaves reply) : request.FindsNone reply := by
  simp only [Search.Leaves, Search.closing?, search] at hleaves
  cases hreceive : Dispatch.receive (.getInfobasesShort request.clusterId) reply with
  | ok infobases =>
    simp only [hreceive, Option.map_eq_none_iff] at hleaves
    rw [eq_of_receive_getInfobasesShort hreceive]
    exact .listing infobases ((request.existing?_eq_none_iff infobases).mp hleaves)
  | error error =>
    simp only [hreceive] at hleaves
    by_cases hcode : error.code = .notFound
    · exact findsNone_of_receive_eq_error hreceive hcode
    · rw [if_neg hcode] at hleaves
      cases hleaves

end CreateInfobase

namespace GatewayTask

def script (task : GatewayTask) : List Cue :=
  task.procedure.script

theorem follows_perform {answered : Prop} (task : GatewayTask) :
    task.perform.outcome.Follows answered task.script := by
  rw [outcome_perform]
  refine task.prepares.followedBy_quiet (Operation.quiet_follows answered _) ?_ ?_
  · exact fun now error _ => .failed answered _ error
  · exact task.procedure.follows_program

/-- The contacts of a task that runs to its end. -/
def contacts (task : GatewayTask) : List Contact :=
  .acquire :: task.envelopes.map .send

theorem contactsOf_script (task : GatewayTask) : contactsOf task.script = task.contacts := by
  cases task with
  | _ => rfl

/-- Up to the second checkpoint of a task, nothing that it sends changes the store. -/
theorem changesState_of_mem_scriptBefore
    {task : GatewayTask} {request : EndpointRequest}
    (hmem : .send request ∈ contactsOf (scriptBefore 1 task.script)) :
    request.changesState = false := by
  cases task with
  | create create =>
    rcases List.mem_pair.mp hmem with h | h
    · cases h
    · cases h
      rfl
  | _ => cases List.mem_singleton.mp hmem

theorem scriptBefore_zero (task : GatewayTask) : scriptBefore 0 task.script = [] := by
  cases task with
  | _ => rfl

/-! ## Refused tasks -/

/-- A run that ends with a failure before any contact. -/
def EndsAtOnce {σ α : Type} (run : Run σ (Except GatewayError α)) : Prop :=
  conversationOf run.steps = [] ∧ ∃ error, run.outcome = some (.error error)

/-- A refused task ends with a failure before any contact. The clock reading that decides about a
lock window is the first one of the run. -/
theorem endsAtOnce_of_refused {σ : Type}
    {task : GatewayTask} {S : Surroundings σ} {s : σ}
    (hrefused : task.Refused (S.clock s).1) :
    EndsAtOnce (task.perform.outcome.run S s) := by
  obtain ⟨error, hverdict⟩ := (task.refused_iff _).mp hrefused
  obtain ⟨hquiet, houtcome⟩ :=
    task.prepares.run_followedBy_of_error hverdict task.procedure.program
  rw [← outcome_perform] at hquiet houtcome
  refine ⟨?_, error, houtcome⟩
  rw [← conversationOf_dialogueOf, hquiet]
  rfl

end GatewayTask

/-! ## The conversation in all surroundings -/

namespace Run

variable {σ α : Type}

def conversation (run : Run σ α) : List Contact :=
  conversationOf run.steps

def checkpoints (run : Run σ α) : List Bool :=
  checkpointsOf run.steps

theorem sent_eq_sentOf (run : Run σ α) : run.sent = sentOf run.steps :=
  rfl

end Run

namespace GatewayTask

/-- What provider and endpoint can see of a run of a task that reads `now` when it first looks at
the clock. -/
structure Converses {σ : Type} (task : GatewayTask) (now : Instant)
    (run : Run σ (Except GatewayError task.Result)) : Prop where
  /-- The task acquires one endpoint and then sends its envelopes in order. -/
  prefix_contacts : run.conversation <+: task.contacts
  /-- Envelopes carry the ids that the caller gave. -/
  ids_verbatim : ∀ request ∈ run.sent,
    request.clusterId? = task.clusterId? ∧ request.memberId? = task.memberId?
  silent_of_refused : task.Refused now → run.conversation = []
  silent_of_withdrawn : run.checkpoints[0]? = some true → run.conversation = []
  quiet_of_acquireFailed : ∀ before after cancelled text,
    run.steps = before ++ .acquire cancelled (some (.error text)) :: after →
      conversationOf after = []
  unchanged_of_withdrawn : run.checkpoints[1]? = some true →
    ∀ request ∈ run.sent, request.changesState = false
  /-- A new infobase is only asked for after a lookup in its cluster that did not find its name. -/
  creation_looked_up : ∀ info, .createInfobase info ∈ run.sent →
    ∃ request, task = .create request ∧ info = request.info ∧
      ∃ cancelled reply,
        .send (.getInfobasesShort request.clusterId) cancelled (some reply) ∈ run.steps ∧
          request.FindsNone reply
  sent_nodup : run.sent.Nodup
  /-- The last request of a task that succeeds was answered by the kind of response it asks for. -/
  answered_of_success : ∀ result, run.outcome = some (.ok result) →
    ∃ before request cancelled response after,
      run.steps = before ++ .send request cancelled (some (.ok response)) :: after ∧
        response.kind = request.expects ∧ sentOf after = []

theorem allows_run {σ : Type} (task : GatewayTask) (S : Surroundings σ) (s : σ) :
    Allows False task.script (dialogueOf (task.perform.outcome.run S s).steps)
      (task.perform.outcome.run S s).outcome :=
  task.follows_perform.allows S s

theorem prefix_conversation {σ : Type} (task : GatewayTask) (S : Surroundings σ) (s : σ) :
    (task.perform.outcome.run S s).conversation <+: task.contacts := by
  have hstart := (task.allows_run S s).prefix_conversation
  rw [conversationOf_dialogueOf, contactsOf_script] at hstart
  exact hstart

theorem prefix_sent {σ : Type} (task : GatewayTask) (S : Surroundings σ) (s : σ) :
    (task.perform.outcome.run S s).sent <+: task.envelopes := by
  have hstart := (task.prefix_conversation S s).filterMap Contact.request?
  have henvelopes : task.contacts.filterMap Contact.request? = task.envelopes := by
    show (task.envelopes.map Contact.send).filterMap Contact.request? = task.envelopes
    rw [List.filterMap_map]
    exact List.filterMap_some
  rw [henvelopes] at hstart
  rw [Run.sent_eq_sentOf, sentOf_eq_filterMap]
  exact hstart

theorem changesState_of_withdrawn {σ : Type}
    {task : GatewayTask} {S : Surroundings σ} {s : σ}
    (hwithdrawn : (task.perform.outcome.run S s).checkpoints[1]? = some true)
    {request : EndpointRequest} (hsent : request ∈ (task.perform.outcome.run S s).sent) :
    request.changesState = false := by
  have hstart := (task.allows_run S s).prefix_conversation_of_withdrawn
    (by rw [checkpointsOf_dialogueOf]; exact hwithdrawn)
  rw [conversationOf_dialogueOf] at hstart
  have hcontact := (mem_sentOf_iff _ _).mp hsent
  exact changesState_of_mem_scriptBefore (hstart.subset hcontact)

theorem lookup_of_creation {σ : Type}
    {task : GatewayTask} {S : Surroundings σ} {s : σ} {info : InfobaseInfo}
    (hsent : .createInfobase info ∈ (task.perform.outcome.run S s).sent) :
    ∃ request, task = .create request ∧ info = request.info ∧
      ∃ cancelled reply,
        .send (.getInfobasesShort request.clusterId) cancelled (some reply) ∈
            (task.perform.outcome.run S s).steps ∧
          request.FindsNone reply := by
  obtain ⟨request, rfl, rfl⟩ :=
    eq_of_createInfobase_mem_envelopes ((task.prefix_sent S s).subset hsent)
  refine ⟨request, rfl, rfl, ?_⟩
  have hallows := (create request).allows_run S s
  have hcontact :
      .send (.createInfobase request.info) ∈
        conversationOf (dialogueOf ((create request).perform.outcome.run S s).steps) := by
    rw [conversationOf_dialogueOf]
    exact (mem_sentOf_iff _ _).mp hsent
  have hscript :
      (create request).script =
        [.checkpoint, .acquire] ++
          .send (.getInfobasesShort request.clusterId) request.search.Leaves ::
            [.checkpoint, .send (.createInfobase request.info) fun _ => True] := rfl
  rw [hscript] at hallows
  rcases hallows.early_or_proceeded_of_mem hcontact with
    hearly | ⟨cancelled, reply, hlookup, hleaves⟩
  · -- The creation itself is not one of the contacts up to the lookup.
    rcases List.mem_pair.mp hearly with h | h
    · cases h
    · cases h
  · exact ⟨cancelled, reply, List.mem_of_mem_filter hlookup,
      CreateInfobase.findsNone_of_leaves hleaves⟩

theorem last_answered_of_success {σ : Type}
    {task : GatewayTask} {S : Surroundings σ} {s : σ} {result : task.Result}
    (hsuccess : (task.perform.outcome.run S s).outcome = some (.ok result)) :
    ∃ before request cancelled response after,
      (task.perform.outcome.run S s).steps =
          before ++ .send request cancelled (some (.ok response)) :: after ∧
        response.kind = request.expects ∧ sentOf after = [] := by
  rcases (task.allows_run S s).answered_of_success hsuccess with
    ⟨hfalse, -⟩ | ⟨before, request, cancelled, reply, after, hsplit, hanswered, hlast⟩
  · exact hfalse.elim
  · obtain ⟨response, rfl, hkind⟩ := hanswered
    obtain ⟨front, back, hsteps, -, hback⟩ := List.filter_eq_append_iff.mp hsplit
    obtain ⟨gap, rest, rfl, -, -, rfl⟩ := List.filter_eq_cons_iff.mp hback
    refine ⟨front ++ gap, request, cancelled, response, rest, ?_, hkind, ?_⟩
    · rw [hsteps, List.append_assoc]
    · rw [← sentOf_dialogueOf]
      exact hlast

/-- In all surroundings, whatever they answer and whenever the caller withdraws, a task talks to
provider and endpoint as its request says. -/
theorem converses {σ : Type} (task : GatewayTask) (S : Surroundings σ) (s : σ) :
    task.Converses (S.clock s).1 (task.perform.outcome.run S s) where
  prefix_contacts := task.prefix_conversation S s
  ids_verbatim := fun _ hsent => ids_of_mem_envelopes ((task.prefix_sent S s).subset hsent)
  silent_of_refused := fun hrefused => (endsAtOnce_of_refused hrefused).1
  silent_of_withdrawn := by
    intro hwithdrawn
    have hstart := (task.allows_run S s).prefix_conversation_of_withdrawn
      (by rw [checkpointsOf_dialogueOf]; exact hwithdrawn)
    rw [conversationOf_dialogueOf, scriptBefore_zero] at hstart
    exact List.prefix_nil.mp hstart
  quiet_of_acquireFailed := by
    intro before after cancelled text hsplit
    have hquiet := (task.allows_run S s).quiet_of_acquireFailed
      (by rw [hsplit, dialogueOf_append, dialogueOf_acquire])
    rw [← conversationOf_dialogueOf, hquiet]
    rfl
  unchanged_of_withdrawn := fun hwithdrawn _ hsent => changesState_of_withdrawn hwithdrawn hsent
  creation_looked_up := fun _ hsent => lookup_of_creation hsent
  sent_nodup := (task.prefix_sent S s).nodup task.envelopes_nodup
  answered_of_success := fun _ hsuccess => last_answered_of_success hsuccess

end GatewayTask

end InfobaseGateway
