import InfobaseGateway.Proofs.Operation.Performance
import InfobaseGateway.Proofs.Secrecy.Alike

/-!
# Operations keep passwords to themselves

Every operation is alike to itself with its passwords blotted out. Its preparation is the same
program, and its procedure is the same but for the passwords in its envelope. The operations log
nothing that holds a password and decide nothing by one; passwords only leave in envelopes.
-/

namespace InfobaseGateway

/-! ## Replies that are the same but for their passwords -/

/-- Two contents that are of responses which are the same but for their passwords. -/
def ContentAlike
    {kind kind' : ResponseKind} (content : kind.Content) (content' : kind'.Content) : Prop :=
  ∃ response response' : EndpointResponse,
    response.blotted = response'.blotted ∧ response.content? kind = some content ∧
      response'.content? kind' = some content'

theorem ContentAlike.eq
    {kind : ResponseKind} (hkind : kind ≠ .infobase) {content content' : kind.Content}
    (h : ContentAlike content content') : content = content' := by
  obtain ⟨response, response', hsame, hcontent, hcontent'⟩ := h
  rw [← EndpointResponse.content?_blotted hkind] at hcontent hcontent'
  rw [hsame, hcontent'] at hcontent
  exact (Option.some.inj hcontent).symm

theorem ContentAlike.blotted_eq
    {record record' : InfobaseInfo}
    (h : @ContentAlike .infobase .infobase record record') :
    record.blotted = record'.blotted := by
  obtain ⟨response, response', hsame, hrecord, hrecord'⟩ := h
  have hblotted := response.content?_infobase_blotted
  have hblotted' := response'.content?_infobase_blotted
  rw [hsame, hblotted', hrecord, hrecord'] at hblotted
  exact (Option.some.inj hblotted).symm

/-- Replies that are the same but for their passwords are received alike. -/
theorem Dispatch.receive_cases
    {request request' : EndpointRequest} (hsame : request.blotted = request'.blotted)
    {reply reply' : Except String EndpointResponse}
    (hreply : reply.map EndpointResponse.blotted = reply'.map EndpointResponse.blotted) :
    (∃ error, receive request reply = .error error ∧ receive request' reply' = .error error) ∨
      ∃ content content',
        receive request reply = .ok content ∧ receive request' reply' = .ok content' ∧
          ContentAlike content content' := by
  cases reply with
  | error text =>
    cases reply' with
    | ok response' => cases hreply
    | error text' =>
      cases hreply
      exact .inl ⟨_, rfl, rfl⟩
  | ok response =>
    cases reply' with
    | error text' => cases hreply
    | ok response' =>
      have hresponse : response.blotted = response'.blotted := Except.ok.inj hreply
      have hname : request.name = request'.name := by
        rw [← request.name_blotted, hsame, request'.name_blotted]
      have hexpects : request.expects = request'.expects := by
        rw [← request.expects_blotted, hsame, request'.expects_blotted]
      have hkind : response.kind = response'.kind := by
        rw [← response.kind_blotted, hresponse, response'.kind_blotted]
      by_cases hanswers : response.kind = request.expects
      · obtain ⟨content, hcontent⟩ := (response.exists_content?_eq_some_iff _).mpr hanswers
        have hanswers' : response'.kind = request'.expects := by
          rw [← hkind, hanswers, hexpects]
        obtain ⟨content', hcontent'⟩ := (response'.exists_content?_eq_some_iff _).mpr hanswers'
        refine .inr ⟨content, content', ?_, ?_, response, response', hresponse, hcontent,
          hcontent'⟩
        · simp only [receive, hcontent]
        · simp only [receive, hcontent']
      · have hanswers' : ¬response'.kind = request'.expects := by
          rw [← hkind, ← hexpects]
          exact hanswers
        refine .inl ⟨_, receive_of_other_kind hanswers, ?_⟩
        rw [receive_of_other_kind hanswers', hname, hexpects, hkind]

/-- A search that no password is part of has the same result. -/
theorem Search.closing?_eq
    {α : Type} {search : Search α} (hkind : search.envelope.expects ≠ .infobase)
    {reply reply' : Except String EndpointResponse}
    (hreply : reply.map EndpointResponse.blotted = reply'.map EndpointResponse.blotted) :
    search.closing? reply = search.closing? reply' := by
  have hsame : search.envelope.blotted = search.envelope.blotted := rfl
  rw [closing?, closing?]
  rcases Dispatch.receive_cases hsame hreply with
    ⟨error, hfirst, hsecond⟩ | ⟨content, content', hfirst, hsecond, hcontents⟩
  · rw [hfirst, hsecond]
  · rw [hfirst, hsecond, hcontents.eq hkind]

/-! ## Procedures that are the same but for their passwords -/

section Programs

variable {checking : Prop} {α : Type}

theorem Operation.Ends.alike
    {ε : Type} {P : Except ε α → Prop} {p : Operation (Except ε α)} (h : p.Ends P) :
    p.Alike checking p := by
  induction h with
  | @done result hresult => exact .done result
  | note n hnext ih => exact .note n ih
  | clock hnext ih => exact .clock ih

theorem Closing.always
    {closing : Closing α} {good : Except GatewayError α → Prop} (hresult : good closing.result) :
    closing.program.Always good := by
  refine closing.ends.of_quiet ⟨fun _ _ => id, id⟩ ?_
  rintro result rfl
  exact hresult

/-- Two procedures that differ in the passwords of their envelopes at most. A check of credentials
succeeds with every answer. -/
structure Procedure.SameButPasswords (checking : Prop) (first second : Procedure α) : Prop where
  search : first.search? = second.search?
  unchecked : ∀ search, first.search? = some search →
    search.envelope.expects ≠ .infobase ∧ ¬search.envelope.IsCheck
  envelope : first.envelope.blotted = second.envelope.blotted
  setbackRecords : first.setbackRecords = second.setbackRecords
  abandoned : first.abandoned = second.abandoned
  conclude : ∀ content content', ContentAlike content content' →
    first.conclude content = second.conclude content'
  check : first.envelope.IsCheck →
    checking ∧ (∀ content, Succeeds (first.conclude content).result) ∧
      ∀ content, Succeeds (second.conclude content).result

namespace Procedure

/-- After a check of credentials an operation hands its verdict on. -/
theorem faithful_closing
    {procedure : Procedure α} (hischeck : procedure.envelope.IsCheck)
    (hsucceeds : ∀ content, Succeeds (procedure.conclude content).result) :
    Faithful fun verdict => (procedure.closing (checkReply verdict)).program := by
  constructor
  · intro u
    have hkind : EndpointResponse.authenticated.kind = procedure.envelope.expects :=
      hischeck.expects_eq.symm
    obtain ⟨content, hcontent⟩ :=
      (EndpointResponse.authenticated.exists_content?_eq_some_iff _).mpr hkind
    have hclosing : procedure.closing (checkReply (.ok u)) = procedure.conclude content := by
      simp only [closing, checkReply, Except.map, Dispatch.receive, hcontent]
    rw [hclosing]
    exact Closing.always (hsucceeds content)
  · exact fun text => Closing.always (not_succeeds_error _)

namespace SameButPasswords

variable {first second : Procedure α} {next next' : Operation (Except GatewayError α)}

theorem setback_eq (h : first.SameButPasswords checking second) (setback : Setback) :
    first.setback setback = second.setback setback := by
  rw [Procedure.setback, Procedure.setback, h.setbackRecords]

theorem closing_eq
    (h : first.SameButPasswords checking second) {reply reply' : Except String EndpointResponse}
    (hreply : reply.map EndpointResponse.blotted = reply'.map EndpointResponse.blotted) :
    first.closing reply = second.closing reply' := by
  rw [closing, closing]
  rcases Dispatch.receive_cases h.envelope hreply with
    ⟨error, hfirst, hsecond⟩ | ⟨content, content', hfirst, hsecond, hcontents⟩
  · rw [hfirst, hsecond]
    exact h.setback_eq _
  · rw [hfirst, hsecond]
    exact h.conclude content content' hcontents

theorem alike_looking
    (h : first.SameButPasswords checking second) (look : Look) (hnext : next.Alike checking next') :
    (first.looking look next).Alike checking (second.looking look next') := by
  refine .checkpoint fun cancelled => ?_
  cases cancelled with
  | true =>
    rw [h.setback_eq]
    exact (second.setback _).ends.alike
  | false => exact hnext

theorem alike_acquiring
    (h : first.SameButPasswords checking second) (hnext : next.Alike checking next') :
    (first.acquiring next).Alike checking (second.acquiring next') := by
  rw [acquiring, acquiring, h.abandoned]
  refine .acquire _ fun reply => ?_
  cases reply with
  | ok => exact hnext
  | error text =>
    dsimp only
    rw [h.setback_eq]
    exact (second.setback _).ends.alike

theorem alike_searching
    (h : first.SameButPasswords checking second) (hnext : next.Alike checking next') :
    (first.searching next).Alike checking (second.searching next') := by
  rw [searching, searching, ← h.search, h.abandoned]
  cases hsearch : first.search? with
  | none => exact hnext
  | some search =>
    obtain ⟨hkind, hother⟩ := h.unchecked search hsearch
    refine .send rfl _ (fun reply reply' hreply => ?_) fun hischeck => absurd hischeck hother
    rw [Search.onwards, Search.onwards, Search.closing?_eq hkind hreply]
    cases search.closing? reply' with
    | some closing => exact closing.ends.alike
    | none => exact hnext

theorem alike_asking (h : first.SameButPasswords checking second) :
    first.asking.Alike checking second.asking := by
  refine h.alike_looking _ ?_
  rw [h.abandoned]
  refine .send h.envelope _ (fun reply reply' hreply => ?_) fun hischeck => ?_
  · rw [h.closing_eq hreply]
    exact (second.closing reply').ends.alike
  · obtain ⟨hchecking, hfirst, hsecond⟩ := h.check hischeck
    have hischeck' := (Operation.Alike.isCheck_iff_of_blotted_eq h.envelope).mp hischeck
    exact ⟨hchecking, faithful_closing hischeck hfirst, faithful_closing hischeck' hsecond⟩

theorem alike_program (h : first.SameButPasswords checking second) :
    first.program.Alike checking second.program :=
  h.alike_looking _ (h.alike_acquiring (h.alike_searching h.alike_asking))

end SameButPasswords

/-- Round trips are the same if their envelopes and their answers are. -/
theorem sameButPasswords_roundTrip
    (operation : String) {envelope envelope' : EndpointRequest}
    (hsame : envelope.blotted = envelope'.blotted) (failureEvents : GatewayError → List Event)
    (events : List Event) {word : envelope.expects.Content → α}
    {word' : envelope'.expects.Content → α}
    (hword : ∀ content content', ContentAlike content content' → word content = word' content')
    (hcheck : envelope.IsCheck → checking) :
    (roundTrip operation envelope failureEvents events word).SameButPasswords checking
      (roundTrip operation envelope' failureEvents events word') where
  search := rfl
  unchecked _ hsearch := nomatch hsearch
  envelope := hsame
  setbackRecords := rfl
  abandoned := rfl
  conclude content content' hcontents := by
    show Closing.mk _ _ = Closing.mk _ _
    rw [hword content content' hcontents]
  check hischeck := ⟨hcheck hischeck, fun content => ⟨_, rfl⟩, fun content => ⟨_, rfl⟩⟩

end Procedure

/-- Two programs that may fail and are alike. -/
def Attempt.Alike {ε α : Type} (checking : Prop) (x y : Attempt ε α) : Prop :=
  x.outcome.Alike checking y.outcome

theorem Operation.Prepares.alike_followedBy
    {reads : Bool} {verdict : Instant → Except GatewayError Unit}
    {checks : Operation (Except GatewayError Unit)} (h : checks.Prepares reads verdict)
    {first second : Operation (Except GatewayError α)} (hrest : first.Alike checking second) :
    (checks.followedBy first).Alike checking (checks.followedBy second) := by
  induction h with
  | passed hpassed => exact hrest
  | refused hrefused => exact .done _
  | record hmild hnext ih => exact .note _ ih
  | clock hnext ih => exact .clock ih

/-- An operation that prepares itself as another one does and proceeds in the same way. -/
theorem alike_of_procedures
    {preparation : GatewayAttempt Unit} {reads : Bool}
    {verdict : Instant → Except GatewayError Unit}
    (hprepares : preparation.outcome.Prepares reads verdict)
    {first second : Procedure α} (h : first.SameButPasswords checking second) :
    (do preparation; .ofOutcome first.program : GatewayAttempt α).Alike checking
      (do preparation; .ofOutcome second.program) := by
  rw [Attempt.Alike, Attempt.outcome_bind_ofOutcome, Attempt.outcome_bind_ofOutcome]
  exact hprepares.alike_followedBy h.alike_program

end Programs

section Operations

variable {checking : Prop}

/-! ## Round trips -/

theorem UpdateInfobase.sameButPasswords (request : UpdateInfobase) :
    request.procedure.SameButPasswords checking request.blotted.procedure := by
  have hsame :
      (EndpointRequest.updateInfobase request.info).blotted =
        (EndpointRequest.updateInfobase request.blotted.info).blotted := by
    have hinfo : request.blotted.info = request.info.blotted := rfl
    rw [hinfo, EndpointRequest.blotted, EndpointRequest.blotted, InfobaseInfo.blotted_blotted]
  exact Procedure.sameButPasswords_roundTrip _ hsame _ _ (fun _ _ _ => rfl) False.elim

theorem UpdateInfobase.alike_perform (request : UpdateInfobase) :
    request.perform.Alike checking request.blotted.perform := by
  rw [perform_eq, perform_eq]
  exact alike_of_procedures request.prepares request.sameButPasswords

theorem LockInfobase.alike_perform (lock : LockInfobase) :
    lock.perform.Alike checking lock.blotted.perform := by
  rw [perform_eq, perform_eq]
  exact alike_of_procedures lock.prepares lock.update.sameButPasswords

theorem UnlockInfobase.alike_perform (unlock : UnlockInfobase) :
    unlock.perform.Alike checking unlock.blotted.perform := by
  rw [perform_eq, perform_eq]
  exact alike_of_procedures unlock.prepares unlock.update.sameButPasswords

theorem TerminateSession.alike_perform (request : TerminateSession) :
    request.perform.Alike checking request.perform := by
  rw [perform_eq]
  exact alike_of_procedures (GatewayTask.terminate request).prepares
    (Procedure.sameButPasswords_roundTrip _ rfl _ _ (fun _ _ _ => rfl) False.elim)

/-- The password leaves in the envelope, and the check succeeds exactly if it is accepted. -/
theorem Authenticate.alike_perform (hchecking : checking) (request : Authenticate) :
    request.perform.Alike checking request.blotted.perform := by
  have hsame :
      (EndpointRequest.authenticate request).blotted =
        (EndpointRequest.authenticate request.blotted).blotted := by
    rw [EndpointRequest.blotted, EndpointRequest.blotted, Authenticate.blotted_blotted]
  rw [perform_eq, perform_eq]
  exact alike_of_procedures (GatewayTask.authenticate request).prepares
    (Procedure.sameButPasswords_roundTrip _ hsame _ _ (fun _ _ _ => rfl) fun _ => hchecking)

/-- A question that no password is part of, neither in the envelope nor in the answer. -/
theorem Query.sameButPasswords
    {request : EndpointRequest} (hkind : request.expects ≠ .infobase) (hother : ¬request.IsCheck)
    (clusterId : Option String) :
    (Query.procedure request clusterId).SameButPasswords checking
      (Query.procedure request clusterId) :=
  Procedure.sameButPasswords_roundTrip _ rfl _ _ (fun _ _ hcontents => hcontents.eq hkind)
    fun hischeck => absurd hischeck hother

theorem Query.alike_ask
    {request : EndpointRequest} (hkind : request.expects ≠ .infobase) (hother : ¬request.IsCheck)
    (clusterId : Option String) :
    (Query.ask request clusterId).Alike checking (Query.ask request clusterId) := by
  rw [ask_eq]
  exact (Query.sameButPasswords hkind hother clusterId).alike_program

theorem Query.alike_ensure_ask
    (check : Except ValidationError Unit) {request : EndpointRequest}
    (hkind : request.expects ≠ .infobase) (hother : ¬request.IsCheck) (clusterId : Option String) :
    (do ensure check; Query.ask request clusterId : GatewayAttempt _).Alike checking
      (do ensure check; Query.ask request clusterId) := by
  rw [ensure_ask_eq]
  exact alike_of_procedures (prepares_ensure check) (Query.sameButPasswords hkind hother clusterId)

/-! ## Removals -/

namespace DropInfobase

theorem sameButPasswords (request : DropInfobase) :
    request.procedure.SameButPasswords checking request.blotted.procedure where
  search := rfl
  unchecked _ hsearch := nomatch hsearch
  envelope := rfl
  setbackRecords := rfl
  abandoned := rfl
  conclude _ _ _ := rfl
  check := False.elim

theorem alike_perform (request : DropInfobase) :
    request.perform.Alike checking request.blotted.perform := by
  rw [perform_eq, perform_eq]
  exact alike_of_procedures request.prepares request.sameButPasswords

end DropInfobase

/-! ## Creations -/

namespace CreateInfobase

/-- The answer to a creation is read for its uuid only. -/
theorem closing_blotted
    (request : CreateInfobase) {record record' : InfobaseInfo}
    (hrecords : record.blotted = record'.blotted) :
    request.closing record = request.blotted.closing record' := by
  have huuid : record.uuid = record'.uuid := by
    have hblotted := congrArg InfobaseInfo.uuid hrecords
    exact hblotted
  have hending : request.ending record = request.blotted.ending record' := by
    rw [ending, ending, huuid]
    rfl
  rw [closing, closing, hending]
  rfl

theorem sameButPasswords (request : CreateInfobase) :
    request.procedure.SameButPasswords checking request.blotted.procedure where
  search := rfl
  unchecked := by
    rintro search ⟨⟩
    exact ⟨nofun, id⟩
  envelope := by
    have hinfo : request.blotted.info = request.info.blotted := rfl
    rw [procedure, procedure, hinfo, EndpointRequest.blotted, EndpointRequest.blotted,
      InfobaseInfo.blotted_blotted]
  setbackRecords := rfl
  abandoned := rfl
  conclude _ _ hcontents := request.closing_blotted hcontents.blotted_eq
  check := False.elim

theorem alike_perform (request : CreateInfobase) :
    request.perform.Alike checking request.blotted.perform := by
  rw [perform_eq, perform_eq]
  exact alike_of_procedures (GatewayTask.create request).prepares request.sameButPasswords

end CreateInfobase

end Operations

end InfobaseGateway
