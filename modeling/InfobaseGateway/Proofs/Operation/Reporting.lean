import InfobaseGateway.Proofs.Operation.OwnEvents
import InfobaseGateway.Proofs.Operation.Performance

/-!
# What operations report at error level

A failure that is a system fault belongs in the log at error level, with its detail, and nothing
else does. The records are written where the failures arise: at the endpoint that cannot be had, at
the lookup, at the request, at the end of a removal. Whether they agree with the result is decided
along the tree of the program, which carries the detail that was reported last.

One failure arises where no record is written: a creation that is answered without the id of the new
infobase. It is a system fault by its code, but it leaves no record.
-/

namespace InfobaseGateway

/-! ## Records and failures -/

namespace Event

/-- A record of an operation at error level, with the detail of a failure. -/
structure Blames (event : Event) (detail : String) : Prop where
  operation : event.isOfStage = false
  level : event.level = .error
  detail : event.field? "error" = some detail

end Event

/-- A failure that has to be reported: a system fault, but for a missing id where that is
excused. -/
def GatewayError.IsReportable (excused : Prop) (error : GatewayError) : Prop :=
  error.isSystemFault = true ∧ ¬(excused ∧ error = .missingInfobaseId)

theorem isReportable_endpoint (excused : Prop) (error : EndpointError) :
    (GatewayError.endpoint error).IsReportable excused :=
  ⟨rfl, fun hexcused => nomatch hexcused.2⟩

/-- A request that fails at the endpoint is to be reported, whatever the endpoint replied. -/
theorem isReportable_of_receive
    {excused : Prop} {request : EndpointRequest} {reply : Except String EndpointResponse}
    {error : GatewayError} (hreceive : Dispatch.receive request reply = .error error) :
    error.IsReportable excused := by
  cases reply with
  | error text =>
    cases hreceive
    exact isReportable_endpoint excused _
  | ok response =>
    rw [Dispatch.eq_unexpectedResponse_of_receive_ok hreceive]
    exact ⟨rfl, fun hexcused => nomatch hexcused.2⟩

namespace Operation

variable {α β : Type} {excused : Prop} {told : Option String}

/-! ## Programs whose records agree with their results -/

/-- A program whose records at error level agree with its result, after `told` was reported last.
While it waits for its surroundings, it has reported nothing yet. -/
inductive Reports (excused : Prop) :
    Option String → Operation (Except GatewayError α) → Prop
  | silent {result : Except GatewayError α}
      (hquiet : ∀ error, result = .error error → ¬error.IsReportable excused) :
      Reports excused none (.done result)
  | reported {error : GatewayError} (hreportable : error.IsReportable excused) :
      Reports excused (some error.logDetail) (.done (.error error))
  | mild {told : Option String} {event : Event} {next : Operation (Except GatewayError α)}
      (hmild : event.Mild) (hnext : Reports excused told next) :
      Reports excused told (.note (.event event) next)
  | blame {told : Option String} {detail : String} {event : Event}
      {next : Operation (Except GatewayError α)}
      (hblames : event.Blames detail) (hnext : Reports excused (some detail) next) :
      Reports excused told (.note (.event event) next)
  | clock {told : Option String} {next : Instant → Operation (Except GatewayError α)}
      (hnext : ∀ now, Reports excused told (next now)) : Reports excused told (.clock next)
  | checkpoint {next : Bool → Operation (Except GatewayError α)}
      (hnext : ∀ withdrawn, Reports excused none (next withdrawn)) :
      Reports excused none (.checkpoint next)
  | acquire {abandoned : List Event}
      {next : Except String Unit → Operation (Except GatewayError α)}
      (habandoned : ∀ event ∈ abandoned, event.Mild)
      (hnext : ∀ reply, Reports excused none (next reply)) :
      Reports excused none (.acquire abandoned next)
  | send {request : EndpointRequest} {abandoned : List Event}
      {next : Except String EndpointResponse → Operation (Except GatewayError α)}
      (habandoned : ∀ event ∈ abandoned, event.Mild)
      (hnext : ∀ reply, Reports excused none (next reply)) :
      Reports excused none (.send request abandoned next)

/-- A failure that is not a system fault needs no record. -/
theorem Reports.rejected
    {error : GatewayError} (hfault : error.isSystemFault = false) :
    Reports excused none (.done (.error error : Except GatewayError α)) := by
  apply Reports.silent
  rintro _ ⟨⟩ ⟨hreportable, -⟩
  rw [hfault] at hreportable
  cases hreportable

end Operation

/-! ## Procedures that report their failures -/

namespace Records

/-- Records that all report one failure. There is at least one of them. -/
structure Blame (records : Records) (detail : String) : Prop
    extends records.All fun event => event.Blames detail where
  nonempty : records.events ≠ [] ∨ records.stamped? ≠ none

theorem Blame.of_event {event : Event} {detail : String} (hblames : event.Blames detail) :
    Blame { events := [event] } detail :=
  ⟨all_singleton hblames, .inl nofun⟩

end Records

namespace Closing

variable {α : Type} {excused : Prop} {closing : Closing α}

theorem reports_of_mild
    (hmild : closing.records.All Event.Mild)
    (hquiet : ∀ error, closing.result = .error error → ¬error.IsReportable excused) :
    closing.program.Reports excused none := by
  obtain ⟨⟨events, stamped?⟩, result⟩ := closing
  obtain ⟨hevents, hstamped⟩ := hmild
  dsimp only at hevents hstamped hquiet
  unfold program
  induction events with
  | nil =>
    cases stamped? with
    | none => exact .silent hquiet
    | some record => exact .clock fun now => .mild (hstamped record rfl now) (.silent hquiet)
  | cons event events ih =>
    obtain ⟨hevent, hothers⟩ := List.forall_mem_cons.mp hevents
    exact .mild hevent (ih hothers)

/-- The induction is on the records; what was told before them counts if there are none left. -/
theorem reports_log
    {error : GatewayError} {records : Records}
    (hblame : records.All fun event => event.Blames error.logDetail)
    (hreportable : error.IsReportable excused) {told : Option String}
    (htold : told = some error.logDetail ∨ records.events ≠ [] ∨ records.stamped? ≠ none) :
    (program ⟨records, .error error⟩ : Operation (Except GatewayError α)).Reports excused told := by
  obtain ⟨events, stamped?⟩ := records
  obtain ⟨hevents, hstamped⟩ := hblame
  dsimp only at hevents hstamped htold
  unfold program
  induction events generalizing told with
  | nil =>
    cases stamped? with
    | none =>
      obtain rfl : told = some error.logDetail := by simpa using htold
      exact .reported hreportable
    | some record =>
      exact .clock fun now => .blame (hstamped record rfl now) (.reported hreportable)
  | cons event events ih =>
    obtain ⟨hevent, hothers⟩ := List.forall_mem_cons.mp hevents
    exact .blame hevent (ih (.inl rfl) hothers)

theorem reports_of_blame
    {error : GatewayError} (hfails : closing.result = .error error)
    (hblame : closing.records.Blame error.logDetail) (hreportable : error.IsReportable excused) :
    closing.program.Reports excused none := by
  obtain ⟨records, result⟩ := closing
  cases hfails
  exact reports_log hblame.toAll hreportable (.inr hblame.nonempty)

end Closing

/-- How the records of a procedure agree with its results: the failures of provider and endpoint are
reported, and nothing else is. -/
structure Procedure.RecordsFaults {α : Type} (procedure : Procedure α) : Prop where
  withdrawn : ∀ look, (procedure.setbackRecords (.withdrawn look)).All Event.Mild
  unequipped : ∀ text, (procedure.setbackRecords (.unequipped text)).Blame
    (GatewayError.endpoint (.ofText text)).logDetail
  unanswered : ∀ error, error.isSystemFault = true →
    (procedure.setbackRecords (.unanswered error)).Blame error.logDetail
  answered : ∀ content, (procedure.conclude content).records.All Event.Mild
  unfound : ∀ search, procedure.search? = some search → ∀ error, error.isSystemFault = true →
    error.code ≠ .notFound → (search.failure error).records.Blame error.logDetail
  found : ∀ search, procedure.search? = some search → ∀ content closing,
    search.finding? content = some closing → closing.records.All Event.Mild
  abandoned : ∀ event ∈ procedure.abandoned, event.Mild

namespace Procedure

variable {α : Type} {procedure : Procedure α} {excused : Prop}

theorem reports_withdrawn (hrecords : procedure.RecordsFaults) (look : Look) :
    (procedure.setback (.withdrawn look)).program.Reports excused none := by
  refine Closing.reports_of_mild (hrecords.withdrawn look) ?_
  rintro _ ⟨⟩ hreportable
  cases look with
  | _ => cases hreportable.1

theorem reports_asking
    (hrecords : procedure.RecordsFaults) (hconcludes : procedure.Concludes excused) :
    procedure.asking.Reports excused none := by
  refine .checkpoint fun withdrawn => ?_
  cases withdrawn with
  | true => exact reports_withdrawn hrecords _
  | false =>
    refine .send hrecords.abandoned fun reply => ?_
    rw [closing]
    cases hreceive : Dispatch.receive procedure.envelope reply with
    | error error =>
      have hreportable : error.IsReportable excused := isReportable_of_receive hreceive
      exact Closing.reports_of_blame rfl (hrecords.unanswered error hreportable.1) hreportable
    | ok content =>
      refine Closing.reports_of_mild (hrecords.answered content) fun error hfails => ?_
      rcases hconcludes.answered content with ⟨value, hok⟩ | ⟨hexcused, hmissing⟩
      · cases hok.symm.trans hfails
      · cases hmissing.symm.trans hfails
        exact fun hreportable => hreportable.2 ⟨hexcused, rfl⟩

theorem reports_program
    (hrecords : procedure.RecordsFaults) (hconcludes : procedure.Concludes excused) :
    procedure.program.Reports excused none := by
  refine .checkpoint fun withdrawn => ?_
  cases withdrawn with
  | true => exact reports_withdrawn hrecords _
  | false =>
    refine .acquire hrecords.abandoned fun reply => ?_
    cases reply with
    | error text =>
      have hreportable := isReportable_endpoint excused (.ofText text)
      exact Closing.reports_of_blame rfl (hrecords.unequipped text) hreportable
    | ok =>
      dsimp only
      rw [searching]
      cases hsearch : procedure.search? with
      | none => exact reports_asking hrecords hconcludes
      | some search =>
        refine .send hrecords.abandoned fun reply => ?_
        rw [Search.onwards]
        cases hclosing : search.closing? reply with
        | none => exact reports_asking hrecords hconcludes
        | some closing =>
          rcases Search.closing?_cases hclosing with
            ⟨content, -, hfound⟩ | ⟨error, hreceive, hcode, rfl⟩
          · obtain ⟨value, hok⟩ := hconcludes.found search hsearch content closing hfound
            refine Closing.reports_of_mild (hrecords.found search hsearch _ _ hfound) ?_
            intro error hfails
            cases hok.symm.trans hfails
          · have hreportable : error.IsReportable excused := isReportable_of_receive hreceive
            have hblame := hrecords.unfound search hsearch error hreportable.1 hcode
            exact Closing.reports_of_blame rfl hblame hreportable

/-- A round trip reports the failures of provider and endpoint if its caller wants one record for
each. -/
theorem recordsFaults_roundTrip
    {operation : String} {envelope : EndpointRequest} {failureEvents : GatewayError → List Event}
    {events : List Event} {word : envelope.expects.Content → α}
    (hfailure : ∀ error, error.isSystemFault = true →
      ∃ event, failureEvents error = [event] ∧ event.Blames error.logDetail)
    (hevents : ∀ event ∈ events, event.Mild) :
    (roundTrip operation envelope failureEvents events word).RecordsFaults where
  withdrawn _ := Records.all_nil
  unequipped _ := .of_event ⟨rfl, rfl, rfl⟩
  unanswered error hfault := by
    obtain ⟨event, hevent, hblames⟩ := hfailure error hfault
    show Records.Blame { events := failureEvents error } error.logDetail
    rw [hevent]
    exact .of_event hblames
  answered _ := Records.all_events hevents
  unfound _ hsearch := nomatch hsearch
  found _ hsearch := nomatch hsearch
  abandoned := List.forall_mem_nil _

end Procedure

/-! ## Every task reports its failures -/

/-- The first field named `error` of the fields of a failure shows its detail. -/
theorem blames_of_fields
    {message : String} (hmessage : message ∉ stageMessages) {fields : EventFields}
    (hfields : ∀ field ∈ fields, field.1 ≠ "error") (error : GatewayError) :
    (⟨.error, message, fields ++ error.fields⟩ : Event).Blames error.logDetail where
  operation := by simpa [Event.isOfStage] using hmessage
  level := rfl
  detail := by
    have hnone : fields.find? (fun field => field.1 = "error") = none := by
      simpa using hfields
    simp [Event.field?, List.find?_append, hnone, GatewayError.fields]

theorem blames_requestFailure
    (operation clusterId : String) (infobaseId : Option String) {error : GatewayError}
    (hfault : error.isSystemFault = true) :
    (requestFailure operation clusterId infobaseId error).Blames error.logDetail := by
  rw [requestFailure, if_pos hfault]
  refine blames_of_fields (by decide) ?_ error
  cases infobaseId with
  | none => simp [optionalField]
  | some infobaseId => simp [optionalField]

/-- A question that is not answered leaves one record. -/
theorem Query.exists_failureEvent
    (operation : String) (clusterId : Option String) {error : GatewayError}
    (hfault : error.isSystemFault = true) :
    ∃ event, failureEvents operation clusterId error = [event] ∧
      event.Blames error.logDetail := by
  refine ⟨_, by rw [failureEvents, if_pos hfault], ?_⟩
  refine blames_of_fields (by decide) ?_ error
  cases clusterId with
  | none => simp [optionalField]
  | some clusterId => simp [optionalField]

theorem Query.recordsFaults (request : EndpointRequest) (clusterId : Option String) :
    (procedure request clusterId).RecordsFaults :=
  Procedure.recordsFaults_roundTrip (fun _ => exists_failureEvent _ _) (List.forall_mem_nil _)

theorem UpdateInfobase.recordsFaults (request : UpdateInfobase) :
    request.procedure.RecordsFaults := by
  refine Procedure.recordsFaults_roundTrip (fun error hfault => ?_) ?_
  · exact ⟨_, rfl, blames_requestFailure _ _ _ hfault⟩
  · exact List.forall_mem_singleton.mpr (Event.mild_of_info rfl rfl)

theorem TerminateSession.recordsFaults (request : TerminateSession) :
    request.procedure.RecordsFaults := by
  refine Procedure.recordsFaults_roundTrip (fun error hfault => ?_) ?_
  · refine ⟨_, by rw [failureEvents, if_pos hfault], ?_⟩
    exact blames_of_fields (by decide) (by simp [fields]) error
  · exact List.forall_mem_singleton.mpr (Event.mild_of_info rfl rfl)

theorem Authenticate.recordsFaults (request : Authenticate) :
    request.procedure.RecordsFaults := by
  refine Procedure.recordsFaults_roundTrip (fun _ => Query.exists_failureEvent _ _) ?_
  exact List.forall_mem_singleton.mpr (Event.mild_of_info rfl rfl)

/-- An endpoint that cannot be had is reported twice, by the acquisition and by the removal. -/
theorem DropInfobase.recordsFaults (request : DropInfobase) :
    request.procedure.RecordsFaults where
  withdrawn look := by
    cases look with
    | _ => exact Records.all_singleton (Event.mild_of_info rfl rfl)
  unequipped text := by
    refine ⟨⟨List.forall_mem_singleton.mpr ⟨rfl, rfl, rfl⟩, ?_⟩, .inl nofun⟩
    rintro record ⟨⟩ now
    exact ⟨rfl, rfl, rfl⟩
  unanswered error hfault := by
    refine ⟨⟨List.forall_mem_nil _, ?_⟩, .inr nofun⟩
    rintro record ⟨⟩ now
    exact ⟨rfl, rfl, rfl⟩
  answered content := by
    refine ⟨List.forall_mem_nil _, ?_⟩
    rintro record ⟨⟩ now
    exact ⟨rfl, nofun⟩
  unfound _ hsearch := nomatch hsearch
  found _ hsearch := nomatch hsearch
  abandoned := List.forall_mem_singleton.mpr (Event.mild_of_info rfl rfl)

/-- A lookup that fails because something was not found reports nothing, and the creation goes on;
every other failure of it is reported. -/
theorem CreateInfobase.recordsFaults (request : CreateInfobase) :
    request.procedure.RecordsFaults where
  withdrawn _ := Records.all_nil
  unequipped _ := .of_event ⟨rfl, rfl, rfl⟩
  unanswered _ hfault := .of_event (blames_requestFailure _ _ _ hfault)
  answered record := by
    show (request.closing record).records.All Event.Mild
    unfold closing
    cases request.ending record with
    | ok outcome => exact Records.all_singleton (Event.mild_of_info rfl rfl)
    | error error => exact Records.all_nil
  unfound := by
    rintro search ⟨⟩ error hfault hcode
    show Records.Blame { events := request.lookupFailure error } error.logDetail
    rw [lookupFailure, if_neg hcode]
    exact .of_event (blames_requestFailure _ _ _ hfault)
  found := by
    rintro search ⟨⟩ infobases closing hfinding
    obtain ⟨existing, -, rfl⟩ := Option.map_eq_some_iff.mp hfinding
    exact Records.all_singleton (Event.mild_of_info rfl rfl)
  abandoned := List.forall_mem_nil _

namespace GatewayTask

theorem recordsFaults (task : GatewayTask) : task.procedure.RecordsFaults := by
  cases task with
  | create request => exact request.recordsFaults
  | update request => exact request.recordsFaults
  | drop request => exact request.recordsFaults
  | lock request => exact request.update.recordsFaults
  | unlock request => exact request.update.recordsFaults
  | terminate request => exact request.recordsFaults
  | authenticate request => exact request.recordsFaults
  | clusters => exact Query.recordsFaults _ _
  | cluster clusterId | sessions clusterId | infobases clusterId => exact Query.recordsFaults _ _
  | infobaseSessions clusterId infobaseId => exact Query.recordsFaults _ _

theorem reports_perform (task : GatewayTask) :
    task.perform.outcome.Reports task.IsCreation none := by
  rw [outcome_perform]
  refine task.prepares.followedBy_induct (fun _ => True) ⟨⟨0, 0⟩, trivial⟩ .mild
    (fun hnext => .clock fun now => hnext now trivial) (fun now error _ hverdict => ?_) ?_
  · have hadmits := task.admits_admission now
    rw [hverdict] at hadmits
    cases hadmits with
    | invalid hinvalid error => exact .rejected rfl
    | unsupported hvalid hunsupported mode => exact .rejected rfl
  · exact Procedure.reports_program task.recordsFaults task.concludes

end GatewayTask

end InfobaseGateway
