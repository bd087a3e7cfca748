import InfobaseGateway.Proofs.Secrecy.Call

/-!
# Passwords leave no trace

A history of calls is served one call after the other. Two histories that are the same but for the
contents of their passwords have the same log, the same replies and, but for the passwords that are
stored, the same service after them. The one thing that may tell passwords apart is whether they are
right, so the histories have to agree on which checks of credentials are accepted.
-/

namespace InfobaseGateway

/-! ## Histories of calls -/

/-- A call that comes in. -/
structure Invocation where
  rpc : Rpc
  message : rpc.Request

/-- How a call came back. A call without a result was abandoned. -/
structure Reply where
  rpc : Rpc
  result : Option (Except Status rpc.Response)

/-- What is left of a history: all events in order, all replies in order, and the situation at the
end. -/
structure Transcript where
  events : List Event
  replies : List Reply
  final : Situation

def Invocation.blotted (invocation : Invocation) : Invocation :=
  ⟨invocation.rpc, invocation.rpc.blotted invocation.message⟩

/-- The verdict of a check of credentials: whether it was accepted. Other calls have none. -/
def Reply.verdict? (reply : Reply) : Option Bool :=
  if reply.rpc ∈ Rpc.authenticating then
    match reply.result with
    | some (.ok _) => some true
    | _ => some false
  else none

/-- The verdicts of all checks of credentials, in order. -/
def Transcript.verdicts (transcript : Transcript) : List Bool :=
  transcript.replies.filterMap Reply.verdict?

section Histories

variable (uuids : Nat → String) (course : Course)

def Invocation.run (invocation : Invocation) (s : Situation) :
    Run Situation (Except Status invocation.rpc.Response) :=
  (invocation.rpc.serve invocation.message).run (Service.during uuids course) s

/-- Serves calls one after the other. -/
def serveAll : List Invocation → Situation → Transcript
  | [], s => ⟨[], [], s⟩
  | invocation :: rest, s =>
    let run := invocation.run uuids course s
    let later := serveAll rest run.final
    ⟨run.events ++ later.events, ⟨invocation.rpc, run.outcome⟩ :: later.replies, later.final⟩

end Histories

/-! ## Histories that differ in passwords -/

variable {uuids : Nat → String} {course : Course}

/-- Two transcripts that tell the same, where only stored passwords may differ. -/
structure Transcript.Alike (transcript transcript' : Transcript) : Prop where
  events : transcript.events = transcript'.events
  replies : transcript.replies = transcript'.replies
  final : transcript.final.blotted = transcript'.final.blotted

/-- A check of credentials has a verdict, which says whether it came back with success. -/
theorem Reply.exists_verdict
    {rpc : Rpc} (hchecks : rpc ∈ Rpc.authenticating)
    (result : Option (Except Status rpc.Response)) :
    ∃ accepted, verdict? ⟨rpc, result⟩ = some accepted ∧
      (accepted = true ↔ ∃ value, result = some (.ok value)) := by
  unfold verdict?
  simp only [if_pos hchecks]
  rcases result with _ | _ | value
  · exact ⟨false, rfl, by simp⟩
  · exact ⟨false, rfl, by simp⟩
  · exact ⟨true, rfl, by simp⟩

theorem Reply.verdict?_eq_iff
    {rpc : Rpc} (hchecks : rpc ∈ Rpc.authenticating)
    (run run' : Run Situation (Except Status rpc.Response)) :
    verdict? ⟨rpc, run.outcome⟩ = verdict? ⟨rpc, run'.outcome⟩ ↔
      (run.Succeeded ↔ run'.Succeeded) := by
  obtain ⟨accepted, hfirst, haccepted⟩ := exists_verdict hchecks run.outcome
  obtain ⟨accepted', hsecond, haccepted'⟩ := exists_verdict hchecks run'.outcome
  unfold Run.Succeeded
  rw [hfirst, hsecond, Option.some_inj, Bool.eq_iff_iff, haccepted, haccepted']

/-- Replies of one method have a verdict both or neither. -/
theorem Reply.verdicts_of_cons
    {rpc : Rpc} {result result' : Option (Except Status rpc.Response)}
    {rest rest' : List Reply}
    (hverdicts :
      (⟨rpc, result⟩ :: rest).filterMap verdict? = (⟨rpc, result'⟩ :: rest').filterMap verdict?) :
    verdict? ⟨rpc, result⟩ = verdict? ⟨rpc, result'⟩ ∧
      rest.filterMap verdict? = rest'.filterMap verdict? := by
  by_cases hchecks : rpc ∈ Rpc.authenticating
  · obtain ⟨accepted, hfirst, -⟩ := exists_verdict hchecks result
    obtain ⟨accepted', hsecond, -⟩ := exists_verdict hchecks result'
    rw [List.filterMap_cons_some hfirst, List.filterMap_cons_some hsecond] at hverdicts
    obtain ⟨hhead, htail⟩ := List.cons.inj hverdicts
    rw [hfirst, hsecond, hhead]
    exact ⟨rfl, htail⟩
  · have hnone (result : Option (Except Status rpc.Response)) :
        verdict? ⟨rpc, result⟩ = none := if_neg hchecks
    rw [List.filterMap_cons_none (hnone result), List.filterMap_cons_none (hnone result')]
      at hverdicts
    exact ⟨(hnone result).trans (hnone result').symm, hverdicts⟩

/-- One call of a history. -/
theorem Invocation.run_alike
    {rpc : Rpc} {message message' : rpc.Request}
    (hsame : rpc.blotted message = rpc.blotted message') {s s' : Situation}
    (hs : s.blotted = s'.blotted)
    (hverdict :
      Reply.verdict? ⟨rpc, ((⟨rpc, message⟩ : Invocation).run uuids course s).outcome⟩ =
        Reply.verdict? ⟨rpc, ((⟨rpc, message'⟩ : Invocation).run uuids course s').outcome⟩) :
    ((⟨rpc, message⟩ : Invocation).run uuids course s).Alike
      ((⟨rpc, message'⟩ : Invocation).run uuids course s') := by
  refine (rpc.alike_serve_of_blotted_eq hsame).run hs ?_
  intro hchecks
  exact (Reply.verdict?_eq_iff hchecks _ _).mp hverdict

/-- The induction is on the first history: every call leaves services that are the same but for
their passwords, which is what the next one starts from. -/
theorem serveAll_alike_of_blotted_eq
    {first second : List Invocation}
    (hsame : first.map Invocation.blotted = second.map Invocation.blotted)
    {s s' : Situation} (hs : s.blotted = s'.blotted)
    (hverdicts :
      (serveAll uuids course first s).verdicts = (serveAll uuids course second s').verdicts) :
    (serveAll uuids course first s).Alike (serveAll uuids course second s') := by
  induction first generalizing second s s' with
  | nil =>
    cases second with
    | nil => exact ⟨rfl, rfl, hs⟩
    | cons invocation second => cases hsame
  | cons invocation first ih =>
    cases second with
    | nil => cases hsame
    | cons invocation' second =>
      obtain ⟨rpc, message⟩ := invocation
      obtain ⟨rpc', message'⟩ := invocation'
      obtain ⟨hhead, htail⟩ := List.cons.inj hsame
      obtain ⟨rfl, hmessage⟩ := Invocation.mk.inj hhead
      obtain ⟨hverdict, hrest⟩ := Reply.verdicts_of_cons hverdicts
      have hruns := Invocation.run_alike (eq_of_heq hmessage) hs hverdict
      have hlater := ih htail hruns.final hrest
      have hevents := congrArg₂ (· ++ ·) hruns.events hlater.events
      have hreplies :
          (⟨rpc, ((⟨rpc, message⟩ : Invocation).run uuids course s).outcome⟩ : Reply) =
            ⟨rpc, ((⟨rpc, message'⟩ : Invocation).run uuids course s').outcome⟩ :=
        congrArg (Reply.mk rpc) hruns.outcome
      exact ⟨hevents, congrArg₂ List.cons hreplies hlater.replies, hlater.final⟩

/-- Two histories of calls at one service, which differ in nothing but the contents of
`db_password`, `cluster_password` and `password` and agree on which checks of credentials are
accepted, cannot be told apart: their events, their replies and, but for the passwords that are
stored, their services are the same. -/
theorem serveAll_alike
    (uuids : Nat → String) (course : Course) (s : Situation) {first second : List Invocation}
    (hsame : first.map Invocation.blotted = second.map Invocation.blotted)
    (hverdicts :
      (serveAll uuids course first s).verdicts = (serveAll uuids course second s).verdicts) :
    (serveAll uuids course first s).Alike (serveAll uuids course second s) :=
  serveAll_alike_of_blotted_eq hsame rfl hverdicts

/-- A check of credentials, and a creation whose infobase gets the same password. -/
def callsWith (password : String) : List Invocation :=
  [⟨.authenticateCluster, "c-1", "admin", password⟩,
    ⟨.createInfobase, "c-1", "trade", 2, "db-1", "trade", some "sa", some password, none, none,
      none, none, none, none, some "admin", some password⟩]

/-- A cluster with one administrator. -/
def guardedCluster : Situation :=
  ⟨⟨(Store.empty.addCluster "c-1").addClusterAdmin "c-1" ⟨"admin", "right"⟩, 0⟩, 0⟩

/-- Two wrong passwords of an administrator cannot be told apart. -/
theorem serveAll_alike_two_wrong_passwords :
    (callsWith "alpha").map Invocation.blotted = (callsWith "beta").map Invocation.blotted ∧
      (serveAll (fun _ => "ib-1") (Course.still ⟨0, 0⟩) (callsWith "alpha") guardedCluster).Alike
        (serveAll (fun _ => "ib-1") (Course.still ⟨0, 0⟩) (callsWith "beta") guardedCluster) := by
  have hsame :
      (callsWith "alpha").map Invocation.blotted = (callsWith "beta").map Invocation.blotted :=
    rfl
  have hfirst :
      (serveAll (fun _ => "ib-1") (Course.still ⟨0, 0⟩) (callsWith "alpha")
        guardedCluster).verdicts = [false] := rfl
  have hsecond :
      (serveAll (fun _ => "ib-1") (Course.still ⟨0, 0⟩) (callsWith "beta")
        guardedCluster).verdicts = [false] := rfl
  exact ⟨hsame, serveAll_alike _ _ _ hsame (hfirst.trans hsecond.symm)⟩

end InfobaseGateway
