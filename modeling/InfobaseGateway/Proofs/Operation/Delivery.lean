import InfobaseGateway.Proofs.Operation.Contract

/-!
# What changes come to

An update, a lock and an unlock stand for the same step at the service: they deliver one patch. On
the way to it the request may be refused, the caller may withdraw, and the endpoint may be missing;
then the change fails and delivers nothing. Once the patch is answered with an infobase, the change
has nothing left to do but to succeed.
-/

namespace InfobaseGateway

namespace Operation

variable {α β : Type}

/-! ## Programs on their way to one request -/

/-- The program ends with a failure, or it comes to the request. After the request the rest is as
the reply says. -/
inductive Approaches (failure : α → Prop) (request : EndpointRequest)
    (onwards : Except String EndpointResponse → Operation α → Prop) : Operation α → Prop
  | done {result : α} (hresult : failure result) : Approaches failure request onwards (.done result)
  | note (n : Note) {next : Operation α} (hnext : Approaches failure request onwards next) :
      Approaches failure request onwards (.note n next)
  | clock {next : Instant → Operation α}
      (hnext : ∀ now, Approaches failure request onwards (next now)) :
      Approaches failure request onwards (.clock next)
  | checkpoint {next : Bool → Operation α}
      (hnext : ∀ withdrawn, Approaches failure request onwards (next withdrawn)) :
      Approaches failure request onwards (.checkpoint next)
  | acquire {abandoned : List Event} {next : Except String Unit → Operation α}
      (hnext : ∀ reply, Approaches failure request onwards (next reply)) :
      Approaches failure request onwards (.acquire abandoned next)
  | send {abandoned : List Event} {next : Except String EndpointResponse → Operation α}
      (hnext : ∀ reply, onwards reply (next reply)) :
      Approaches failure request onwards (.send request abandoned next)

section Approaches

variable {failure : α → Prop} {request : EndpointRequest}
  {onwards : Except String EndpointResponse → Operation α → Prop}

theorem Ends.approaches {p : Operation α} (h : p.Ends failure) :
    p.Approaches failure request onwards := by
  induction h with
  | done hresult => exact .done hresult
  | note n hnext ih => exact .note n ih
  | clock hnext ih => exact .clock ih

theorem Approaches.bind
    {failure' : β → Prop} {onwards' : Except String EndpointResponse → Operation β → Prop}
    {p : Operation α} {f : α → Operation β} (h : p.Approaches failure request onwards)
    (hfailure : ∀ result, failure result → (f result).Ends failure')
    (honwards : ∀ reply rest, onwards reply rest → onwards' reply (rest.bind f)) :
    (p.bind f).Approaches failure' request onwards' := by
  induction h with
  | done hresult => exact (hfailure _ hresult).approaches
  | note n hnext ih => exact .note n ih
  | clock hnext ih => exact .clock ih
  | checkpoint hnext ih => exact .checkpoint ih
  | acquire hnext ih => exact .acquire ih
  | send hnext => exact .send fun reply => honwards reply _ (hnext reply)

theorem Comes.approaches
    {onwards' : Except String EndpointResponse → Operation α → Prop} {p : Operation α}
    (h : p.Comes failure request onwards)
    (honwards : ∀ reply rest, onwards reply rest → onwards' reply rest) :
    p.Approaches failure request onwards' := by
  induction h with
  | note n hnext ih => exact .note n ih
  | clock hnext ih => exact .clock ih
  | checkpoint hwithdrawn hnext ih =>
    refine .checkpoint fun withdrawn => ?_
    cases withdrawn with
    | true => exact hwithdrawn.approaches
    | false => exact ih
  | acquire hfailed hnext ih =>
    refine .acquire fun reply => ?_
    cases reply with
    | error text => exact (hfailed text).approaches
    | ok => exact ih
  | send hnext => exact .send fun reply => honwards reply _ (hnext reply)

end Approaches

/-! ## Programs that deliver a patch -/

/-- The program fails, or it comes to the patch, and succeeds if the patch is answered with an
infobase. -/
def Delivers {ε : Type} (patch : InfobaseInfo) (p : Operation (Except ε α)) : Prop :=
  p.Approaches (fun told => ∃ error, told = .error error) (.updateInfobase patch) fun reply rest =>
    ∀ info, reply = .ok (.infobase info) → rest.Ends fun told => ∃ value, told = .ok value

/-- What makes a failure of every failure and a success of every success delivers the same patch. -/
theorem Delivers.bind
    {ε ε' : Type} {patch : InfobaseInfo} {p : Operation (Except ε α)}
    {f : Except ε α → Operation (Except ε' β)} (h : p.Delivers patch)
    (herror : ∀ error, (f (.error error)).Ends fun told => ∃ error', told = .error error')
    (hok : ∀ value, (f (.ok value)).Ends fun told => ∃ value', told = .ok value') :
    (p.bind f).Delivers patch := by
  refine Approaches.bind h ?_ ?_
  · rintro _ ⟨error, rfl⟩
    exact herror error
  · intro reply rest hrest info hreply
    refine (hrest info hreply).bind ?_
    rintro _ ⟨value, rfl⟩
    exact hok value

end Operation

/-! ## Updates, locks and unlocks -/

/-- A task whose envelope is a patch delivers the patch. -/
theorem GatewayTask.delivers_perform
    {task : GatewayTask} {patch : InfobaseInfo}
    (henvelope : task.envelope = .updateInfobase patch) :
    task.perform.outcome.Delivers patch := by
  have hother : ¬task.IsCreation := by
    rintro ⟨request, rfl⟩
    cases henvelope
  have hpatch : task.procedure.envelope = .updateInfobase patch :=
    task.envelope_procedure.trans henvelope
  rw [outcome_perform]
  refine task.prepares.followedBy_quiet ⟨.note, .clock⟩ (fun _ error _ => .done ⟨error, rfl⟩) ?_
  have hpending := Procedure.pending_program (search?_eq_none hother)
  rw [Procedure.Pending, hpatch] at hpending
  refine hpending.approaches fun reply rest hends info hreply => ?_
  have hanswered : ∃ value, task.procedure.conclusion (.ok (.infobase info)) = .ok value := by
    apply task.concludes.exists_conclusion_eq_ok hother
    rw [hpatch]
    exact ⟨info, rfl⟩
  obtain ⟨value, hvalue⟩ := hanswered
  subst hreply
  exact hends.mono fun told htold => ⟨value, htold.trans hvalue⟩

end InfobaseGateway
