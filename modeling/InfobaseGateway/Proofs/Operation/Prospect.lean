import InfobaseGateway.Proofs.Operation.Script

/-!
# What a program comes to

A program that was stopped between two of its steps is again a program, and what it can still do is
decided along its tree. It may have nothing left but to end; it may come to one more request, and
then go on as the reply says; and it may be known which requests it can send at all. These
prospects are stated without any surroundings, so they hold for every way in which other calls come
in between.
-/

namespace InfobaseGateway

namespace Operation

variable {α β : Type}

/-! ## Prospects -/

/-- Only notes and readings of the clock are left. Whatever the clock says, the program ends with a
result that has the property. -/
inductive Ends (P : α → Prop) : Operation α → Prop
  | done {result : α} (hresult : P result) : Ends P (.done result)
  | note (n : Note) {next : Operation α} (hnext : Ends P next) : Ends P (.note n next)
  | clock {next : Instant → Operation α} (hnext : ∀ now, Ends P (next now)) :
      Ends P (.clock next)

/-- The program comes to a request, unless its caller withdraws or there is no endpoint: then it
ends with a failure. After the request the rest is as the reply says. -/
inductive Comes (failure : α → Prop) (request : EndpointRequest)
    (onwards : Except String EndpointResponse → Operation α → Prop) : Operation α → Prop
  | note (n : Note) {next : Operation α} (hnext : Comes failure request onwards next) :
      Comes failure request onwards (.note n next)
  | clock {next : Instant → Operation α} (hnext : ∀ now, Comes failure request onwards (next now)) :
      Comes failure request onwards (.clock next)
  | checkpoint {next : Bool → Operation α} (hwithdrawn : (next true).Ends failure)
      (hnext : Comes failure request onwards (next false)) :
      Comes failure request onwards (.checkpoint next)
  | acquire {abandoned : List Event} {next : Except String Unit → Operation α}
      (hfailed : ∀ text, (next (.error text)).Ends failure)
      (hnext : Comes failure request onwards (next (.ok ()))) :
      Comes failure request onwards (.acquire abandoned next)
  | send {abandoned : List Event} {next : Except String EndpointResponse → Operation α}
      (hnext : ∀ reply, onwards reply (next reply)) :
      Comes failure request onwards (.send request abandoned next)

/-- Whatever it is told, the program sends no requests but those with the property. -/
inductive SendsOnly (good : EndpointRequest → Prop) : Operation α → Prop
  | done (result : α) : SendsOnly good (.done result)
  | note (n : Note) {next : Operation α} (hnext : SendsOnly good next) :
      SendsOnly good (.note n next)
  | checkpoint {next : Bool → Operation α} (hnext : ∀ withdrawn, SendsOnly good (next withdrawn)) :
      SendsOnly good (.checkpoint next)
  | clock {next : Instant → Operation α} (hnext : ∀ now, SendsOnly good (next now)) :
      SendsOnly good (.clock next)
  | acquire {abandoned : List Event} {next : Except String Unit → Operation α}
      (hnext : ∀ reply, SendsOnly good (next reply)) :
      SendsOnly good (.acquire abandoned next)
  | send {request : EndpointRequest} {abandoned : List Event}
      {next : Except String EndpointResponse → Operation α} (hgood : good request)
      (hnext : ∀ reply, SendsOnly good (next reply)) :
      SendsOnly good (.send request abandoned next)

/-! ## Programs without contacts

Most properties of programs speak of contacts and results. Such a property passes over the notes
and the clock readings of a program that only ends, so nothing more has to be said about the
records of an operation before its first contact and after its last one. -/

/-- A property that a program has if it has it after its next note or its next reading of the
clock. -/
structure Quiet (Q : Operation α → Prop) : Prop where
  note : ∀ n {next : Operation α}, Q next → Q (.note n next)
  clock : ∀ {next : Instant → Operation α}, (∀ now, Q (next now)) → Q (.clock next)

theorem Ends.bind_quiet
    {P : α → Prop} {Q : Operation β → Prop} {p : Operation α} {f : α → Operation β}
    (h : p.Ends P) (hQ : Quiet Q) (hf : ∀ result, P result → Q (f result)) : Q (p.bind f) := by
  induction h with
  | done hresult => exact hf _ hresult
  | note n hnext ih => exact hQ.note n ih
  | clock hnext ih => exact hQ.clock ih

theorem Ends.of_quiet
    {P : α → Prop} {Q : Operation α → Prop} {p : Operation α}
    (h : p.Ends P) (hQ : Quiet Q) (hdone : ∀ result, P result → Q (.done result)) : Q p := by
  rw [← p.bind_done]
  exact h.bind_quiet hQ hdone

theorem ends_log (events : List Event) : (log events).Ends fun _ => True := by
  induction events with
  | nil => exact .done trivial
  | cons event events ih => exact .note (.event event) ih

theorem Quiet.log_bind
    {Q : Operation α → Prop} (hQ : Quiet Q) (events : List Event) {f : Unit → Operation α}
    (hrest : Q (f ())) : Q ((log events).bind f) :=
  (ends_log events).bind_quiet hQ fun _ _ => hrest

theorem quiet_ends (P : α → Prop) : Quiet (Ends P) :=
  ⟨.note, .clock⟩

theorem quiet_comes
    (failure : α → Prop) (request : EndpointRequest)
    (onwards : Except String EndpointResponse → Operation α → Prop) :
    Quiet (Comes failure request onwards) :=
  ⟨.note, .clock⟩

theorem quiet_sendsOnly (good : EndpointRequest → Prop) :
    Quiet (SendsOnly good : Operation α → Prop) :=
  ⟨.note, .clock⟩

/-! ## Programs in sequence -/

theorem Ends.bind
    {P : α → Prop} {Q : β → Prop} {p : Operation α} {f : α → Operation β}
    (h : p.Ends P) (hf : ∀ result, P result → (f result).Ends Q) : (p.bind f).Ends Q :=
  h.bind_quiet (quiet_ends Q) hf

theorem Ends.mono
    {P Q : α → Prop} {p : Operation α} (h : p.Ends P) (hPQ : ∀ result, P result → Q result) :
    p.Ends Q :=
  h.of_quiet (quiet_ends Q) fun _ hresult => .done (hPQ _ hresult)

theorem Comes.bind
    {failure : α → Prop} {failure' : β → Prop} {request : EndpointRequest}
    {onwards : Except String EndpointResponse → Operation α → Prop}
    {onwards' : Except String EndpointResponse → Operation β → Prop}
    {p : Operation α} {f : α → Operation β} (h : p.Comes failure request onwards)
    (hfailure : ∀ result, failure result → (f result).Ends failure')
    (honwards : ∀ reply rest, onwards reply rest → onwards' reply (rest.bind f)) :
    (p.bind f).Comes failure' request onwards' := by
  induction h with
  | note n hnext ih => exact .note n ih
  | clock hnext ih => exact .clock ih
  | checkpoint hwithdrawn hnext ih => exact .checkpoint (hwithdrawn.bind hfailure) ih
  | acquire hfailed hnext ih => exact .acquire (fun text => (hfailed text).bind hfailure) ih
  | send hnext => exact .send fun reply => honwards reply _ (hnext reply)

section SendsOnly

variable {good : EndpointRequest → Prop}

theorem SendsOnly.bind
    {p : Operation α} {f : α → Operation β} (h : p.SendsOnly good)
    (hf : ∀ result, (f result).SendsOnly good) : (p.bind f).SendsOnly good := by
  induction h with
  | done result => exact hf result
  | note n hnext ih => exact .note n ih
  | checkpoint hnext ih => exact .checkpoint ih
  | clock hnext ih => exact .clock ih
  | acquire hnext ih => exact .acquire ih
  | send hgood hnext ih => exact .send hgood ih

theorem SendsOnly.mono
    {better : EndpointRequest → Prop} {p : Operation α} (h : p.SendsOnly good)
    (hbetter : ∀ request, good request → better request) : p.SendsOnly better := by
  induction h with
  | done result => exact .done result
  | note n hnext ih => exact .note n ih
  | checkpoint hnext ih => exact .checkpoint ih
  | clock hnext ih => exact .clock ih
  | acquire hnext ih => exact .acquire ih
  | send hgood hnext ih => exact .send (hbetter _ hgood) ih

theorem Ends.sendsOnly {P : α → Prop} {p : Operation α} (h : p.Ends P) : p.SendsOnly good :=
  h.of_quiet (quiet_sendsOnly good) fun result _ => .done result

/-- A program that follows a script sends only what the script has. -/
theorem Follows.sendsOnly {ε : Type}
    {answered : Prop} {script : List Cue} {p : Operation (Except ε α)}
    (h : p.Follows answered script) :
    p.SendsOnly fun request => .send request ∈ contactsOf script := by
  have hlater {cue : Cue} {script : List Cue} {p : Operation (Except ε α)}
      (hrest : p.SendsOnly fun request => .send request ∈ contactsOf script) :
      p.SendsOnly fun request => .send request ∈ contactsOf (cue :: script) :=
    hrest.mono fun request hmem => (mem_contactsOf_cons_iff cue script _).mpr (.inr hmem)
  induction h with
  | failed answered script error => exact .done _
  | succeeded script result hanswered => exact .done _
  | note n hnext ih => exact .note n ih
  | clock hnext ih => exact .clock ih
  | checkpoint hwithdrawn hnext ihWithdrawn ih =>
    refine .checkpoint fun withdrawn => ?_
    cases withdrawn with
    | true => exact ihWithdrawn.mono fun request hmem => nomatch hmem
    | false => exact hlater ih
  | acquire hfailed hnext ihFailed ih =>
    refine .acquire fun reply => ?_
    cases reply with
    | error text => exact (ihFailed text).mono fun request hmem => nomatch hmem
    | ok => exact hlater ih
  | @send answered script request proceeds abandoned next hnext hstop ihNext ihStop =>
    refine .send ((mem_contactsOf_cons_iff _ _ _).mpr (.inl rfl)) fun reply => ?_
    by_cases hproceeds : proceeds reply
    · exact hlater (ihNext reply hproceeds)
    · exact (ihStop reply hproceeds).mono fun request hmem => nomatch hmem

end SendsOnly

end Operation

end InfobaseGateway
