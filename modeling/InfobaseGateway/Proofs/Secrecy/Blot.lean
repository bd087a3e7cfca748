import InfobaseGateway.Proofs.Endpoint
import InfobaseGateway.Rpc.Handler
import InfobaseGateway.Store.Service

/-!
# Blotting out passwords

Two messages, two requests or two stores are the same but for their passwords if they are equal
after every password was blotted out. Blotting leaves an empty password empty and an absent one
absent, so it hides what a password says and nothing else. Which members hold passwords is listed
here by hand, type by type, and not taken from the roles of the fields.
-/

namespace InfobaseGateway

/-! ## Passwords -/

/-- A password with its contents blotted out. -/
def blot (password : String) : String :=
  if password = "" then "" else "?"

@[simp]
theorem blot_blot (password : String) : blot (blot password) = blot password := by
  unfold blot
  split
  · rfl
  · rfl

theorem map_blot_map_blot (password : Option String) :
    (password.map blot).map blot = password.map blot := by
  cases password with
  | none => rfl
  | some password => simp

/-- The mask of the log hides as much as blotting does. -/
@[simp]
theorem maskText_blot (password : String) : maskText (blot password) = maskText password := by
  unfold blot maskText
  by_cases hempty : password = ""
  · simp [hempty]
  · simp [hempty]

/-! ## Records and requests -/

/-- A record without the contents of its password. -/
def InfobaseInfo.blotted (info : InfobaseInfo) : InfobaseInfo :=
  { info with dbPassword := info.dbPassword.map blot }

def Credentials.blotted (credentials : Credentials) : Credentials :=
  { credentials with password := credentials.password.map blot }

def CreateInfobase.blotted (request : CreateInfobase) : CreateInfobase :=
  { request with
    dbPassword := request.dbPassword.map blot, credentials := request.credentials.blotted }

def UpdateInfobase.blotted (request : UpdateInfobase) : UpdateInfobase :=
  { request with
    dbPassword := request.dbPassword.map blot, credentials := request.credentials.blotted }

def DropInfobase.blotted (request : DropInfobase) : DropInfobase :=
  { request with credentials := request.credentials.blotted }

def LockInfobase.blotted (lock : LockInfobase) : LockInfobase :=
  { lock with credentials := lock.credentials.blotted }

def UnlockInfobase.blotted (unlock : UnlockInfobase) : UnlockInfobase :=
  { unlock with credentials := unlock.credentials.blotted }

def Authenticate.blotted (request : Authenticate) : Authenticate :=
  { request with credentials := request.credentials.blotted }

/-! ## Envelopes and responses -/

def EndpointRequest.blotted : EndpointRequest → EndpointRequest
  | authenticate auth => authenticate auth.blotted
  | createInfobase info => createInfobase info.blotted
  | updateInfobase info => updateInfobase info.blotted
  | unregisterInfobase info => unregisterInfobase info.blotted
  | request => request

/-- The envelope asks for a check of credentials. -/
def EndpointRequest.IsCheck : EndpointRequest → Prop
  | authenticate _ => True
  | _ => False

def EndpointResponse.blotted : EndpointResponse → EndpointResponse
  | infobase info => infobase info.blotted
  | response => response

@[simp]
theorem InfobaseInfo.blotted_blotted (info : InfobaseInfo) :
    info.blotted.blotted = info.blotted := by
  simp only [blotted, map_blot_map_blot]

@[simp]
theorem Authenticate.blotted_blotted (request : Authenticate) :
    request.blotted.blotted = request.blotted := by
  simp only [blotted, Credentials.blotted, map_blot_map_blot]

namespace EndpointRequest

@[simp]
theorem name_blotted (request : EndpointRequest) : request.blotted.name = request.name := by
  cases request with
  | _ => rfl

@[simp]
theorem expects_blotted (request : EndpointRequest) :
    request.blotted.expects = request.expects := by
  cases request with
  | _ => rfl

@[simp]
theorem isCheck_blotted (request : EndpointRequest) :
    request.blotted.IsCheck ↔ request.IsCheck := by
  cases request with
  | _ => exact Iff.rfl

theorem IsCheck.expects_eq {request : EndpointRequest} (h : request.IsCheck) :
    request.expects = .authenticated := by
  cases request with
  | authenticate auth => rfl
  | _ => exact h.elim

end EndpointRequest

namespace EndpointResponse

@[simp]
theorem kind_blotted (response : EndpointResponse) : response.blotted.kind = response.kind := by
  cases response with
  | _ => rfl

/-- Only records hold passwords. -/
theorem content?_blotted
    {kind : ResponseKind} (hkind : kind ≠ .infobase) (response : EndpointResponse) :
    response.blotted.content? kind = response.content? kind := by
  cases response with
  | infobase info =>
    cases kind with
    | infobase => exact absurd rfl hkind
    | _ => rfl
  | _ => rfl

theorem content?_infobase_blotted (response : EndpointResponse) :
    response.blotted.content? .infobase =
      (response.content? .infobase).map InfobaseInfo.blotted := by
  cases response with
  | _ => rfl

end EndpointResponse

/-! ## Messages -/

namespace Rpc

/-- A message with its passwords changed: `db_password`, `cluster_password` and `password`. -/
def mapPasswords (change : String → String) : (rpc : Rpc) → rpc.Request → rpc.Request
  | createInfobase, message =>
    { message with
      dbPassword := message.dbPassword.map change
      clusterPassword := message.clusterPassword.map change }
  | updateInfobase, message =>
    { message with
      dbPassword := message.dbPassword.map change
      clusterPassword := message.clusterPassword.map change }
  | dropInfobase, message =>
    { message with clusterPassword := message.clusterPassword.map change }
  | lockInfobase, message =>
    { message with clusterPassword := message.clusterPassword.map change }
  | unlockInfobase, message =>
    { message with clusterPassword := message.clusterPassword.map change }
  | authenticateAgent, message => { message with password := change message.password }
  | authenticateCluster, message => { message with password := change message.password }
  | authenticateInfobase, message => { message with password := change message.password }
  | terminateSession, message | getClusters, message | getClusterInfo, message
  | getSessions, message | getShortInfobases, message | getInfobaseSessions, message => message

/-- A message without the contents of its passwords. -/
def blotted (rpc : Rpc) (message : rpc.Request) : rpc.Request :=
  rpc.mapPasswords blot message

theorem mapPasswords_mapPasswords
    (change change' : String → String) (rpc : Rpc) (message : rpc.Request) :
    rpc.mapPasswords change (rpc.mapPasswords change' message) =
      rpc.mapPasswords (change ∘ change') message := by
  cases rpc with
  | _ => simp only [mapPasswords, Option.map_map, Function.comp_apply]

end Rpc

end InfobaseGateway
