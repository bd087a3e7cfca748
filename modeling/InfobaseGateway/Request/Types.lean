import InfobaseGateway.Infobase.Record

/-!
# Requests

What callers can ask of the gateway, after the numbers of a message have become values with a
meaning. Locking and unlocking are special updates, and both creating and updating say which record
goes to the administration service.
-/

namespace InfobaseGateway

/-- Who acts on a cluster. -/
structure Credentials where
  user : Option String
  password : Option String
  deriving DecidableEq

def Credentials.members (credentials : Credentials) : List Member :=
  [.ofOption "user" credentials.user, .ofPassword "password" credentials.password]

/-- The structured view of credentials. -/
def Credentials.view (credentials : Credentials) : String :=
  Text.showRecord "ClusterCredentials" (credentials.members.map Member.view)

/-- A new infobase. -/
structure CreateInfobase where
  clusterId : String
  name : String
  dbms : Option DbmsKind
  dbServer : String
  dbName : String
  dbUser : Option String
  dbPassword : Option String
  locale : Option String
  dateOffset : Option Int32
  description : Option String
  securityLevel : Option UInt32
  scheduledJobsDeny : Option Bool
  licenseDistributionAllow : Option Bool
  credentials : Credentials
  deriving DecidableEq

namespace CreateInfobase

/-- The record of the new infobase: the service chooses its uuid. -/
def info (request : CreateInfobase) : InfobaseInfo where
  clusterId := request.clusterId
  name := some request.name
  dbms := request.dbms
  dbServer := some request.dbServer
  dbName := some request.dbName
  dbUser := request.dbUser
  dbPassword := request.dbPassword
  locale := request.locale
  dateOffset := request.dateOffset
  description := request.description
  securityLevel := request.securityLevel
  scheduledJobsDeny := request.scheduledJobsDeny
  licenseDistribution := request.licenseDistributionAllow.map InfobaseInfo.licenseCode

/-- The members of the request, its credentials aside. -/
def members (request : CreateInfobase) : List Member :=
  [.ofValue "cluster_id" request.clusterId,
    .ofValue "name" request.name,
    .ofOption "dbms" request.dbms,
    .ofValue "db_server" request.dbServer,
    .ofValue "db_name" request.dbName,
    .ofOption "db_user" request.dbUser,
    .ofPassword "db_password" request.dbPassword,
    .ofOption "locale" request.locale,
    .ofOption "date_offset" request.dateOffset,
    .ofOption "description" request.description,
    .ofOption "security_level" request.securityLevel,
    .ofOption "scheduled_jobs_deny" request.scheduledJobsDeny,
    .ofOption "license_distribution_allow" request.licenseDistributionAllow]

def view (request : CreateInfobase) : String :=
  Text.showRecord "CreateInfobase"
    (request.members.map Member.view ++ [("credentials", request.credentials.view)])

end CreateInfobase

/-- A change of the attributes that are present. -/
structure UpdateInfobase where
  clusterId : String
  infobaseId : String
  sessionsDeny : Option Bool := none
  scheduledJobsDeny : Option Bool := none
  deniedMessage : Option String := none
  deniedFrom : Option Instant := none
  deniedTo : Option Instant := none
  permissionCode : Option String := none
  dbms : Option DbmsKind := none
  dbServer : Option String := none
  dbName : Option String := none
  dbUser : Option String := none
  dbPassword : Option String := none
  description : Option String := none
  securityLevel : Option UInt32 := none
  locale : Option String := none
  dateOffset : Option Int32 := none
  licenseDistributionAllow : Option Bool := none
  credentials : Credentials
  deriving DecidableEq

namespace UpdateInfobase

/-- The patch that the update sends; it never renames the infobase. -/
def info (request : UpdateInfobase) : InfobaseInfo where
  clusterId := request.clusterId
  uuid := some request.infobaseId
  dbms := request.dbms
  dbServer := request.dbServer
  dbName := request.dbName
  dbUser := request.dbUser
  dbPassword := request.dbPassword
  locale := request.locale
  dateOffset := request.dateOffset
  description := request.description
  securityLevel := request.securityLevel
  sessionsDeny := request.sessionsDeny
  scheduledJobsDeny := request.scheduledJobsDeny
  deniedFrom := request.deniedFrom
  deniedTo := request.deniedTo
  deniedMessage := request.deniedMessage
  permissionCode := request.permissionCode
  licenseDistribution := request.licenseDistributionAllow.map InfobaseInfo.licenseCode

/-- The members of the request, its credentials aside. -/
def members (request : UpdateInfobase) : List Member :=
  [.ofValue "cluster_id" request.clusterId,
    .ofValue "infobase_id" request.infobaseId,
    .ofOption "sessions_deny" request.sessionsDeny,
    .ofOption "scheduled_jobs_deny" request.scheduledJobsDeny,
    .ofOption "denied_message" request.deniedMessage,
    .ofOption "denied_from" request.deniedFrom,
    .ofOption "denied_to" request.deniedTo,
    .ofOption "permission_code" request.permissionCode,
    .ofOption "dbms" request.dbms,
    .ofOption "db_server" request.dbServer,
    .ofOption "db_name" request.dbName,
    .ofOption "db_user" request.dbUser,
    .ofPassword "db_password" request.dbPassword,
    .ofOption "description" request.description,
    .ofOption "security_level" request.securityLevel,
    .ofOption "locale" request.locale,
    .ofOption "date_offset" request.dateOffset,
    .ofOption "license_distribution_allow" request.licenseDistributionAllow]

def view (request : UpdateInfobase) : String :=
  Text.showRecord "UpdateInfobase"
    (request.members.map Member.view ++ [("credentials", request.credentials.view)])

end UpdateInfobase

/-- The removal of an infobase. -/
structure DropInfobase where
  clusterId : String
  infobaseId : String
  dropMode : Option DropMode
  credentials : Credentials
  deriving DecidableEq

namespace DropInfobase

/-- The record that names the infobase to remove. -/
def info (request : DropInfobase) : InfobaseInfo where
  clusterId := request.clusterId
  uuid := some request.infobaseId

/-- The members of the request, its credentials aside. -/
def members (request : DropInfobase) : List Member :=
  [.ofValue "cluster_id" request.clusterId,
    .ofValue "infobase_id" request.infobaseId,
    .ofOption "drop_mode" request.dropMode]

def view (request : DropInfobase) : String :=
  Text.showRecord "DropInfobase"
    (request.members.map Member.view ++ [("credentials", request.credentials.view)])

end DropInfobase

/-- A denial of sessions or scheduled jobs, for a time window if one is given. -/
structure LockInfobase where
  clusterId : String
  infobaseId : String
  sessionsDeny : Bool
  scheduledJobsDeny : Bool
  deniedFrom : Option Instant
  deniedTo : Option Instant
  deniedMessage : Option String
  permissionCode : Option String
  credentials : Credentials
  deriving DecidableEq

namespace LockInfobase

/-- The update that a lock is. A restriction that is not asked for leaves its attribute as it is. -/
def update (lock : LockInfobase) : UpdateInfobase where
  clusterId := lock.clusterId
  infobaseId := lock.infobaseId
  sessionsDeny := if lock.sessionsDeny then some true else none
  scheduledJobsDeny := if lock.scheduledJobsDeny then some true else none
  deniedMessage := if lock.sessionsDeny then lock.deniedMessage else none
  deniedFrom := if lock.sessionsDeny then lock.deniedFrom else none
  deniedTo := if lock.sessionsDeny then lock.deniedTo else none
  permissionCode := if lock.sessionsDeny then lock.permissionCode else none
  credentials := lock.credentials

/-- The members of the request, its credentials aside. -/
def members (lock : LockInfobase) : List Member :=
  [.ofValue "cluster_id" lock.clusterId,
    .ofValue "infobase_id" lock.infobaseId,
    .ofValue "sessions_deny" lock.sessionsDeny,
    .ofValue "scheduled_jobs_deny" lock.scheduledJobsDeny,
    .ofOption "denied_from" lock.deniedFrom,
    .ofOption "denied_to" lock.deniedTo,
    .ofOption "denied_message" lock.deniedMessage,
    .ofOption "permission_code" lock.permissionCode]

def view (lock : LockInfobase) : String :=
  Text.showRecord "LockInfobase"
    (lock.members.map Member.view ++ [("credentials", lock.credentials.view)])

end LockInfobase

/-- The end of a denial. -/
structure UnlockInfobase where
  clusterId : String
  infobaseId : String
  unlockSessions : Bool
  unlockScheduledJobs : Bool
  credentials : Credentials
  deriving DecidableEq

namespace UnlockInfobase

/-- The update that an unlock is. Admitting sessions also clears the permission code. -/
def update (unlock : UnlockInfobase) : UpdateInfobase where
  clusterId := unlock.clusterId
  infobaseId := unlock.infobaseId
  sessionsDeny := if unlock.unlockSessions then some false else none
  scheduledJobsDeny := if unlock.unlockScheduledJobs then some false else none
  permissionCode := if unlock.unlockSessions then some "" else none
  credentials := unlock.credentials

/-- The members of the request, its credentials aside. -/
def members (unlock : UnlockInfobase) : List Member :=
  [.ofValue "cluster_id" unlock.clusterId,
    .ofValue "infobase_id" unlock.infobaseId,
    .ofValue "unlock_sessions" unlock.unlockSessions,
    .ofValue "unlock_scheduled_jobs" unlock.unlockScheduledJobs]

def view (unlock : UnlockInfobase) : String :=
  Text.showRecord "UnlockInfobase"
    (unlock.members.map Member.view ++ [("credentials", unlock.credentials.view)])

end UnlockInfobase

/-- The end of a session. -/
structure TerminateSession where
  clusterId : String
  sessionId : String
  deriving DecidableEq

def TerminateSession.members (request : TerminateSession) : List Member :=
  [.ofValue "cluster_id" request.clusterId, .ofValue "session_id" request.sessionId]

def TerminateSession.view (request : TerminateSession) : String :=
  Text.showRecord "TerminateSession" (request.members.map Member.view)

/-- What a set of credentials is for. -/
inductive AuthScope
  | agent
  | cluster (clusterId : String)
  | infobase (clusterId : String)
  deriving DecidableEq

namespace AuthScope

def name : AuthScope → String
  | agent => "agent"
  | cluster _ => "cluster"
  | infobase _ => "infobase"

/-- The cluster of a scope, unless it is the agent. -/
def clusterId? : AuthScope → Option String
  | agent => none
  | cluster id => some id
  | infobase id => some id

def view : AuthScope → String
  | agent => "Agent"
  | cluster id => Text.showRecord "Cluster" [("cluster_id", Text.quote id)]
  | infobase id => Text.showRecord "Infobase" [("cluster_id", Text.quote id)]

end AuthScope

/-- A check of credentials. -/
structure Authenticate where
  scope : AuthScope
  credentials : Credentials
  deriving DecidableEq

def Authenticate.view (request : Authenticate) : String :=
  Text.showRecord "Authenticate"
    (("scope", request.scope.view) :: request.credentials.members.map Member.view)

end InfobaseGateway
