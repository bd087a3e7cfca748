import InfobaseGateway.ErrorCode
import InfobaseGateway.Message.Lifecycle
import InfobaseGateway.Message.Query
import InfobaseGateway.Request.Types

/-!
# From messages to requests

A message becomes a request when each of its numbers has a meaning: enumerations must hold a known
number, and points in time must be representable. The first field that fails decides the error.
-/

namespace InfobaseGateway

/-- Why a message is not a request. -/
inductive ConversionError
  | unknownNumber (field : String) (number : Int32)
  | unspecified (field : String)
  | timeOutOfRange (field : String)
  deriving DecidableEq

def ConversionError.message : ConversionError → String
  | unknownNumber field number =>
    field ++ ": unknown enum value " ++ toString number.toInt
  | unspecified field => field ++ " must not be unspecified when present"
  | timeOutOfRange field => field ++ ": timestamp is out of range"

/-- Every message that does not convert is the caller's mistake. -/
def ConversionError.code (_ : ConversionError) : ErrorCode :=
  .invalidArgument

/-- The database system of a number; 0 is none. -/
def DbmsKind.ofNumber (field : String) (number : Int32) :
    Except ConversionError (Option DbmsKind) :=
  if number = 0 then .ok none
  else if number = 1 then .ok (some .mssqlServer)
  else if number = 2 then .ok (some .postgreSql)
  else if number = 3 then .ok (some .ibmDb2)
  else if number = 4 then .ok (some .oracleDatabase)
  else .error (.unknownNumber field number)

/-- The database system of a number that must name one if it is given. -/
def DbmsKind.ofOptionalNumber (field : String) :
    Option Int32 → Except ConversionError (Option DbmsKind)
  | none => .ok none
  | some number => do
    match ← DbmsKind.ofNumber field number with
    | some kind => .ok (some kind)
    | none => .error (.unspecified field)

/-- The security level of a number. Unspecified is level 0. -/
def securityLevelOf (field : String) : Option Int32 → Except ConversionError (Option UInt32)
  | none => .ok none
  | some number =>
    if number = 0 then .ok (some 0)
    else if number = 1 then .ok (some 0)
    else if number = 2 then .ok (some 1)
    else if number = 3 then .ok (some 2)
    else if number = 4 then .ok (some 3)
    else .error (.unknownNumber field number)

/-- The drop mode of a number; 0 is none. -/
def DropMode.ofNumber (field : String) (number : Int32) :
    Except ConversionError (Option DropMode) :=
  if number = 0 then .ok none
  else if number = 1 then .ok (some .unregisterOnly)
  else if number = 2 then .ok (some .dropDatabase)
  else if number = 3 then .ok (some .clearDatabase)
  else .error (.unknownNumber field number)

/-- The instant of a point in time. -/
def instantOf (field : String) : Option Timestamp → Except ConversionError (Option Instant)
  | none => .ok none
  | some t =>
    match Instant.ofParts? t.seconds.toInt t.nanos.toInt with
    | some instant => .ok (some instant)
    | none => .error (.timeOutOfRange field)

/-- The request that a creation message makes. -/
def CreateInfobase.ofMessage (message : CreateInfobaseRequest) :
    Except ConversionError CreateInfobase := do
  let dbms ← DbmsKind.ofNumber "dbms" message.dbms
  let securityLevel ← securityLevelOf "security_level" message.securityLevel
  .ok {
    clusterId := message.clusterId
    name := message.name
    dbms := dbms
    dbServer := message.dbServer
    dbName := message.dbName
    dbUser := message.dbUser
    dbPassword := message.dbPassword
    locale := message.locale
    dateOffset := message.dateOffset
    description := message.description
    securityLevel := securityLevel
    scheduledJobsDeny := message.scheduledJobsDeny
    licenseDistributionAllow := message.licenseDistributionAllow
    credentials := ⟨message.clusterUser, message.clusterPassword⟩ }

def UpdateInfobase.ofMessage (message : UpdateInfobaseRequest) :
    Except ConversionError UpdateInfobase := do
  let dbms ← DbmsKind.ofOptionalNumber "dbms" message.dbms
  let securityLevel ← securityLevelOf "security_level" message.securityLevel
  let deniedFrom ← instantOf "denied_from" message.deniedFrom
  let deniedTo ← instantOf "denied_to" message.deniedTo
  .ok {
    clusterId := message.clusterId
    infobaseId := message.infobaseId
    sessionsDeny := message.sessionsDeny
    scheduledJobsDeny := message.scheduledJobsDeny
    deniedMessage := message.deniedMessage
    deniedFrom := deniedFrom
    deniedTo := deniedTo
    permissionCode := message.permissionCode
    dbms := dbms
    dbServer := message.dbServer
    dbName := message.dbName
    dbUser := message.dbUser
    dbPassword := message.dbPassword
    description := message.description
    securityLevel := securityLevel
    locale := message.locale
    dateOffset := message.dateOffset
    licenseDistributionAllow := message.licenseDistributionAllow
    credentials := ⟨message.clusterUser, message.clusterPassword⟩ }

def DropInfobase.ofMessage (message : DropInfobaseRequest) :
    Except ConversionError DropInfobase := do
  let dropMode ← DropMode.ofNumber "drop_mode" message.dropMode
  .ok {
    clusterId := message.clusterId
    infobaseId := message.infobaseId
    dropMode := dropMode
    credentials := ⟨message.clusterUser, message.clusterPassword⟩ }

def LockInfobase.ofMessage (message : LockInfobaseRequest) :
    Except ConversionError LockInfobase := do
  let deniedFrom ← instantOf "denied_from" message.deniedFrom
  let deniedTo ← instantOf "denied_to" message.deniedTo
  .ok {
    clusterId := message.clusterId
    infobaseId := message.infobaseId
    sessionsDeny := message.sessionsDeny
    scheduledJobsDeny := message.scheduledJobsDeny
    deniedFrom := deniedFrom
    deniedTo := deniedTo
    deniedMessage := message.deniedMessage
    permissionCode := message.permissionCode
    credentials := ⟨message.clusterUser, message.clusterPassword⟩ }

def UnlockInfobase.ofMessage (message : UnlockInfobaseRequest) : UnlockInfobase where
  clusterId := message.clusterId
  infobaseId := message.infobaseId
  unlockSessions := message.unlockSessions
  unlockScheduledJobs := message.unlockScheduledJobs
  credentials := ⟨message.clusterUser, message.clusterPassword⟩

def TerminateSession.ofMessage (message : TerminateSessionRequest) : TerminateSession where
  clusterId := message.clusterId
  sessionId := message.sessionId

namespace Authenticate

/-- The check of agent credentials that a message asks for. -/
def ofAgentMessage (message : AuthenticateAgentRequest) : Authenticate where
  scope := .agent
  credentials := ⟨some message.user, some message.password⟩

def ofClusterMessage (message : ClusterAuthenticateRequest) : Authenticate where
  scope := .cluster message.clusterId
  credentials := ⟨some message.user, some message.password⟩

def ofInfobaseMessage (message : AuthenticateInfobaseRequest) : Authenticate where
  scope := .infobase message.clusterId
  credentials := ⟨some message.user, some message.password⟩

end Authenticate

end InfobaseGateway
