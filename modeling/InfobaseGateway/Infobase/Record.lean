import InfobaseGateway.Member

/-!
# Infobase records

The record of an infobase, as gateway and administration service exchange it. Every attribute is
optional, so the same type serves as a complete record and as a patch that carries only the
attributes to change.
-/

namespace InfobaseGateway

/-- The database systems that can hold an infobase. -/
inductive DbmsKind
  | mssqlServer
  | postgreSql
  | ibmDb2
  | oracleDatabase
  deriving DecidableEq

namespace DbmsKind

def all : List DbmsKind :=
  [mssqlServer, postgreSql, ibmDb2, oracleDatabase]

/-- The name of a database system in the administration protocol. -/
def name : DbmsKind → String
  | mssqlServer => "MSSQLServer"
  | postgreSql => "PostgreSQL"
  | ibmDb2 => "IBMDB2"
  | oracleDatabase => "OracleDatabase"

def ofName? (name : String) : Option DbmsKind :=
  all.find? fun kind => kind.name = name

def view : DbmsKind → String
  | mssqlServer => "MssqlServer"
  | postgreSql => "PostgreSql"
  | ibmDb2 => "IbmDb2"
  | oracleDatabase => "OracleDatabase"

end DbmsKind

instance : HasDatum DbmsKind := ⟨fun kind => .word kind.name kind.view⟩

/-- What happens to the database when an infobase is removed. -/
inductive DropMode
  | unregisterOnly
  | dropDatabase
  | clearDatabase
  deriving DecidableEq

namespace DropMode

def all : List DropMode :=
  [unregisterOnly, dropDatabase, clearDatabase]

/-- The name of a mode, as callers write it. -/
def name : DropMode → String
  | unregisterOnly => "DROP_MODE_UNREGISTER_ONLY"
  | dropDatabase => "DROP_MODE_DROP_DATABASE"
  | clearDatabase => "DROP_MODE_CLEAR_DATABASE"

def ofName? (name : String) : Option DropMode :=
  all.find? fun mode => mode.name = name

def view : DropMode → String
  | unregisterOnly => "UnregisterOnly"
  | dropDatabase => "DropDatabase"
  | clearDatabase => "ClearDatabase"

end DropMode

instance : HasDatum DropMode := ⟨fun mode => .word mode.name mode.view⟩

/-- The attributes of an infobase; an absent one is unknown or not to be changed. -/
structure Attributes where
  name : Option String := none
  dbms : Option DbmsKind := none
  dbServer : Option String := none
  dbName : Option String := none
  dbUser : Option String := none
  dbPassword : Option String := none
  locale : Option String := none
  dateOffset : Option Int32 := none
  description : Option String := none
  securityLevel : Option UInt32 := none
  sessionsDeny : Option Bool := none
  scheduledJobsDeny : Option Bool := none
  deniedFrom : Option Instant := none
  deniedTo : Option Instant := none
  deniedMessage : Option String := none
  permissionCode : Option String := none
  licenseDistribution : Option UInt32 := none
  deriving DecidableEq

/-- The attributes of `patch` where they are present, and those of `base` elsewhere. -/
def Attributes.over (patch base : Attributes) : Attributes where
  name := patch.name <|> base.name
  dbms := patch.dbms <|> base.dbms
  dbServer := patch.dbServer <|> base.dbServer
  dbName := patch.dbName <|> base.dbName
  dbUser := patch.dbUser <|> base.dbUser
  dbPassword := patch.dbPassword <|> base.dbPassword
  locale := patch.locale <|> base.locale
  dateOffset := patch.dateOffset <|> base.dateOffset
  description := patch.description <|> base.description
  securityLevel := patch.securityLevel <|> base.securityLevel
  sessionsDeny := patch.sessionsDeny <|> base.sessionsDeny
  scheduledJobsDeny := patch.scheduledJobsDeny <|> base.scheduledJobsDeny
  deniedFrom := patch.deniedFrom <|> base.deniedFrom
  deniedTo := patch.deniedTo <|> base.deniedTo
  deniedMessage := patch.deniedMessage <|> base.deniedMessage
  permissionCode := patch.permissionCode <|> base.permissionCode
  licenseDistribution := patch.licenseDistribution <|> base.licenseDistribution

/-- An infobase of a cluster. The uuid is present once the infobase exists. -/
structure InfobaseInfo extends Attributes where
  clusterId : String
  uuid : Option String := none
  deriving DecidableEq

namespace InfobaseInfo

/-- The record after a patch; its cluster and its uuid stay as they are. -/
def patchedBy (record patch : InfobaseInfo) : InfobaseInfo :=
  { record with toAttributes := patch.toAttributes.over record.toAttributes }

/-- The code for licences that the infobase may or may not distribute. -/
def licenseCode (allow : Bool) : UInt32 :=
  if allow then 0 else 1

end InfobaseInfo

def InfobaseInfo.members (info : InfobaseInfo) : List Member :=
  [.ofValue "cluster_id" info.clusterId,
    .ofOption "uuid" info.uuid,
    .ofOption "name" info.name,
    .ofOption "dbms" info.dbms,
    .ofOption "db_server" info.dbServer,
    .ofOption "db_name" info.dbName,
    .ofOption "db_user" info.dbUser,
    .ofPassword "db_password" info.dbPassword,
    .ofOption "locale" info.locale,
    .ofOption "date_offset" info.dateOffset,
    .ofOption "description" info.description,
    .ofOption "security_level" info.securityLevel,
    .ofOption "sessions_deny" info.sessionsDeny,
    .ofOption "scheduled_jobs_deny" info.scheduledJobsDeny,
    .ofOption "denied_from" info.deniedFrom,
    .ofOption "denied_to" info.deniedTo,
    .ofOption "denied_message" info.deniedMessage,
    .ofOption "permission_code" info.permissionCode,
    .ofOption "license_distribution" info.licenseDistribution]

def InfobaseInfo.view (info : InfobaseInfo) : String :=
  Text.showRecord "InfobaseInfo" (info.members.map Member.view)

end InfobaseGateway
