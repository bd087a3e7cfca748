import InfobaseGateway.Message.Nested

/-!
# Messages of the infobase lifecycle

Requests and responses for creating, changing, removing, locking and unlocking an infobase. Optional
fields tell "not given" from "given with the initial value".
-/

namespace InfobaseGateway

/-- The database systems, by number. -/
def dbmsTypes : Enumeration :=
  ⟨["Unspecified", "MssqlServer", "Postgresql", "IbmDb2", "Oracle"]⟩

/-- The security levels, by number. -/
def securityLevels : Enumeration :=
  ⟨["Unspecified", "Level0", "Level1", "Level2", "Level3"]⟩

/-- The ways to remove an infobase, by number. -/
def dropModes : Enumeration :=
  ⟨["Unspecified", "UnregisterOnly", "DropDatabase", "ClearDatabase"]⟩

/-- Asks for a new infobase in a cluster. -/
structure CreateInfobaseRequest where
  clusterId : String
  name : String
  dbms : Int32
  dbServer : String
  dbName : String
  dbUser : Option String
  dbPassword : Option String
  locale : Option String
  dateOffset : Option Int32
  description : Option String
  securityLevel : Option Int32
  scheduledJobsDeny : Option Bool
  licenseDistributionAllow : Option Bool
  clusterUser : Option String
  clusterPassword : Option String
  deriving DecidableEq

instance : Message CreateInfobaseRequest where
  schema := ⟨"CreateInfobaseRequest",
    [⟨"cluster_id", 1, .plain .text, .cluster⟩, ⟨"name", 2, .plain .text, .ordinary⟩,
      ⟨"dbms", 3, .plain (.choice dbmsTypes), .ordinary⟩,
      ⟨"db_server", 4, .plain .text, .ordinary⟩, ⟨"db_name", 5, .plain .text, .ordinary⟩,
      ⟨"db_user", 6, .optional .text, .ordinary⟩,
      ⟨"db_password", 7, .optional .text, .credential⟩,
      ⟨"locale", 8, .optional .text, .ordinary⟩, ⟨"date_offset", 9, .optional .int32, .ordinary⟩,
      ⟨"description", 10, .optional .text, .ordinary⟩,
      ⟨"security_level", 11, .optional (.choice securityLevels), .ordinary⟩,
      ⟨"scheduled_jobs_deny", 12, .optional .flag, .ordinary⟩,
      ⟨"license_distribution_allow", 13, .optional .flag, .ordinary⟩,
      ⟨"cluster_user", 14, .optional .text, .user⟩,
      ⟨"cluster_password", 15, .optional .text, .credential⟩]⟩
  toRecord message :=
    (message.clusterId, message.name, message.dbms, message.dbServer, message.dbName,
      message.dbUser, message.dbPassword, message.locale, message.dateOffset,
      message.description, message.securityLevel, message.scheduledJobsDeny,
      message.licenseDistributionAllow, message.clusterUser, message.clusterPassword, ())
  ofRecord := fun
    | (clusterId, name, dbms, dbServer, dbName, dbUser, dbPassword, locale, dateOffset,
        description, securityLevel, scheduledJobsDeny, licenseDistributionAllow, clusterUser,
        clusterPassword, ()) =>
      ⟨clusterId, name, dbms, dbServer, dbName, dbUser, dbPassword, locale, dateOffset,
        description, securityLevel, scheduledJobsDeny, licenseDistributionAllow, clusterUser,
        clusterPassword⟩
  ofRecord_toRecord _ := rfl
  toRecord_ofRecord _ := rfl

/-- Names the infobase that was created or found. -/
structure CreateInfobaseResponse where
  infobaseId : String
  name : String
  message : String
  success : Bool
  deriving DecidableEq

instance : Message CreateInfobaseResponse where
  schema := ⟨"CreateInfobaseResponse",
    [⟨"infobase_id", 1, .plain .text, .ordinary⟩, ⟨"name", 2, .plain .text, .ordinary⟩,
      ⟨"message", 3, .plain .text, .ordinary⟩, ⟨"success", 4, .plain .flag, .ordinary⟩]⟩
  toRecord message :=
    (message.infobaseId, message.name, message.message, message.success, ())
  ofRecord := fun
    | (infobaseId, name, message, success, ()) =>
      ⟨infobaseId, name, message, success⟩
  ofRecord_toRecord _ := rfl
  toRecord_ofRecord _ := rfl

/-- Asks to change the attributes of an infobase that are present. -/
structure UpdateInfobaseRequest where
  clusterId : String
  infobaseId : String
  sessionsDeny : Option Bool
  scheduledJobsDeny : Option Bool
  deniedMessage : Option String
  deniedFrom : Option Timestamp
  deniedTo : Option Timestamp
  permissionCode : Option String
  dbms : Option Int32
  dbServer : Option String
  dbName : Option String
  dbUser : Option String
  dbPassword : Option String
  description : Option String
  securityLevel : Option Int32
  locale : Option String
  dateOffset : Option Int32
  licenseDistributionAllow : Option Bool
  clusterUser : Option String
  clusterPassword : Option String
  deriving DecidableEq

instance : Message UpdateInfobaseRequest where
  schema := ⟨"UpdateInfobaseRequest",
    [⟨"cluster_id", 1, .plain .text, .cluster⟩, ⟨"infobase_id", 2, .plain .text, .infobase⟩,
      ⟨"sessions_deny", 3, .optional .flag, .ordinary⟩,
      ⟨"scheduled_jobs_deny", 4, .optional .flag, .ordinary⟩,
      ⟨"denied_message", 5, .optional .text, .ordinary⟩,
      ⟨"denied_from", 6, .nested Timestamp.layout, .ordinary⟩,
      ⟨"denied_to", 7, .nested Timestamp.layout, .ordinary⟩,
      ⟨"permission_code", 8, .optional .text, .ordinary⟩,
      ⟨"dbms", 9, .optional (.choice dbmsTypes), .ordinary⟩,
      ⟨"db_server", 10, .optional .text, .ordinary⟩, ⟨"db_name", 11, .optional .text, .ordinary⟩,
      ⟨"db_user", 12, .optional .text, .ordinary⟩,
      ⟨"db_password", 13, .optional .text, .credential⟩,
      ⟨"description", 14, .optional .text, .ordinary⟩,
      ⟨"security_level", 15, .optional (.choice securityLevels), .ordinary⟩,
      ⟨"locale", 16, .optional .text, .ordinary⟩,
      ⟨"date_offset", 17, .optional .int32, .ordinary⟩,
      ⟨"license_distribution_allow", 18, .optional .flag, .ordinary⟩,
      ⟨"cluster_user", 19, .optional .text, .user⟩,
      ⟨"cluster_password", 20, .optional .text, .credential⟩]⟩
  toRecord message :=
    (message.clusterId, message.infobaseId, message.sessionsDeny, message.scheduledJobsDeny,
      message.deniedMessage, message.deniedFrom.map Timestamp.toSlots,
      message.deniedTo.map Timestamp.toSlots, message.permissionCode, message.dbms,
      message.dbServer, message.dbName, message.dbUser, message.dbPassword, message.description,
      message.securityLevel, message.locale, message.dateOffset,
      message.licenseDistributionAllow, message.clusterUser, message.clusterPassword, ())
  ofRecord := fun
    | (clusterId, infobaseId, sessionsDeny, scheduledJobsDeny, deniedMessage, deniedFrom,
        deniedTo, permissionCode, dbms, dbServer, dbName, dbUser, dbPassword, description,
        securityLevel, locale, dateOffset, licenseDistributionAllow, clusterUser,
        clusterPassword, ()) =>
      ⟨clusterId, infobaseId, sessionsDeny, scheduledJobsDeny, deniedMessage,
        deniedFrom.map Timestamp.ofSlots, deniedTo.map Timestamp.ofSlots, permissionCode, dbms,
        dbServer, dbName, dbUser, dbPassword, description, securityLevel, locale, dateOffset,
        licenseDistributionAllow, clusterUser, clusterPassword⟩
  ofRecord_toRecord message := by cases message; simp [Function.comp_def]
  toRecord_ofRecord record := by simp [Function.comp_def]

/-- Confirms an update. -/
structure UpdateInfobaseResponse where
  infobaseId : String
  message : String
  success : Bool
  deriving DecidableEq

instance : Message UpdateInfobaseResponse where
  schema := ⟨"UpdateInfobaseResponse",
    [⟨"infobase_id", 1, .plain .text, .ordinary⟩, ⟨"message", 2, .plain .text, .ordinary⟩,
      ⟨"success", 3, .plain .flag, .ordinary⟩]⟩
  toRecord message :=
    (message.infobaseId, message.message, message.success, ())
  ofRecord := fun
    | (infobaseId, message, success, ()) =>
      ⟨infobaseId, message, success⟩
  ofRecord_toRecord _ := rfl
  toRecord_ofRecord _ := rfl

/-- Asks to remove an infobase. -/
structure DropInfobaseRequest where
  clusterId : String
  infobaseId : String
  dropMode : Int32
  clusterUser : Option String
  clusterPassword : Option String
  deriving DecidableEq

instance : Message DropInfobaseRequest where
  schema := ⟨"DropInfobaseRequest",
    [⟨"cluster_id", 1, .plain .text, .cluster⟩, ⟨"infobase_id", 2, .plain .text, .infobase⟩,
      ⟨"drop_mode", 3, .plain (.choice dropModes), .ordinary⟩,
      ⟨"cluster_user", 4, .optional .text, .user⟩,
      ⟨"cluster_password", 5, .optional .text, .credential⟩]⟩
  toRecord message :=
    (message.clusterId, message.infobaseId, message.dropMode, message.clusterUser,
      message.clusterPassword, ())
  ofRecord := fun
    | (clusterId, infobaseId, dropMode, clusterUser, clusterPassword, ()) =>
      ⟨clusterId, infobaseId, dropMode, clusterUser, clusterPassword⟩
  ofRecord_toRecord _ := rfl
  toRecord_ofRecord _ := rfl

/-- Confirms a removal. -/
structure DropInfobaseResponse where
  infobaseId : String
  message : String
  success : Bool
  deriving DecidableEq

instance : Message DropInfobaseResponse where
  schema := ⟨"DropInfobaseResponse",
    [⟨"infobase_id", 1, .plain .text, .ordinary⟩, ⟨"message", 2, .plain .text, .ordinary⟩,
      ⟨"success", 3, .plain .flag, .ordinary⟩]⟩
  toRecord message :=
    (message.infobaseId, message.message, message.success, ())
  ofRecord := fun
    | (infobaseId, message, success, ()) =>
      ⟨infobaseId, message, success⟩
  ofRecord_toRecord _ := rfl
  toRecord_ofRecord _ := rfl

/-- Asks to deny sessions or scheduled jobs of an infobase, for a time window. -/
structure LockInfobaseRequest where
  clusterId : String
  infobaseId : String
  sessionsDeny : Bool
  scheduledJobsDeny : Bool
  deniedFrom : Option Timestamp
  deniedTo : Option Timestamp
  deniedMessage : Option String
  permissionCode : Option String
  clusterUser : Option String
  clusterPassword : Option String
  deriving DecidableEq

instance : Message LockInfobaseRequest where
  schema := ⟨"LockInfobaseRequest",
    [⟨"cluster_id", 1, .plain .text, .cluster⟩, ⟨"infobase_id", 2, .plain .text, .infobase⟩,
      ⟨"sessions_deny", 3, .plain .flag, .ordinary⟩,
      ⟨"scheduled_jobs_deny", 4, .plain .flag, .ordinary⟩,
      ⟨"denied_from", 5, .nested Timestamp.layout, .ordinary⟩,
      ⟨"denied_to", 6, .nested Timestamp.layout, .ordinary⟩,
      ⟨"denied_message", 7, .optional .text, .ordinary⟩,
      ⟨"permission_code", 8, .optional .text, .ordinary⟩,
      ⟨"cluster_user", 9, .optional .text, .user⟩,
      ⟨"cluster_password", 10, .optional .text, .credential⟩]⟩
  toRecord message :=
    (message.clusterId, message.infobaseId, message.sessionsDeny, message.scheduledJobsDeny,
      message.deniedFrom.map Timestamp.toSlots, message.deniedTo.map Timestamp.toSlots,
      message.deniedMessage, message.permissionCode, message.clusterUser,
      message.clusterPassword, ())
  ofRecord := fun
    | (clusterId, infobaseId, sessionsDeny, scheduledJobsDeny, deniedFrom, deniedTo,
        deniedMessage, permissionCode, clusterUser, clusterPassword, ()) =>
      ⟨clusterId, infobaseId, sessionsDeny, scheduledJobsDeny, deniedFrom.map Timestamp.ofSlots,
        deniedTo.map Timestamp.ofSlots, deniedMessage, permissionCode, clusterUser,
        clusterPassword⟩
  ofRecord_toRecord message := by cases message; simp [Function.comp_def]
  toRecord_ofRecord record := by simp [Function.comp_def]

/-- Confirms a lock. -/
structure LockInfobaseResponse where
  infobaseId : String
  message : String
  success : Bool
  deriving DecidableEq

instance : Message LockInfobaseResponse where
  schema := ⟨"LockInfobaseResponse",
    [⟨"infobase_id", 1, .plain .text, .ordinary⟩, ⟨"message", 2, .plain .text, .ordinary⟩,
      ⟨"success", 3, .plain .flag, .ordinary⟩]⟩
  toRecord message :=
    (message.infobaseId, message.message, message.success, ())
  ofRecord := fun
    | (infobaseId, message, success, ()) =>
      ⟨infobaseId, message, success⟩
  ofRecord_toRecord _ := rfl
  toRecord_ofRecord _ := rfl

/-- Asks to admit sessions or scheduled jobs again. -/
structure UnlockInfobaseRequest where
  clusterId : String
  infobaseId : String
  unlockSessions : Bool
  unlockScheduledJobs : Bool
  clusterUser : Option String
  clusterPassword : Option String
  deriving DecidableEq

instance : Message UnlockInfobaseRequest where
  schema := ⟨"UnlockInfobaseRequest",
    [⟨"cluster_id", 1, .plain .text, .cluster⟩, ⟨"infobase_id", 2, .plain .text, .infobase⟩,
      ⟨"unlock_sessions", 3, .plain .flag, .ordinary⟩,
      ⟨"unlock_scheduled_jobs", 4, .plain .flag, .ordinary⟩,
      ⟨"cluster_user", 5, .optional .text, .user⟩,
      ⟨"cluster_password", 6, .optional .text, .credential⟩]⟩
  toRecord message :=
    (message.clusterId, message.infobaseId, message.unlockSessions, message.unlockScheduledJobs,
      message.clusterUser, message.clusterPassword, ())
  ofRecord := fun
    | (clusterId, infobaseId, unlockSessions, unlockScheduledJobs, clusterUser, clusterPassword,
        ()) =>
      ⟨clusterId, infobaseId, unlockSessions, unlockScheduledJobs, clusterUser, clusterPassword⟩
  ofRecord_toRecord _ := rfl
  toRecord_ofRecord _ := rfl

/-- Confirms an unlock. -/
structure UnlockInfobaseResponse where
  infobaseId : String
  message : String
  success : Bool
  deriving DecidableEq

instance : Message UnlockInfobaseResponse where
  schema := ⟨"UnlockInfobaseResponse",
    [⟨"infobase_id", 1, .plain .text, .ordinary⟩, ⟨"message", 2, .plain .text, .ordinary⟩,
      ⟨"success", 3, .plain .flag, .ordinary⟩]⟩
  toRecord message :=
    (message.infobaseId, message.message, message.success, ())
  ofRecord := fun
    | (infobaseId, message, success, ()) =>
      ⟨infobaseId, message, success⟩
  ofRecord_toRecord _ := rfl
  toRecord_ofRecord _ := rfl

end InfobaseGateway
