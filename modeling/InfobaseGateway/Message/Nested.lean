import InfobaseGateway.Message.Schema

/-!
# Records nested in messages

Points in time and the entries of listings. Each is a flat record, and the layout says how.
-/

namespace InfobaseGateway

/-- A point in time as messages carry it; any two numbers will do. -/
structure Timestamp where
  seconds : Int64
  nanos : Int32
  deriving DecidableEq

namespace Timestamp

def layout : Layout :=
  ⟨"Timestamp", [⟨"seconds", 1, .int64⟩, ⟨"nanos", 2, .int32⟩]⟩

def toSlots (t : Timestamp) : Slots layout.slots :=
  (t.seconds, t.nanos, ())

def ofSlots : Slots layout.slots → Timestamp
  | (seconds, nanos, ()) => ⟨seconds, nanos⟩

@[simp]
theorem ofSlots_toSlots (t : Timestamp) : ofSlots (toSlots t) = t := rfl

@[simp]
theorem toSlots_ofSlots (slots : Slots layout.slots) : toSlots (ofSlots slots) = slots := rfl

end Timestamp

/-- A cluster in a listing. -/
structure ClusterInfo where
  uuid : String
  host : String
  port : UInt32
  name : String
  deriving DecidableEq

namespace ClusterInfo

def layout : Layout :=
  ⟨"ClusterInfo",
    [⟨"uuid", 1, .text⟩, ⟨"host", 2, .text⟩, ⟨"port", 3, .uint32⟩, ⟨"name", 4, .text⟩]⟩

def toSlots (c : ClusterInfo) : Slots layout.slots :=
  (c.uuid, c.host, c.port, c.name, ())

def ofSlots : Slots layout.slots → ClusterInfo
  | (uuid, host, port, name, ()) => ⟨uuid, host, port, name⟩

@[simp]
theorem ofSlots_toSlots (c : ClusterInfo) : ofSlots (toSlots c) = c := rfl

@[simp]
theorem toSlots_ofSlots (slots : Slots layout.slots) : toSlots (ofSlots slots) = slots := rfl

end ClusterInfo

/-- A session in a listing. The infobase id is empty when the session is bound to no infobase. -/
structure SessionEntry where
  uuid : String
  infobaseId : String
  userName : String
  appId : String
  deriving DecidableEq

namespace SessionEntry

def layout : Layout :=
  ⟨"SessionInfo",
    [⟨"uuid", 1, .text⟩, ⟨"infobase_id", 2, .text⟩, ⟨"user_name", 3, .text⟩,
      ⟨"app_id", 4, .text⟩]⟩

def toSlots (s : SessionEntry) : Slots layout.slots :=
  (s.uuid, s.infobaseId, s.userName, s.appId, ())

def ofSlots : Slots layout.slots → SessionEntry
  | (uuid, infobaseId, userName, appId, ()) => ⟨uuid, infobaseId, userName, appId⟩

@[simp]
theorem ofSlots_toSlots (s : SessionEntry) : ofSlots (toSlots s) = s := rfl

@[simp]
theorem toSlots_ofSlots (slots : Slots layout.slots) : toSlots (ofSlots slots) = slots := rfl

end SessionEntry

/-- An infobase in the short listing of a cluster. -/
structure InfobaseShort where
  uuid : String
  name : String
  description : String
  deriving DecidableEq

namespace InfobaseShort

def layout : Layout :=
  ⟨"InfobaseShort", [⟨"uuid", 1, .text⟩, ⟨"name", 2, .text⟩, ⟨"description", 3, .text⟩]⟩

def toSlots (i : InfobaseShort) : Slots layout.slots :=
  (i.uuid, i.name, i.description, ())

def ofSlots : Slots layout.slots → InfobaseShort
  | (uuid, name, description, ()) => ⟨uuid, name, description⟩

@[simp]
theorem ofSlots_toSlots (i : InfobaseShort) : ofSlots (toSlots i) = i := rfl

@[simp]
theorem toSlots_ofSlots (slots : Slots layout.slots) : toSlots (ofSlots slots) = slots := rfl

end InfobaseShort

end InfobaseGateway
